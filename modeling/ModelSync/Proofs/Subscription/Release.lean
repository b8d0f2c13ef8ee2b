import ModelSync.Proofs.Subscription.Events
import ModelSync.Proofs.Subscription.Reads

/-! When a subscription is released. An acknowledged subscription is released once if it is
given up on this side, by a cancellation or because of an item that cannot be decoded, and
never if the endpoint ended it. -/
namespace ModelSync

variable {α : Type}

/-- How an active subscription ends. -/
inductive Ending where
  | canceled
  | undecodable
  /-- The endpoint completed it, failed it or closed its stream. -/
  | byEndpoint
deriving DecidableEq

/-- The end that an active subscription comes to by what it takes from its stream. -/
def Plan.ending? (plan : Plan α) : Arrival → Option Ending
  | .signal (.next item) =>
    match plan.decode item with
    | .ok _ => none
    | .error _ => some .undecodable
  | .signal (.started _) | .nothing => none
  | .signal (.error _) | .signal .completed | .ended => some .byEndpoint

namespace Operation

/-- The end that an active subscription comes to by a move, given what the move reads. -/
def endingBy? (operation : Operation α) (move : Move) (read : Option Read) : Option Ending :=
  if operation.phase.activeId?.isNone then none
  else
    match move with
    | .beginCancel => some .canceled
    | _ => read.bind fun taken => operation.plan.ending? taken.arrival

/-- How the subscription stopped being active in a run. -/
def ending? (operation : Operation α) : List Move → Option Ending
  | [] => none
  | move :: rest =>
    (operation.endingBy? move (operation.readBy move)).or ((operation.apply move).ending? rest)

/-- No call and no step is half done: nothing acknowledged has yet to be accepted or
released. -/
def isSettled (operation : Operation α) : Bool :=
  operation.canceling.isNone && operation.stage.id?.isNone

theorem ending?_concat (operation : Operation α) (moves : List Move) (move : Move) :
    operation.ending? (moves ++ [move]) =
      (operation.ending? moves).or
        ((operation.run moves).endingBy? move ((operation.run moves).readBy move)) := by
  induction moves generalizing operation with
  | nil => simp [ending?, run]
  | cons first rest ih => simp [ending?, ih, run, Option.or_assoc]

end Operation

/-- The ways in which a subscription in a phase may have stopped being active. -/
def Phase.Ended : Phase → Option Ending → Prop
  | .completed _, ending => ending = some .byEndpoint
  | .failed (some _), ending => ending = some .byEndpoint ∨ ending = some .undecodable
  | .canceled (some _), ending => ending = some .canceled
  | _, ending => ending = none

/-- The loop has not read an acknowledgment yet. -/
def Stage.isUnheard : Stage → Bool
  | .accepting _ _ | .forwarding _ | .releasing _ _ | .returned => false
  | _ => true

/-- The id that the loop has yet to release. -/
def Stage.owes? : Stage → Phase → Option String
  | .releasing id _, _ | .accepting id _, .canceled _ => some id
  | _, _ => none

theorem Stage.isUnheard_of_pending {stage : Stage} {stream : Nat}
    (pending : stage.pending? = some stream) : stage.isUnheard = true := by
  cases stage <;> simp_all [pending?, isUnheard]

theorem Stage.isUnheard_of_searching {stage : Stage} (searching : stage.isSearching = true) :
    stage.isUnheard = true := by
  cases stage <;> simp_all [isSearching, isUnheard]

private theorem Stage.owes?_of_id {stage : Stage} (nothing : stage.id? = none) (phase : Phase) :
    stage.owes? phase = none := by
  cases stage <;> simp_all [id?, owes?]

private theorem Stage.owes?_of_searching {stage : Stage} (searching : stage.isSearching = true)
    (phase : Phase) : stage.owes? phase = none := by
  cases stage <;> simp_all [isSearching, owes?]

namespace Operation

/-- The releases that a call or a step that is half done has yet to make. -/
def owed (operation : Operation α) : List String :=
  operation.canceling.toList ++ (operation.stage.owes? operation.phase).toList

/-- The releases that are to be made of an acknowledged id. -/
def due (operation : Operation α) (ending : Option Ending) (acknowledged : Option String) :
    List String :=
  if operation.phase.isCanceled = true ∨ ending = some .undecodable then acknowledged.toList else []

end Operation

/-- What was acknowledged and how the subscription ended account for its phase and for its
releases. -/
structure Ledger (operation : Operation α) (ending : Option Ending) (acknowledged : Option String) :
    Prop where
  ended : operation.phase.Ended ending
  unheard : operation.stage.isUnheard = true → acknowledged = none
  known : ∀ id, operation.Holds id → acknowledged = some id
  balance : operation.released ++ operation.owed = operation.due ending acknowledged

private theorem Phase.Ended.isCanceled {phase : Phase} (ended : phase.Ended (some .canceled)) :
    phase.isCanceled = true := by
  match phase, ended with
  | .canceled _, _ => rfl
  | .failed (some _), .inl other | .failed (some _), .inr other | .completed _, other => cases other

private theorem Phase.Ended.active_of_none {phase : Phase} (ended : phase.Ended none)
    (accepted : phase.subscriptionId? ≠ none) : phase.state = .active := by
  match phase, ended with
  | .active _, _ => rfl
  | .failed (some _), .inl other | .failed (some _), .inr other | .completed _, other
  | .canceled (some _), other => cases other
  | .idle, _ | .starting, _ | .failed none, _ | .canceled none, _ => exact absurd rfl accepted

private theorem Phase.Ended.not_isCanceled {phase : Phase}
    (ended : phase.Ended (some .byEndpoint)) : phase.isCanceled = false := by
  match phase, ended with
  | .failed _, _ | .completed _, _ => rfl

/-- Nothing is released, or has to be, of a subscription that goes on. -/
theorem Ledger.unreleased {operation : Operation α} {ending : Option Ending}
    {acknowledged : Option String} (ledger : Ledger operation ending acknowledged)
    (coherent : Coherent operation) (alive : operation.phase.state.isTerminal = false) :
    ending = none ∧ operation.canceling = none ∧ operation.released = [] := by
  have ended : ending = none := by
    have ended := ledger.ended
    cases phase : operation.phase <;>
      simp_all [Phase.state, SubscriptionState.isTerminal, Phase.Ended]
  have uncanceled : operation.phase.isCanceled = false := by
    cases phase : operation.phase <;>
      simp_all [Phase.state, SubscriptionState.isTerminal, Phase.isCanceled]
  have nothing : operation.canceling = none := by
    refine Option.eq_none_iff_forall_ne_some.2 fun id owed => ?_
    simp [coherent.canceling id owed, Phase.isCanceled] at uncanceled
  have balance := ledger.balance
  simp only [Operation.due, uncanceled, ended, reduceCtorEq, or_self, Bool.false_eq_true,
    ↓reduceIte, List.append_eq_nil_iff] at balance
  exact ⟨ended, nothing, balance.1⟩

namespace Transition

variable {operation next : Operation α} {move : Move} {read : Option Read} {ending : Option Ending}
  {acknowledged : Option String}

/-- A move that leaves the phase as it is ends nothing. -/
theorem endingBy?_eq_none (turned : Transition operation move read next)
    (coherent : Coherent operation) (same : next.phase = operation.phase) :
    operation.endingBy? move read = none := by
  have elsewhere (stage : ∀ stream, operation.stage ≠ .forwarding stream) :
      operation.endingBy? move read = none := by
    simp [Operation.endingBy?, coherent.suited.activeId?_eq_none stage]
  cases turned with
  | cancelAgain ended =>
    cases phase : operation.phase <;> simp_all [Operation.endingBy?, Phase.activeId?,
      Operation.state, Phase.state, SubscriptionState.isTerminal]
  | drop pending found =>
    exact elsewhere fun stream stage => by simp [stage, Stage.pending?] at pending
  | quit phase searching rejected kept =>
    exact elsewhere fun stream stage => by simp [stage, Stage.isSearching] at searching
  | retry stage rejected kept | giveUp loop stage rejected kept => exact elsewhere (by simp [stage])
  | _ => simp_all [Operation.endingBy?, Plan.ending?]

private theorem ended (turned : Transition operation move read next) (coherent : Coherent operation)
    (ended : operation.phase.Ended ending) :
    next.phase.Ended (ending.or (operation.endingBy? move read)) := by
  have silent := turned.endingBy?_eq_none coherent
  cases turned with
  | begin phase | abandon phase | forsake phase | cancel phase | fail phase | activate _ phase
  | spoil _ phase | complete _ phase =>
    simp_all [Phase.Ended, Operation.endingBy?, Plan.ending?, Phase.activeId?]
  | breakOff stage phase cause kept =>
    rcases cause with rfl | ⟨rfl, _⟩ <;>
      simp_all [Phase.Ended, Operation.endingBy?, Plan.ending?, Phase.activeId?]
  | _ => simpa [silent rfl] using ended

/-- What a move reads before an acknowledgment is none. -/
theorem unheard (turned : Transition operation move read next) (coherent : Coherent operation)
    (waiting : next.stage.isUnheard = true) :
    operation.stage.isUnheard = true ∧ acknowledgedId? read.toList = none := by
  cases turned with
  | begin phase =>
    simp [coherent.unbegun_of_idle phase, Stage.isUnheard, acknowledgedId?]
  | prepare prepared =>
    cases prepared <;> simp_all [Stage.isUnheard, acknowledgedId?]
  | drop pending found => simp_all [Stage.isUnheard, acknowledgedId?, Arrival.acknowledgedId?]
  | retry stage rejected kept =>
    simp_all [Stage.isUnheard, acknowledgedId?, Arrival.acknowledgedId?_of_rejected rejected]
  | _ => simp_all [Stage.isUnheard, acknowledgedId?, Arrival.acknowledgedId?]

private theorem known (turned : Transition operation move read next)
    (unheard : operation.stage.isUnheard = true → acknowledged = none)
    (known : ∀ id, operation.Holds id → acknowledged = some id) (id : String)
    (held : next.Holds id) : acknowledged.or (acknowledgedId? read.toList) = some id := by
  rcases turned.holds held with before | ⟨stream, pending, rfl⟩
  · simp [known id before]
  · have silent := unheard (Stage.isUnheard_of_pending pending)
    simp [silent, acknowledgedId?, Arrival.acknowledgedId?]

/-- Only the first answer to an attempt can be an acknowledgment that matters. -/
theorem acknowledged_kept (turned : Transition operation move read next)
    (known : ∀ id, operation.Holds id → acknowledged = some id)
    (waiting : next.stage.id? = operation.stage.id? ∨ next.stage.id? = none) :
    acknowledged.or (acknowledgedId? read.toList) = acknowledged := by
  have silent (taken : Read)
      (rejected : ∃ error, taken.arrival.answer? = some (.rejected error)) :
      acknowledgedId? [taken] = none := by
    obtain ⟨error, answer⟩ := rejected
    simp [acknowledgedId?, Arrival.acknowledgedId?_of_rejected answer]
  cases turned with
  | hear stage | hearLate stage => simp [stage, Stage.id?] at waiting
  | repeated stage phase kept | spoil stage phase | breakOff stage phase =>
    simp [known _ (.inl (show operation.phase.subscriptionId? = some _ by
      rw [phase, Phase.subscriptionId?]))]
  | drop pending found | forward stage phase decoded kept | complete stage phase kept =>
    simp [acknowledgedId?, Arrival.acknowledgedId?]
  | @retry _ stream _ arrival error _ stage rejected kept =>
    simp [silent ⟨stream, arrival, operation.phase⟩ ⟨error, rejected⟩]
  | fail phase cause kept =>
    cases read with
    | none => simp [acknowledgedId?]
    | some taken => simp [silent taken (cause.rejected taken rfl)]
  | quit _ _ rejected | giveUp _ _ rejected =>
    cases read with
    | none => simp [acknowledgedId?]
    | some taken => simp [silent taken (rejected taken rfl)]
  | _ => simp [acknowledgedId?]

/-- A cancellation leaves the id of an active subscription, or one that is about to be accepted,
to be released. -/
theorem balance_of_cancel (turned : Transition operation move read next)
    (coherent : Coherent operation) (ledger : Ledger operation ending acknowledged)
    (goes : move = .beginCancel) (alive : operation.phase.state.isTerminal = false) :
    next.released ++ next.owed = next.due (ending.or (operation.endingBy? move read))
      (acknowledged.or (acknowledgedId? read.toList)) := by
  obtain ⟨rfl, nothing, released⟩ := ledger.unreleased coherent alive
  cases turned with
  | cancel phase =>
    have known := ledger.known _ (.inl (by rw [phase, Phase.subscriptionId?]))
    obtain ⟨stream, stage⟩ := coherent.forwarding_of_active phase
    simp [Operation.owed, Operation.due, stage, Stage.owes?, released, known, Phase.isCanceled]
  | abandon phase =>
    have unbegun := coherent.unbegun_of_idle phase
    have unheard := ledger.unheard (by simp [unbegun, Stage.isUnheard])
    simp [Operation.owed, Operation.due, unbegun, Stage.owes?, acknowledgedId?, nothing, released,
      unheard]
  | forsake phase =>
    have same : operation.stage.owes? (.canceled none) = acknowledged := by
      have suited := coherent.suited
      rw [phase] at suited
      cases stage : operation.stage with
      | accepting id stream => simp [Stage.owes?, ledger.known id (.inr (by simp [stage, Stage.id?]))]
      | _ =>
        simp_all [Stage.Suits, Phase.state, SubscriptionState.isTerminal, Stage.owes?,
          ledger.unheard, Stage.isUnheard]
    simp [Operation.owed, Operation.due, nothing, released, same, acknowledgedId?, Phase.isCanceled]
  | cancelAgain ended => simp [Operation.state, alive] at ended
  | giveUp loop =>
    rw [goes] at loop
    cases loop
  | _ => cases goes

/-- A move that leaves the phase as it is releases what is owed, or takes on what is read. -/
theorem balance_of_steady (turned : Transition operation move read next)
    (coherent : Coherent operation) (ledger : Ledger operation ending acknowledged)
    (steady : next.phase = operation.phase) :
    next.released ++ next.owed = next.due (ending.or (operation.endingBy? move read))
      (acknowledged.or (acknowledgedId? read.toList)) := by
  have kept := turned.acknowledged_kept ledger.known
  have unended := turned.endingBy?_eq_none coherent steady
  have keep (heard : next.stage.id? = operation.stage.id? ∨ next.stage.id? = none)
      (same : next.released ++ next.owed = operation.released ++ operation.owed) :
      next.released ++ next.owed = next.due (ending.or (operation.endingBy? move read))
        (acknowledged.or (acknowledgedId? read.toList)) := by
    rw [same, unended, kept heard, Option.or_none, Operation.due, steady]
    exact ledger.balance
  have suited := coherent.suited
  cases turned with
  | begin phase | abandon phase | forsake phase | cancel phase | fail phase | activate _ phase
  | spoil _ phase | breakOff _ phase | complete _ phase =>
    rw [phase] at steady
    cases steady
  | finishCancel answer canceling => exact keep (.inl rfl) (by simp [Operation.owed, canceling])
  | prepare prepared =>
    refine keep (.inr (Stage.id?_of_searching prepared.searching_after)) ?_
    simp [Operation.owed, Stage.owes?_of_searching prepared.searching_after,
      Stage.owes?_of_searching prepared.searching_before]
  | hear stage uncanceled =>
    rw [stage] at suited
    have phase : operation.phase = .starting := by
      refine suited.resolve_right fun canceled => ?_
      simp [canceled, Phase.isCanceled] at uncanceled
    obtain ⟨rfl, nothing, released⟩ := ledger.unreleased coherent (by rw [phase]; rfl)
    rw [unended]
    simp [Operation.owed, Operation.due, Stage.owes?, nothing, released, phase, Phase.isCanceled]
  | release stage =>
    have nothing : operation.canceling = none := by
      refine Option.eq_none_iff_forall_ne_some.2 fun id owed => ?_
      rw [stage, coherent.canceling id owed] at suited
      rcases suited with canceled | failed
      · cases canceled
      · cases failed
    exact keep (.inr rfl) (by simp [Operation.owed, stage, Stage.owes?, nothing])
  | hearLate stage =>
    rw [stage] at suited
    have canceled : operation.phase = .canceled none := suited
    have ended : ending = none := by simpa [canceled, Phase.Ended] using ledger.ended
    have unheard : acknowledged = none := ledger.unheard (by simp [stage, Stage.isUnheard])
    have balance := ledger.balance
    simp_all [Operation.owed, Operation.due, Stage.owes?, Phase.isCanceled, acknowledgedId?,
      Arrival.acknowledgedId?]
  | quit phase searching =>
    have before := Stage.owes?_of_searching searching operation.phase
    have after : Stage.owes? .returned operation.phase = none := rfl
    exact keep (.inr rfl) (by simp only [Operation.owed, before, after])
  | refuse stage late =>
    have canceled : operation.phase = .canceled none := by
      have accepted := coherent.accepted
      rw [stage] at suited
      refine suited.resolve_left fun starting => ?_
      simp [late starting, starting, Phase.subscriptionId?] at accepted
    exact keep (.inl (by simp [stage, Stage.id?])) (by simp [Operation.owed, stage, Stage.owes?, canceled])
  | _ => exact keep (by simp_all [Stage.id?]) (by simp_all [Operation.owed, Stage.owes?])

private theorem balance (turned : Transition operation move read next)
    (coherent : Coherent operation) (ledger : Ledger operation ending acknowledged) :
    next.released ++ next.owed = next.due (ending.or (operation.endingBy? move read))
      (acknowledged.or (acknowledgedId? read.toList)) := by
  have steady := turned.balance_of_steady coherent ledger
  have canceled := turned.balance_of_cancel coherent ledger
  have fresh := ledger.unreleased coherent
  cases turned with
  | abandon phase | forsake phase | cancel phase => exact canceled rfl (by rw [phase]; rfl)
  | begin phase | fail phase | activate _ phase | complete _ phase =>
    obtain ⟨rfl, nothing, released⟩ := fresh (by rw [phase]; rfl)
    simp [Operation.owed, Operation.due, Stage.owes?, Operation.endingBy?, Plan.ending?,
      Phase.isCanceled, Phase.activeId?, phase, nothing, released]
  | breakOff stage phase cause =>
    obtain ⟨rfl, nothing, released⟩ := fresh (by rw [phase]; rfl)
    rcases cause with rfl | ⟨rfl, _⟩ <;>
      simp [Operation.owed, Operation.due, Stage.owes?, Operation.endingBy?, Plan.ending?,
        Phase.isCanceled, Phase.activeId?, phase, nothing, released]
  | spoil stage phase undecodable =>
    obtain ⟨rfl, nothing, released⟩ := fresh (by rw [phase]; rfl)
    have known := ledger.known _ (.inl (by rw [phase, Phase.subscriptionId?]))
    simp [Operation.owed, Operation.due, Stage.owes?, Operation.endingBy?, Plan.ending?,
      Phase.isCanceled, Phase.activeId?, phase, nothing, released, undecodable, known]
  | _ => exact steady rfl

private theorem ledger (turned : Transition operation move read next)
    (coherent : Coherent operation) (ledger : Ledger operation ending acknowledged) :
    Ledger next (ending.or (operation.endingBy? move read))
      (acknowledged.or (acknowledgedId? read.toList)) where
  ended := turned.ended coherent ledger.ended
  unheard waiting := by
    obtain ⟨before, nothing⟩ := turned.unheard coherent waiting
    simp [ledger.unheard before, nothing]
  known := turned.known ledger.unheard ledger.known
  balance := turned.balance coherent ledger

end Transition

namespace Operation

theorem ledger_run (plan : Plan α) (candidates : Candidates) (moves : List Move) :
    Ledger ((make plan candidates).run moves) ((make plan candidates).ending? moves)
      (acknowledgedId? ((make plan candidates).reads moves)) := by
  induction moves using List.reverseRecOn with
  | nil =>
    exact ⟨rfl, fun _ => rfl, by simp [run, make, Holds, Phase.subscriptionId?, Stage.id?],
      rfl⟩
  | append_singleton before move ih =>
    rw [run_concat, ending?_concat, reads_concat, acknowledgedId?_append]
    exact (transition_apply _ move).ledger (coherent_run plan candidates before) ih

/-- The acknowledgment of an attempt is the only one that was accepted. -/
theorem acknowledgedId?_of_answerOn (plan : Plan α) (candidates : Candidates) (moves : List Move)
    {stream : Nat} {read : Read} {id : String}
    (answered : answerOn ((make plan candidates).reads moves) stream = some read)
    (acknowledges : read.arrival = .signal (.started id)) :
    acknowledgedId? ((make plan candidates).reads moves) = some id := by
  induction moves using List.reverseRecOn with
  | nil => cases answered
  | append_singleton before move ih =>
    rw [reads_concat, answerOn_append] at answered
    rw [reads_concat, acknowledgedId?_append]
    cases former : answerOn ((make plan candidates).reads before) stream with
    | some earlier =>
      rw [former, Option.some_or] at answered
      obtain rfl := Option.some.inj answered
      simp [ih former]
    | none =>
      rw [former, Option.none_or] at answered
      cases taken : ((make plan candidates).run before).readBy move with
      | none => simp [taken, answerOn] at answered
      | some other =>
        rw [taken] at answered
        obtain ⟨rfl, rfl⟩ := answerOn_singleton answered
        rcases (readBy_eq_some taken).1 with pending | ⟨forwarding, _⟩
        · have silent := (ledger_run plan candidates before).unheard
            (Stage.isUnheard_of_pending pending)
          rw [silent, Option.none_or]
          simp [acknowledgedId?, acknowledges, Arrival.acknowledgedId?]
        · have heard := (heard_run plan candidates before).forwarding _ forwarding
          simp [former] at heard

/-- A signal that was read after the cancellation finds the subscription canceled before it
was active. -/
theorem canceled_of_read (plan : Plan α) (candidates : Candidates) (moves : List Move)
    {read : Read} (listed : read ∈ (make plan candidates).reads moves)
    (canceled : read.phase.isCanceled = true) :
    ((make plan candidates).run moves).phase = .canceled none := by
  induction moves using List.reverseRecOn with
  | nil => cases listed
  | append_singleton before move ih =>
    rw [run_concat]
    have turned := transition_apply ((make plan candidates).run before) move
    have still : ((make plan candidates).run before).phase = .canceled none →
        (((make plan candidates).run before).apply move).phase = .canceled none :=
      fun phase => (turned.told_of_canceled phase).1
    rw [reads_concat] at listed
    rcases List.mem_append.1 listed with former | now
    · exact still (ih former)
    · obtain ⟨place, -, phase⟩ := readBy_eq_some (Option.mem_toList.1 now)
      have suited := (coherent_run plan candidates before).suited
      rw [phase] at canceled
      refine still ?_
      cases current : ((make plan candidates).run before).phase with
      | canceled id =>
        rcases place with pending | ⟨_, active⟩
        · rw [current] at suited
          cases stage : ((make plan candidates).run before).stage <;>
            simp_all [Stage.Suits, Stage.pending?]
        · simp [current, Phase.activeId?] at active
      | _ => simp [current, Phase.isCanceled] at canceled

/-- What was released of a settled subscription is what is due. -/
theorem released_of_settled (plan : Plan α) (candidates : Candidates) (moves : List Move)
    (settled : ((make plan candidates).run moves).isSettled = true) :
    ((make plan candidates).run moves).released =
      ((make plan candidates).run moves).due ((make plan candidates).ending? moves)
        (acknowledgedId? ((make plan candidates).reads moves)) := by
  rw [← (ledger_run plan candidates moves).balance]
  simp only [isSettled, Bool.and_eq_true, Option.isNone_iff_eq_none] at settled
  simp [owed, settled.1, Stage.owes?_of_id settled.2]

private theorem due_length (operation : Operation α) (ending : Option Ending)
    (acknowledged : Option String) : (operation.due ending acknowledged).length ≤ 1 := by
  unfold due
  cases acknowledged <;> split <;> simp

/-- In every run a subscription is released at most once, with an id that the endpoint sent
for one of its attempts. Where no call and no step is half done, an id that was acknowledged
is released if the subscription was canceled, before or after it became active, or met an
item that cannot be decoded, and is not released otherwise. -/
theorem released_once (plan : Plan α) (candidates : Candidates) (moves : List Move) :
    let operation := (make plan candidates).run moves
    let reads := (make plan candidates).reads moves
    let ending := (make plan candidates).ending? moves
    operation.released.length ≤ 1 ∧
      (∀ id ∈ operation.released,
        ∃ attempt, (make plan candidates).Sent moves attempt (.started id)) ∧
      ∀ stream read id, answerOn reads stream = some read → read.arrival = .signal (.started id) →
        operation.isSettled = true →
          (operation.state = .active → operation.released = []) ∧
          (ending = some .canceled ∨ ending = some .undecodable → operation.released = [id]) ∧
          (read.phase.isCanceled = true ∨ operation.phase = .canceled none →
            operation.released = [id] ∧ ∀ other, Event.started other ∉ operation.events) ∧
          (ending = some .byEndpoint → operation.released = []) ∧
          (operation.phase.subscriptionId? ≠ none → operation.state = .active ∨ ending ≠ none) := by
  intro operation reads ending
  have ledger : Ledger operation ending (acknowledgedId? reads) := ledger_run plan candidates moves
  refine ⟨?_, fun id listed => sent_of_holds plan candidates moves (.inr listed), ?_⟩
  · have bounded := operation.due_length ending (acknowledgedId? reads)
    rw [← ledger.balance, List.length_append] at bounded
    omega
  intro stream read id answered acknowledges settled
  have released : operation.released = operation.due ending (some id) := by
    rw [← acknowledgedId?_of_answerOn plan candidates moves answered acknowledges]
    exact released_of_settled plan candidates moves settled
  have ended := ledger.ended
  refine ⟨fun active => ?_, fun given => ?_, fun canceled => ?_, fun lost => ?_, fun accepted => ?_⟩
  · exact (ledger.unreleased (coherent_run plan candidates moves)
      (by rw [show operation.phase.state = .active from active]; rfl)).2.2
  · rw [released, due, if_pos]
    · rfl
    · rcases given with canceled | undecodable
      · exact .inl (Phase.Ended.isCanceled (canceled ▸ ended))
      · exact .inr undecodable
  · have phase : operation.phase = .canceled none := by
      rcases canceled with late | before
      · exact canceled_of_read plan candidates moves (List.mem_of_find?_eq_some answered) late
      · exact before
    refine ⟨?_, fun other told => ?_⟩
    · rw [released, due, if_pos (.inl (by rw [phase, Phase.isCanceled]))]
      rfl
    · have tells : operation.phase.Tells operation.canceling operation.told :=
        tells_run plan candidates moves
      rw [phase] at tells
      have silent : operation.told = [] := tells
      have among : .started other ∈ operation.told := List.mem_filter.2 ⟨told, rfl⟩
      simp [silent] at among
  · have uncanceled := Phase.Ended.not_isCanceled (lost ▸ ended)
    rw [released, due, uncanceled, lost]
    rfl
  · refine or_iff_not_imp_left.2 fun inactive unended => inactive ?_
    exact Phase.Ended.active_of_none (unended ▸ ended) accepted

/-- The moves of a subscription that is canceled while its only attempt is open. -/
def lateAcknowledgment (id : String) : List Move :=
  [.start, .step 0, .step 0, .step 0, .step 0, .step 0, .beginCancel, .step 0,
    .deliver 0 (.started id), .step 0, .step 0]

theorem released_late :
    let moves := lateAcknowledgment "one"
    let operation := (make samplePlan (.fixed .apiKey)).run moves
    answerOn ((make samplePlan (.fixed .apiKey)).reads moves) 0 =
        some ⟨0, .signal (.started "one"), .canceled none⟩ ∧
      operation.isSettled = true ∧ operation.released = ["one"] :=
  ⟨rfl, by decide,
    (((released_once samplePlan (.fixed .apiKey) (lateAcknowledgment "one")).2.2 0
      ⟨0, .signal (.started "one"), .canceled none⟩ "one" rfl rfl (by decide)).2.2.1 (.inl rfl)).1⟩

end Operation

end ModelSync
