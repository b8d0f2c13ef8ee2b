import ModelSync.Proofs.Subscription.Choices
import ModelSync.Proofs.Subscription.States
import ModelSync.Proofs.Subscription.Streams

/-! Calls of the caller that come late or again. Only one start begins a loop, and the others are
reported. Only the first cancellation counts; after it the endpoint is not called again, unless
the loop was on its way to a call. -/
namespace ModelSync

variable {α : Type}

namespace Stage

/-- The loop may pause here: it has not begun or was not run yet, waits on a stream, or has
returned. From any other stage it goes on by itself. -/
def isSuspended : Stage → Bool
  | .unbegun | .checking _ | .awaiting _ _ _ | .forwarding _ | .draining _ _ | .returned => true
  | _ => false

/-- How many calls the loop may make without looking whether the subscription is starting. -/
def openCalls : Stage → Nat
  | .taking _ | .lookingAhead _ _ | .decorating _ _ _ | .calling _ _ _ => 1
  | _ => 0

/-- How many candidates the loop may take without looking whether the subscription is starting. -/
def openItems : Stage → Nat
  | .taking _ => 1
  | _ => 0

private theorem openCalls_le (stage : Stage) : stage.openCalls ≤ 1 := by
  cases stage <;> simp [openCalls]

private theorem openCalls_of_suspended {stage : Stage} (suspended : stage.isSuspended = true) :
    stage.openCalls = 0 ∧ stage.openItems = 0 := by
  cases stage <;> simp_all [isSuspended, openCalls, openItems]

end Stage

namespace Operation

/-- The loop listens to the stream of an attempt. -/
def listensTo (operation : Operation α) (attempt : Nat) : Bool :=
  (operation.streams[attempt]?).any SignalStream.listening

/-- A move takes no more candidates than the loop may take. -/
theorem consumedBy?_le_openItems (operation : Operation α) (move : Move) :
    (operation.consumedBy? move).toList.length ≤ operation.stage.openItems := by
  unfold consumedBy?
  cases move with
  | step now =>
    cases stage : operation.stage with
    | taking search => cases found : search.cursor.current? <;> simp [found, Stage.openItems]
    | _ => simp
  | _ => simp

/-- A loop is there after a move, and none was before. -/
def begins (operation : Operation α) (move : Move) : Bool :=
  !operation.isRunning && (operation.apply move).isRunning

/-- How many loops begin in a run. -/
def loopsBegun (operation : Operation α) : List Move → Nat
  | [] => 0
  | move :: rest => (operation.begins move).toNat + (operation.apply move).loopsBegun rest

theorem loopsBegun_concat (operation : Operation α) (moves : List Move) (move : Move) :
    operation.loopsBegun (moves ++ [move]) =
      operation.loopsBegun moves + ((operation.run moves).begins move).toNat := by
  induction moves generalizing operation with
  | nil => simp [loopsBegun, run]
  | cons first rest ih => simp [loopsBegun, ih, run, Nat.add_assoc]

end Operation

namespace Transition

variable {operation next : Operation α} {move : Move} {read : Option Read}

/-- A loop only begins where there never was one. -/
theorem unbegun_of_begins (turned : Transition operation move read next)
    (coherent : Coherent operation) (absent : operation.isRunning = false)
    (present : next.isRunning = true) : operation.stage = .unbegun := by
  cases turned with
  | begin phase => exact coherent.unbegun_of_idle phase
  | prepare prepared =>
    have searching := prepared.searching_before
    cases stage : operation.stage <;> simp_all [Operation.isRunning, Stage.isSearching]
  | _ => simp_all [Operation.isRunning]

/-- A loop that has begun stays so. -/
theorem unbegun_before (turned : Transition operation move read next)
    (unbegun : next.stage = .unbegun) : operation.stage = .unbegun := by
  cases turned with
  | prepare prepared =>
    have searching := prepared.searching_after
    simp only at unbegun
    simp [unbegun, Stage.isSearching] at searching
  | _ => simp_all

/-- Only the loop itself moves from where it is. -/
theorem stage_of_running (turned : Transition operation move read next)
    (coherent : Coherent operation) (outside : move.isLoop = false)
    (running : operation.isRunning = true) : next.stage = operation.stage := by
  cases turned with
  | begin phase => simp [Operation.isRunning, coherent.unbegun_of_idle phase] at running
  | giveUp loop => simp [outside] at loop
  | misuse | abandon | forsake | cancel | cancelAgain | finishCancel | finishNothing | deliver
  | hangUp | hold => rfl
  | _ => cases outside

/-- The loop of a subscription that has ended only makes the call that it is on its way to. -/
theorem openCalls_le (turned : Transition operation move read next)
    (ended : operation.state.isTerminal = true) :
    next.calls.length + next.stage.openCalls ≤
      operation.calls.length + operation.stage.openCalls := by
  cases turned with
  | begin phase | fail phase | activate _ phase =>
    simp [Operation.state, phase, Phase.state, SubscriptionState.isTerminal] at ended
  | prepare prepared =>
    cases prepared with
    | check stage phase =>
      simp [Operation.state, phase, Phase.state, SubscriptionState.isTerminal] at ended
    | take stage | pass stage | hand stage | decorate stage | skip stage =>
      simp [stage, Stage.openCalls]
  | call stage => simp [stage, Stage.openCalls]
  | misuse | abandon | forsake | cancel | cancelAgain | finishCancel | finishNothing | deliver
  | hangUp | wait | hold | drop | forward | repeated => exact Nat.le_refl _
  | _ => simp [Stage.openCalls]

/-- The loop of a subscription that has ended only takes the candidate that it is about to take. -/
theorem openItems_le (turned : Transition operation move read next)
    (ended : operation.state.isTerminal = true) :
    (operation.consumedBy? move).toList.length + next.stage.openItems ≤
      operation.stage.openItems := by
  have taken := operation.consumedBy?_le_openItems move
  have still (elsewhere : ∀ search, operation.stage ≠ .taking search) :
      (operation.consumedBy? move).toList.length + operation.stage.openItems ≤
        operation.stage.openItems := by
    simp [Operation.consumedBy?_of_elsewhere elsewhere]
  cases turned with
  | begin phase | activate _ phase =>
    simp [Operation.state, phase, Phase.state, SubscriptionState.isTerminal] at ended
  | prepare prepared =>
    cases prepared with
    | check stage phase =>
      simp [Operation.state, phase, Phase.state, SubscriptionState.isTerminal] at ended
    | take stage | pass stage | hand stage | decorate stage | skip stage => exact taken
  | wait unready =>
    apply still
    intro search stage
    simp [Operation.isReady, stage] at unready
  | drop pending =>
    apply still
    intro search stage
    simp [stage, Stage.pending?] at pending
  | forward stage | repeated stage => exact still (by simp [stage])
  | misuse | abandon | forsake | cancel | cancelAgain | finishCancel | finishNothing | deliver
  | hangUp | hold => simp [Operation.consumedBy?]
  | _ => exact taken

end Transition

namespace Operation

variable {operation : Operation α}

/-! ## Late starts -/

/-- A start that comes late is reported and changes nothing else. -/
theorem start_of_begun (coherent : Coherent operation) (begun : operation.state ≠ .idle) :
    operation.start = operation.emit (.error (.usage
      (if operation.phase.isCanceled then .canceledBeforeStart else .alreadyStarted))) := by
  have idle : operation.phase ≠ .idle := by
    intro idle
    simp [state, idle, Phase.state] at begun
  have unheld : operation.source = none := by
    refine Option.not_isSome_iff_eq_none.1 fun held => idle (coherent.held.1 held)
  -- The candidates are taken all the same, but there are none left.
  have same : { operation with source := none } = operation := by rw [← unheld]
  unfold start
  split
  case h_1 phase _ => exact absurd phase idle
  case h_2 canceled =>
    rw [same, canceled]
    rfl
  case h_3 uncanceled _ =>
    have other : operation.phase.isCanceled = false := by
      cases phase : operation.phase with
      | canceled id => exact absurd phase (uncanceled id)
      | _ => rfl
    rw [same, other]
    rfl

/-- A loop begins at most once, and none is there before. -/
theorem loopsBegun_run (plan : Plan α) (candidates : Candidates) (moves : List Move) :
    (make plan candidates).loopsBegun moves ≤ 1 ∧
      (((make plan candidates).run moves).stage = .unbegun →
        (make plan candidates).loopsBegun moves = 0) := by
  induction moves using List.reverseRecOn with
  | nil => exact ⟨Nat.zero_le 1, fun _ => rfl⟩
  | append_singleton before move ih =>
    obtain ⟨once, fresh⟩ := ih
    have turned := transition_apply ((make plan candidates).run before) move
    have coherent := coherent_run plan candidates before
    rw [loopsBegun_concat, run_concat]
    cases begins : ((make plan candidates).run before).begins move with
    | false =>
      refine ⟨once, fun unbegun => ?_⟩
      exact fresh (turned.unbegun_before unbegun)
    | true =>
      simp only [Operation.begins, Bool.and_eq_true, Bool.not_eq_true'] at begins
      have unbegun := turned.unbegun_of_begins coherent begins.1 begins.2
      refine ⟨?_, fun still => ?_⟩
      · rw [fresh unbegun]
        exact Nat.le_refl 1
      · simp [isRunning, still] at begins

/-! ## Repeated cancellations -/

private theorem beginCancel_isTerminal (operation : Operation α) :
    operation.beginCancel.state.isTerminal = true := by
  unfold beginCancel
  cases phase : operation.phase <;> simp [state, phase, Phase.state, SubscriptionState.isTerminal]

private theorem beginCancel_of_terminal (ended : operation.state.isTerminal = true) :
    operation.beginCancel = operation := by
  unfold beginCancel
  unfold state at ended
  cases phase : operation.phase <;>
    simp_all [Phase.state, SubscriptionState.isTerminal]

theorem finishCancel_phase (operation : Operation α) (answer : Except EndpointError Unit) :
    (operation.finishCancel answer).phase = operation.phase ∧
      (operation.finishCancel answer).canceling = none := by
  unfold finishCancel
  cases canceling : operation.canceling with
  | none => exact ⟨rfl, canceling⟩
  | some id => cases answer <;> exact ⟨rfl, rfl⟩

private theorem finishCancel_of_settled (settled : operation.canceling = none)
    (answer : Except EndpointError Unit) : operation.finishCancel answer = operation := by
  simp [finishCancel, settled]

theorem cancel_isTerminal (operation : Operation α) (answer : Except EndpointError Unit) :
    (operation.cancel answer).state.isTerminal = true := by
  unfold cancel state
  rw [(operation.beginCancel.finishCancel_phase answer).1]
  exact operation.beginCancel_isTerminal

end Operation

/-- Of a subscription that has ended nothing new has to be released. -/
theorem Transition.canceling_of_terminal {operation next : Operation α} {move : Move}
    {read : Option Read} (turned : Transition operation move read next)
    (ended : operation.state.isTerminal = true) (settled : operation.canceling = none) :
    next.canceling = none := by
  cases turned with
  | cancel phase => simp [Operation.state, phase, Phase.state, SubscriptionState.isTerminal] at ended
  | finishCancel => rfl
  | _ => exact settled

namespace Operation

variable {operation : Operation α}

theorem isTerminal_run (ended : operation.state.isTerminal = true) (moves : List Move) :
    (operation.run moves).state.isTerminal = true := by
  rw [state, phase_of_terminal ended]
  exact ended

theorem canceling_run (ended : operation.state.isTerminal = true)
    (settled : operation.canceling = none) (moves : List Move) :
    (operation.run moves).canceling = none := by
  induction moves using List.reverseRecOn with
  | nil => exact settled
  | append_singleton before move ih =>
    rw [run_concat]
    exact (transition_apply _ move).canceling_of_terminal (isTerminal_run ended before) ih

/-- Once a subscription was canceled a cancellation does nothing, however it came out. -/
theorem cancel_run_cancel (operation : Operation α) (first second : Except EndpointError Unit)
    (between : List Move) :
    ((operation.cancel first).run between).cancel second = (operation.cancel first).run between := by
  have ended := operation.cancel_isTerminal first
  have settled : (operation.cancel first).canceling = none :=
    (operation.beginCancel.finishCancel_phase first).2
  rw [cancel, beginCancel_of_terminal (isTerminal_run ended between)]
  exact finishCancel_of_settled (canceling_run ended settled between) second

/-! ## After a cancellation -/

theorem calls_run_prefix (operation : Operation α) (moves : List Move) :
    operation.calls <+: (operation.run moves).calls := by
  induction moves using List.reverseRecOn with
  | nil => exact List.prefix_rfl
  | append_singleton before move ih =>
    rw [run_concat]
    rcases (transition_apply (operation.run before) move).calls_eq with same | ⟨_, call, _, _, calls⟩
    · rwa [same]
    · rw [calls]
      exact ih.trans (List.prefix_append _ _)

theorem openCalls_run (ended : operation.state.isTerminal = true) (moves : List Move) :
    (operation.run moves).calls.length + (operation.run moves).stage.openCalls ≤
      operation.calls.length + operation.stage.openCalls := by
  induction moves using List.reverseRecOn with
  | nil => exact Nat.le_refl _
  | append_singleton before move ih =>
    rw [run_concat]
    exact Nat.le_trans
      ((transition_apply _ move).openCalls_le (isTerminal_run ended before)) ih

theorem openItems_run (ended : operation.state.isTerminal = true) (moves : List Move) :
    (operation.consumed moves).length + (operation.run moves).stage.openItems ≤
      operation.stage.openItems := by
  induction moves using List.reverseRecOn with
  | nil => exact Nat.le_of_eq (Nat.zero_add _)
  | append_singleton before move ih =>
    have turned := (transition_apply (operation.run before) move).openItems_le
      (isTerminal_run ended before)
    rw [run_concat, consumed_concat, List.length_append]
    omega

theorem beginCancel_calls (operation : Operation α) :
    operation.beginCancel.calls = operation.calls ∧
      operation.beginCancel.stage = operation.stage := by
  unfold beginCancel
  cases operation.phase <;> exact ⟨rfl, rfl⟩

/-- After a cancellation at most the call that the loop is on its way to is made. -/
theorem calls_after_cancel (operation : Operation α) (later : List Move) :
    (operation.beginCancel.run later).calls.length ≤
        operation.calls.length + operation.stage.openCalls ∧
      (operation.beginCancel.consumed later).length ≤ operation.stage.openItems := by
  have ended := operation.beginCancel_isTerminal
  have calls := openCalls_run ended later
  have items := openItems_run ended later
  rw [operation.beginCancel_calls.1, operation.beginCancel_calls.2] at calls
  rw [operation.beginCancel_calls.2] at items
  omega

/-- The loop listens to the streams of two attempts at no time. -/
theorem listensTo_one (plan : Plan α) (candidates : Candidates) (moves : List Move)
    {one other : Nat} (first : ((make plan candidates).run moves).listensTo one = true)
    (second : ((make plan candidates).run moves).listensTo other = true) : one = other := by
  have attended := attended_run plan candidates moves
  have held {attempt : Nat} (listens : ((make plan candidates).run moves).listensTo attempt = true) :
      ((make plan candidates).run moves).stage.stream? = some attempt := by
    unfold listensTo at listens
    cases found : ((make plan candidates).run moves).streams[attempt]? with
    | none => simp [found] at listens
    | some stream => exact (attended attempt stream found).1 (by simpa [found] using listens)
  exact Option.some.inj ((held first).symm.trans (held second))

/-- In every state that a subscription can reach, a start outside the idle state reports a wrong
use and changes nothing else. Only one loop ever begins, which only moves by itself, and it listens
to one attempt at a time. A cancellation leaves a terminal state for good, and another one does
nothing, whatever comes between them and whether or not a release failed. After it the endpoint is
not called again and no candidate is taken; only a loop that is caught on its way from one pause
to the next may still make the call that it has prepared. -/
theorem calls_late_or_again (plan : Plan α) (candidates : Candidates) (moves : List Move) :
    let operation := (make plan candidates).run moves
    (operation.state ≠ .idle →
        ∃ fault, operation.start =
          { operation with events := operation.events ++ [.error (.usage fault)] }) ∧
      ((make plan candidates).loopsBegun moves ≤ 1 ∧
        (∀ move, move.isLoop = false → operation.isRunning = true →
          (operation.apply move).stage = operation.stage) ∧
        ∀ one other, operation.listensTo one = true → operation.listensTo other = true →
          one = other) ∧
      (∀ later, (operation.beginCancel.run later).state.isTerminal = true ∧
        (operation.beginCancel.run later).beginCancel = operation.beginCancel.run later) ∧
      (∀ first second between,
        ((operation.cancel first).run between).cancel second =
          (operation.cancel first).run between) ∧
      ∀ later,
        (operation.beginCancel.run later).calls.length ≤ operation.calls.length + 1 ∧
          (operation.stage.isSuspended = true →
            (operation.beginCancel.run later).calls = operation.calls ∧
              operation.beginCancel.consumed later = []) := by
  intro operation
  have coherent : Coherent operation := coherent_run plan candidates moves
  refine ⟨fun begun => ⟨_, start_of_begun coherent begun⟩, ⟨?_, ?_, ?_⟩, fun later => ?_,
    operation.cancel_run_cancel, fun later => ?_⟩
  · exact (loopsBegun_run plan candidates moves).1
  · exact fun move outside running =>
      (transition_apply operation move).stage_of_running coherent outside running
  · exact fun one other first second => listensTo_one plan candidates moves first second
  · have ended := isTerminal_run operation.beginCancel_isTerminal later
    exact ⟨ended, beginCancel_of_terminal ended⟩
  · obtain ⟨calls, items⟩ := operation.calls_after_cancel later
    have bounded := operation.stage.openCalls_le
    refine ⟨by omega, fun suspended => ?_⟩
    obtain ⟨closed, empty⟩ := Stage.openCalls_of_suspended suspended
    have grows := operation.beginCancel.calls_run_prefix later
    rw [operation.beginCancel_calls.1] at grows
    rw [closed, Nat.add_zero] at calls
    rw [empty] at items
    exact ⟨(grows.eq_of_length_le calls).symm, List.eq_nil_of_length_eq_zero (Nat.le_zero.1 items)⟩

/-- A subscription with two candidates is canceled while the first one is tried. Then the attempt
is rejected. -/
theorem one_call_after_cancel :
    let source := Candidates.ofList [.ok ⟨.apiKey, .anyone⟩, .ok ⟨.awsIam, .signedIn⟩]
    let operation :=
      (make samplePlan source).run [.start, .step 0, .step 0, .step 0, .step 0]
    let later := [.finishCancel (.ok ()), .hangUp 0, .start, .step 0, .step 0, .step 0]
    operation.stage.isSuspended = true ∧ operation.state ≠ .idle ∧
      (operation.beginCancel.run later).calls = operation.calls ∧
      ∃ fault, operation.start =
        { operation with events := operation.events ++ [.error (.usage fault)] } := by
  intro source operation later
  have again := calls_late_or_again samplePlan source [.start, .step 0, .step 0, .step 0, .step 0]
  have suspended : operation.stage.isSuspended = true := rfl
  have begun : operation.state ≠ .idle := by decide
  exact ⟨suspended, begun, ((again.2.2.2.2 later).2 suspended).1, again.1 begun⟩

end Operation

end ModelSync
