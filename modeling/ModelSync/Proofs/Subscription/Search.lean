import ModelSync.Proofs.Subscription.Answers
import ModelSync.Proofs.Subscription.Choices
import ModelSync.Proofs.Subscription.Events
import ModelSync.Proofs.Subscription.Trial

/-! The loop of a subscription that is not canceled searches as a `Trial` does. At every moment
the trial that it is about to complete is the one reached after as many items as it took. -/
namespace ModelSync

variable {α : Type}

/-- What an event tells of a search. -/
def Event.outcome? : Event α → Option Outcome
  | .started id => some (.active id)
  | .error reason => some (.failed reason)
  | _ => none

namespace Operation

/-- A move takes an item, or the end, of the source. -/
def isTaking (operation : Operation α) : Move → Bool
  | .step _ =>
    match operation.stage with
    | .taking _ => true
    | _ => false
  | _ => false

/-- What the subscriber was told of the search. -/
def outcome? (operation : Operation α) : Option Outcome :=
  operation.told.head?.bind Event.outcome?

/-- The trial that the loop is about to complete, after it consumed a number of items. -/
def trial (operation : Operation α) (answers : Nat → Answer) (consumed : Nat) : Trial :=
  let reached : Trial := ⟨consumed, operation.decorations, operation.calls, operation.outcome?⟩
  match operation.stage with
  | .lookingAhead search attempt =>
    reached.attempt operation.plan answers search.cursor.hasNext attempt
  | .decorating _ attempt more => reached.decorate operation.plan answers more attempt
  | .calling _ call more => reached.call answers more call
  | .awaiting _ more stream => reached.answer more (answers stream)
  | .accepting id _ => reached.answer true (.acknowledged id)
  | _ => reached

private theorem outcome?_of_first {operation next : Operation α} {event : Event α}
    (emitted : next.events = operation.events ++ [event]) (kept : event.isUsage = false)
    (silent : operation.told = []) : next.outcome? = event.outcome? := by
  simp [outcome?, told_eq_concat emitted kept, silent]

/-- What is told later is no outcome of the search. -/
theorem outcome?_of_later {operation next : Operation α} {event : Event α}
    (emitted : next.events = operation.events ++ [event]) (kept : event.isUsage = false)
    (spoken : operation.told ≠ []) : next.outcome? = operation.outcome? := by
  obtain ⟨first, rest, same⟩ := List.exists_cons_of_ne_nil spoken
  simp [outcome?, told_eq_concat emitted kept, same]

/-- The trial after a move: the next one where the move takes from the source, and else the
same. -/
def trialAfter (operation : Operation α) (plan : Plan α) (source : Candidates)
    (answers : Nat → Answer) (consumed : Nat) (move : Move) : Trial :=
  if operation.isTaking move then (operation.trial answers consumed).next plan source answers
  else operation.trial answers consumed

section Elsewhere

variable {operation : Operation α} (elsewhere : ∀ search, operation.stage ≠ .taking search)

include elsewhere

theorem trialAfter_of_elsewhere (plan : Plan α) (source : Candidates) (answers : Nat → Answer)
    (consumed : Nat) (move : Move) :
    operation.trialAfter plan source answers consumed move = operation.trial answers consumed := by
  unfold trialAfter isTaking
  cases move with
  | step now => cases stage : operation.stage <;> simp_all
  | _ => rfl

end Elsewhere

theorem trialAfter_of_taking {operation : Operation α} {search : Search}
    (stage : operation.stage = .taking search) (plan : Plan α) (source : Candidates)
    (answers : Nat → Answer) (consumed now : Nat) :
    operation.trialAfter plan source answers consumed (.step now) =
      Trial.next ⟨consumed, operation.decorations, operation.calls, operation.outcome?⟩ plan source
        answers := by
  simp [trialAfter, isTaking, trial, stage]

end Operation

/-- A subscription that is not canceled makes its choices from a source. -/
structure Follows (plan : Plan α) (source : Candidates) (operation : Operation α)
    (consumed : Nat) : Prop extends Chooses plan source operation consumed where
  uncanceled : operation.phase.isCanceled = false

private theorem Transition.uncanceled {operation next : Operation α} {move : Move}
    {read : Option Read} (turned : Transition operation move read next) (goes : move ≠ .beginCancel)
    (uncanceled : operation.phase.isCanceled = false) : next.phase.isCanceled = false := by
  cases turned <;> simp_all [Phase.isCanceled]

theorem Transition.follows {operation next : Operation α} {move : Move} {read : Option Read}
    {plan : Plan α} {source : Candidates} {consumed : Nat}
    (turned : Transition operation move read next) (coherent : Coherent operation)
    (follows : Follows plan source operation consumed) (goes : move ≠ .beginCancel) :
    Follows plan source next (operation.consumedAfter consumed move) :=
  ⟨turned.chooses coherent follows.toChooses, turned.uncanceled goes follows.uncanceled⟩

/-- A loop that searches, or is about to accept an acknowledgment, has told nothing yet. -/
theorem Follows.starting {plan : Plan α} {source : Candidates} {operation : Operation α}
    {consumed : Nat} (follows : Follows plan source operation consumed)
    (coherent : Coherent operation)
    (tells : operation.phase.Tells operation.canceling operation.told)
    (early : operation.stage.isSearching = true ∨
      ∃ id stream, operation.stage = .accepting id stream) :
    operation.phase = .starting ∧ operation.told = [] := by
  have uncanceled := follows.uncanceled
  have suited : operation.phase = .starting ∨ operation.phase = .canceled none := by
    rcases early with searching | ⟨id, stream, stage⟩
    · exact (Stage.suits_searching_iff searching _).1 coherent.suited
    · simpa [stage, Stage.Suits] using coherent.suited
  have phase := suited.resolve_right fun canceled => by
    simp [canceled, Phase.isCanceled] at uncanceled
  rw [phase] at tells
  exact ⟨phase, tells⟩

section Trial

variable {operation : Operation α} {plan : Plan α} {source : Candidates} {consumed : Nat}

/-- The way to a call is a part of one trial. -/
theorem Prepares.trial {decorations : Nat} {stage : Stage}
    (prepared : Prepares operation decorations stage)
    (follows : Follows plan source operation consumed) (silent : operation.told = [])
    (answers : Nat → Answer) (now : Nat) :
    { operation with stage, decorations }.trial answers
        (operation.consumedAfter consumed (.step now)) =
      operation.trialAfter plan source answers consumed (.step now) := by
  have outcome : operation.outcome? = none := by simp [Operation.outcome?, silent]
  have same : { operation with stage, decorations }.outcome? = none := outcome
  cases prepared with
  | @take search attempt stage found =>
    have ahead : search.cursor.advance.hasNext = (source.attempt? (consumed + 1)).isSome := by
      obtain ⟨held, position⟩ := follows.taking stage
      rw [Cursor.hasNext, Cursor.current?, Cursor.advance, held, position]
    rw [Operation.consumedAfter_of_taking stage, Operation.trialAfter_of_taking stage,
      Trial.next_of_attempt outcome ((follows.item stage).trans found), ← ahead, ← follows.planned]
    simp [Operation.trial, same, outcome, found]
  | check stage phase =>
    rw [Operation.consumedAfter_of_elsewhere (by simp [stage]),
      Operation.trialAfter_of_elsewhere (by simp [stage])]
    simp [Operation.trial, stage, outcome, same]
  | pass stage plain | hand stage owner | decorate stage answer | skip stage answer =>
    rw [Operation.consumedAfter_of_elsewhere (by simp [stage]),
      Operation.trialAfter_of_elsewhere (by simp [stage])]
    simp [*, Operation.trial, Trial.attempt, Trial.decorate]

/-- A search fails as its trial does. -/
theorem Fails.trial {read : Option Read} {decorations now : Nat} {error : SubscriptionError}
    {next : Operation α} {answers : Nat → Answer}
    (cause : Fails operation read decorations error)
    (follows : Follows plan source operation consumed) (silent : operation.told = [])
    (answered : ∀ taken answer, read = some taken →
      operation.stage.pending? = some taken.stream → taken.arrival.answer? = some answer →
      answers taken.stream = answer)
    (returned : next.stage = .returned) (asked : next.decorations = decorations)
    (calls : next.calls = operation.calls)
    (told : next.events = operation.events ++ [.error error]) :
    next.trial answers (operation.consumedAfter consumed (.step now)) =
      operation.trialAfter plan source answers consumed (.step now) := by
  have outcome : operation.outcome? = none := by simp [Operation.outcome?, silent]
  have failed : next.outcome? = some (.failed error) :=
    Operation.outcome?_of_first told cause.isUsage silent
  cases cause with
  | source stage found =>
    rw [Operation.consumedAfter_of_taking stage, Operation.trialAfter_of_taking stage,
      Trial.next_of_error outcome ((follows.item stage).trans found)]
    simp [Operation.trial, returned, asked, calls, failed, found]
  | empty stage found untried =>
    rw [Operation.consumedAfter_of_taking stage, Operation.trialAfter_of_taking stage,
      Trial.next_of_end outcome ((follows.item stage).trans found)]
    simp [Operation.trial, returned, asked, calls, failed, found]
  | decoration stage answer =>
    rw [Operation.consumedAfter_of_elsewhere (by simp [stage]),
      Operation.trialAfter_of_elsewhere (by simp [stage])]
    simp [Operation.trial, stage, returned, asked, calls, failed, Trial.decorate, answer]
  | endpoint stage rejected =>
    rw [Operation.consumedAfter_of_elsewhere (by simp [stage]),
      Operation.trialAfter_of_elsewhere (by simp [stage])]
    have answer := answered _ _ rfl (by simp [stage, Stage.pending?]) rejected
    simp [Operation.trial, stage, returned, asked, calls, failed, Trial.answer, answer]

/-- Only what is taken from the source begins another trial. -/
theorem Transition.trial {next : Operation α} {move : Move} {read : Option Read}
    {answers : Nat → Answer} (turned : Transition operation move read next)
    (coherent : Coherent operation)
    (tells : operation.phase.Tells operation.canceling operation.told)
    (follows : Follows plan source operation consumed) (goes : move ≠ .beginCancel)
    (opened : operation.calls.length = operation.streams.length)
    (answered : ∀ taken answer, read = some taken →
      operation.stage.pending? = some taken.stream → taken.arrival.answer? = some answer →
      answers taken.stream = answer) :
    next.trial answers (operation.consumedAfter consumed move) =
      operation.trialAfter plan source answers consumed move := by
  have uncanceled := follows.uncanceled
  have suited := coherent.suited
  have starting := follows.starting coherent tells
  have elsewhere (stage : ∀ search, operation.stage ≠ .taking search)
      (same : next.trial answers consumed = operation.trial answers consumed) :
      next.trial answers (operation.consumedAfter consumed move) =
        operation.trialAfter plan source answers consumed move := by
    rw [Operation.consumedAfter_of_elsewhere stage, Operation.trialAfter_of_elsewhere stage, same]
  cases turned with
  | begin phase found =>
    have unbegun := coherent.unbegun_of_idle phase
    exact elsewhere (by simp [unbegun]) (by simp [Operation.trial, unbegun, Operation.outcome?,
      Operation.told])
  | abandon | forsake | cancel | cancelAgain => exact absurd rfl goes
  | misuse fault late =>
    simp [Operation.consumedAfter, Operation.consumedBy?, Operation.trialAfter, Operation.isTaking,
      Operation.trial, Operation.outcome?, Operation.told, Event.isUsage,
      SubscriptionError.isUsage]
  | finishCancel answer canceling =>
    simp [coherent.canceling _ canceling, Phase.isCanceled] at uncanceled
  | finishNothing | deliver | hangUp | hold => rfl
  | wait unready =>
    refine elsewhere (fun search stage => ?_) rfl
    simp [Operation.isReady, stage] at unready
  | drop pending found =>
    refine elsewhere (fun search stage => ?_) rfl
    simp [stage, Stage.pending?] at pending
  | prepare prepared => exact prepared.trial follows (starting (.inl prepared.searching_before)).2 _ _
  | fail phase cause =>
    exact cause.trial follows (starting (.inl cause.isSearching)).2 answered rfl rfl rfl rfl
  | call stage =>
    exact elsewhere (by simp [stage]) (by simp [Operation.trial, stage, Trial.call, opened,
      Operation.outcome?, Operation.told])
  | retry stage rejected kept =>
    have answer := answered _ _ rfl (by simp [stage, Stage.pending?]) rejected
    exact elsewhere (by simp [stage]) (by simp [Operation.trial, stage, answer, Trial.answer,
      Operation.outcome?, Operation.told])
  | quit phase searching => exact absurd (starting (.inl searching)).1 phase
  | exhaust stage found tried =>
    have ahead := coherent.ahead
    simp [stage, Stage.LooksAhead, Cursor.hasNext, found, tried] at ahead
  | hear stage =>
    have answer := answered _ _ rfl (by simp [stage, Stage.pending?]) rfl
    exact elsewhere (by simp [stage]) (by simp [Operation.trial, stage, answer, Trial.answer])
  | activate stage phase =>
    rw [phase] at tells
    refine elsewhere (by simp [stage]) ?_
    simp only [Operation.trial, stage, Trial.answer]
    rw [Operation.outcome?_of_first rfl rfl tells]
    rfl
  | notice stage canceled => simp [uncanceled] at canceled
  | refuse stage late =>
    have accepted := coherent.accepted
    have phase := (starting (.inr ⟨_, _, stage⟩)).1
    simp [late phase, phase, Phase.subscriptionId?] at accepted
  | repeated stage phase => exact elsewhere (by simp [stage]) rfl
  | forward stage phase | spoil stage phase | complete stage phase | breakOff stage phase =>
    rw [phase] at tells
    obtain ⟨responses, same⟩ := tells
    refine elsewhere (by simp [stage]) ?_
    simp only [Operation.trial, stage]
    rw [Operation.outcome?_of_later rfl rfl (by simp [same, opening])]
  | leave stage inactive =>
    rw [stage] at suited
    obtain ⟨id, active | canceled⟩ := suited
    · simp [active, Phase.activeId?] at inactive
    · simp [canceled, Phase.isCanceled] at uncanceled
  | release stage =>
    exact elsewhere (by simp [stage]) (by simp [Operation.trial, stage, Operation.outcome?,
      Operation.told])
  | hearLate stage | giveUp _ stage =>
    rw [stage] at suited
    simp [show operation.phase = .canceled none from suited, Phase.isCanceled] at uncanceled

end Trial

end ModelSync
