import ModelSync.Proofs.Subscription.Search

/-! The loop gets on with its search. Along a schedule in which it is stepped again and again,
and every attempt is answered, it completes one trial after another until one of them decides
what becomes of the subscription. -/
namespace ModelSync

variable {α : Type}

/-- How many steps the loop is away from its next call. -/
def Stage.distance : Stage → Nat
  | .checking _ => 5
  | .taking _ => 4
  | .lookingAhead _ _ => 3
  | .decorating _ _ _ => 2
  | .calling _ _ _ => 1
  | _ => 0

/-- An item was taken, and the endpoint is yet to be called for it. -/
def Stage.Prepared (stage : Stage) : Prop := 0 < stage.distance ∧ stage.distance ≤ 3

theorem Stage.isSearching_of_distance {stage : Stage} (away : 0 < stage.distance) :
    stage.isSearching = true := by
  cases stage <;> simp_all [distance, isSearching]

/-- The search is between two trials, or just over. -/
inductive Rests (operation : Operation α) : Prop where
  | between {search : Search} (stage : operation.stage = .checking search) : Rests operation
  | active {id : String} {stream : Nat} (stage : operation.stage = .forwarding stream)
      (phase : operation.phase = .active id) (told : operation.told = [.started id]) :
      Rests operation
  | failed (stage : operation.stage = .returned) (phase : operation.phase = .failed none) :
      Rests operation

/-- How many signals the loop has to read before the answer it waits for. -/
def Operation.ahead (operation : Operation α) : Nat :=
  match operation.stage with
  | .awaiting _ _ stream => (operation.streams[stream]?).elim 0 SignalStream.ahead + 1
  | _ => 0

namespace Transition

variable {operation next : Operation α} {move : Move} {read : Option Read} {now : Nat}

/-- While a subscription starts, only steps move its loop. -/
theorem stage_of_outside (turned : Transition operation move read next)
    (coherent : Coherent operation) (phase : operation.phase = .starting)
    (outside : ∀ now, move ≠ .step now) : next.stage = operation.stage := by
  cases turned with
  | begin idle => simp [phase] at idle
  | giveUp loop stage =>
    have suited := coherent.suited
    rw [stage, phase] at suited
    cases suited
  | misuse | abandon | forsake | cancel | cancelAgain | finishCancel | finishNothing | deliver
  | hangUp | hold => rfl
  | _ => exact absurd rfl (outside _)

/-- A loop on its way to a call is not held up. -/
theorem onward_of_distance (turned : Transition operation (.step now) read next)
    (coherent : Coherent operation) (phase : operation.phase = .starting)
    (away : 0 < operation.stage.distance) :
    (0 < next.stage.distance ∧ next.stage.distance < operation.stage.distance ∧
        (3 < next.stage.distance ↔ 4 < operation.stage.distance)) ∨
      operation.stage.distance ≤ 4 ∧
        (Rests next ∨ ∃ search more stream, next.stage = .awaiting search more stream) := by
  cases turned with
  | wait unready => cases stage : operation.stage <;> simp_all [Operation.isReady, Stage.distance]
  | drop pending found =>
    cases stage : operation.stage <;> simp_all [Stage.pending?, Stage.distance]
  | prepare prepared =>
    cases prepared with
    | skip stage answer => exact .inr ⟨by simp [stage, Stage.distance], .inl (.between rfl)⟩
    | check stage | take stage | pass stage | hand stage | decorate stage =>
      exact .inl (by simp [stage, Stage.distance])
  | fail phase cause =>
    refine .inr ⟨?_, .inl (.failed rfl rfl)⟩
    cases cause <;> simp [*, Stage.distance]
  | call stage => exact .inr ⟨by simp [stage, Stage.distance], .inr ⟨_, _, _, rfl⟩⟩
  | quit inactive => exact absurd phase inactive
  | exhaust stage found tried =>
    have ahead := coherent.ahead
    simp [stage, Stage.LooksAhead, Cursor.hasNext, found, tried] at ahead
  | _ => simp_all [Stage.distance]

section Awaiting

variable {search : Search} {more : Bool} {stream : Nat}

/-- A loop that waits for an answer which is there reads on towards it. -/
theorem onward_of_awaiting (turned : Transition operation (.step now) read next)
    (phase : operation.phase = .starting) (stage : operation.stage = .awaiting search more stream) :
    next.stage = operation.stage ∧
        (operation.firstAnswer? stream ≠ none → next.ahead < operation.ahead) ∨
      Rests next ∨ ∃ id, next.stage = .accepting id stream := by
  cases turned with
  | wait unready =>
    refine .inl ⟨rfl, fun answered => ?_⟩
    cases held : operation.streams[stream]? with
    | none => simp [Operation.firstAnswer?, held] at answered
    | some listed =>
      have answered : listed.firstAnswer?.isSome = true := by
        simpa [Operation.firstAnswer?, held, Option.isSome_iff_ne_none] using answered
      simp [Operation.isReady, stage, Operation.hasArrival, held,
        SignalStream.hasArrival_of_firstAnswer? answered] at unready
  | @drop _ other item pending found =>
    obtain rfl : stream = other := by simpa [stage, Stage.pending?] using pending
    refine .inl ⟨rfl, fun _ => ?_⟩
    simp only [Operation.ahead, stage]
    cases held : operation.streams[stream]? with
    | none => simp [Operation.arrival, held] at found
    | some listed =>
      simp only [Operation.arrival, held] at found
      simp [held, (SignalStream.firstAnswer?_afterRead found).2]
  | prepare prepared =>
    have loose := prepared.stream_before
    simp [stage, Stage.stream?] at loose
  | retry => exact .inr (.inl (.between rfl))
  | fail => exact .inr (.inl (.failed rfl rfl))
  | quit inactive => exact absurd phase inactive
  | hear listening =>
    obtain ⟨-, -, rfl⟩ : _ ∧ _ ∧ stream = _ := by simpa [stage] using listening
    exact .inr (.inr ⟨_, rfl⟩)
  | notice listening canceled => simp [phase, Phase.isCanceled] at canceled
  | _ => simp_all

/-- What is sent after the answer comes after it. -/
theorem ahead_of_outside (turned : Transition operation move read next)
    (outside : ∀ now, move ≠ .step now) (stage : operation.stage = .awaiting search more stream)
    (answered : operation.firstAnswer? stream ≠ none) : next.ahead ≤ operation.ahead := by
  cases turned with
  | deliver target signal =>
    simp only [Operation.ahead, stage, List.getElem?_modify]
    cases held : operation.streams[stream]? with
    | none => simp
    | some listed =>
      have answered : listed.firstAnswer?.isSome = true := by
        simpa [Operation.firstAnswer?, held, Option.isSome_iff_ne_none] using answered
      by_cases same : target = stream
      · simp [same, SignalStream.ahead_deliver answered]
      · simp [same]
  | hangUp target =>
    simp only [Operation.ahead, stage, List.getElem?_modify]
    cases held : operation.streams[stream]? with
    | none => simp
    | some listed =>
      by_cases same : target = stream
      · simp [same, SignalStream.ahead, SignalStream.hangUp]
      · simp [same]
  | begin | giveUp => exact Nat.zero_le _
  | misuse | abandon | forsake | cancel | cancelAgain | finishCancel | finishNothing | hold =>
    exact Nat.le_refl _
  | _ => exact absurd rfl (outside _)

end Awaiting

/-- An acknowledgment that was read is accepted. -/
theorem rests_of_accepting {id : String} {stream : Nat}
    (turned : Transition operation (.step now) read next) (coherent : Coherent operation)
    (silent : operation.told = []) (phase : operation.phase = .starting)
    (stage : operation.stage = .accepting id stream) : Rests next := by
  cases turned with
  | activate =>
    refine .active rfl rfl ?_
    rw [Operation.told_eq_concat rfl rfl, silent]
    rfl
  | refuse listening late =>
    have accepted := coherent.accepted
    simp [late phase, phase, Phase.subscriptionId?] at accepted
  | wait unready => simp [Operation.isReady, stage] at unready
  | drop pending => simp [stage, Stage.pending?] at pending
  | prepare prepared =>
    have searching := prepared.searching_before
    simp [stage, Stage.isSearching] at searching
  | fail _ cause =>
    have searching := cause.isSearching
    simp [stage, Stage.isSearching] at searching
  | quit inactive => exact absurd phase inactive
  | _ => simp_all

end Transition

section Trial

variable {operation next : Operation α} {move : Move} {read : Option Read}

/-- A trial has consumed as many items as the loop took. -/
theorem Operation.trial_consumed (operation : Operation α) (answers : Nat → Answer)
    (consumed : Nat) : (operation.trial answers consumed).consumed = consumed := by
  cases stage : operation.stage <;> simp [trial, stage]

/-- Unless a call is being prepared, a trial has made all its calls. -/
theorem Operation.trial_calls (unprepared : ¬operation.stage.Prepared) (answers : Nat → Answer)
    (consumed : Nat) : (operation.trial answers consumed).calls = operation.calls := by
  cases stage : operation.stage <;>
    simp_all [trial, Stage.Prepared, Stage.distance]

/-- Calls are prepared after an item is taken, and none is made meanwhile. -/
theorem Transition.prepared (turned : Transition operation move read next)
    (prepared : next.stage.Prepared) :
    next.calls = operation.calls ∧
      (operation.stage.Prepared ∨
        ∃ search now, operation.stage = .taking search ∧ move = .step now) := by
  cases turned with
  | prepare loop =>
    refine ⟨rfl, ?_⟩
    cases loop with
    | take stage => exact .inr ⟨_, _, stage, rfl⟩
    | check | skip => simp [Stage.Prepared, Stage.distance] at prepared
    | pass stage | hand stage | decorate stage =>
      exact .inl (by simp [stage, Stage.Prepared, Stage.distance])
  | misuse | abandon | forsake | cancel | cancelAgain | finishCancel | finishNothing | deliver
  | hangUp | wait | hold | drop | forward | repeated => exact ⟨rfl, .inl prepared⟩
  | _ => simp [Stage.Prepared, Stage.distance] at prepared

end Trial

section Rest

variable {operation : Operation α} {plan : Plan α} {source : Candidates} {consumed : Nat}

/-- A subscription at rest is where its trial is. -/
theorem Rests.trial (rests : Rests operation) (answers : Nat → Answer) (consumed : Nat) :
    operation.trial answers consumed =
      ⟨consumed, operation.decorations, operation.calls, operation.outcome?⟩ := by
  cases rests with
  | between stage | active stage | failed stage => simp [Operation.trial, stage]

/-- What a trial has come to is what became of the subscription. -/
theorem Rests.outcome (rests : Rests operation)
    (tells : operation.phase.Tells operation.canceling operation.told)
    (silent : operation.stage.isSearching = true → operation.told = []) :
    match operation.outcome? with
    | none => ∃ search, operation.stage = .checking search
    | some (.active id) => operation.phase = .active id ∧ operation.told = [.started id]
    | some (.failed error) => operation.phase = .failed none ∧ operation.told = [.error error] := by
  cases rests with
  | @between search stage =>
    have silent := silent (by simp [stage, Stage.isSearching])
    simp [Operation.outcome?, silent, stage]
  | active stage phase told => simp [Operation.outcome?, told, Event.outcome?, phase]
  | failed stage phase =>
    rw [phase] at tells
    obtain ⟨error, told⟩ := tells
    simp [Operation.outcome?, told, Event.outcome?, phase]

end Rest

end ModelSync
