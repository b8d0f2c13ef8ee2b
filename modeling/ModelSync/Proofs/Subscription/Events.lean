import ModelSync.Proofs.Subscription.Lifecycle

/-! What a subscriber is told. Wrong uses left out, the events of every run are the beginning
of one of three courses: the search fails, or the subscription is acknowledged, delivers
items and then either completes or fails. After a cancellation nothing is told but that its
release failed. -/
namespace ModelSync

variable {α : Type}

/-- The event reports a wrong use. -/
def Event.isUsage : Event α → Bool
  | .error reason => reason.isUsage
  | _ => false

/-- What was told of an acknowledged subscription that delivers items. -/
def opening (id : String) (responses : List (Response α)) : List (Event α) :=
  .started id :: responses.map .next

/-- The events of a subscription from its start to its end. -/
inductive Course : List (Event α) → Prop where
  | failed (error : SubscriptionError) : Course [.error error]
  | completed (id : String) (responses : List (Response α)) :
      Course (opening id responses ++ [.completed])
  | broken (id : String) (responses : List (Response α)) (error : SubscriptionError) :
      Course (opening id responses ++ [.error error])

/-- The answer to the release of a cancellation, if it was made in these moves. -/
def releaseAnswer? (moves : List Move) : Option (Except EndpointError Unit) :=
  moves.findSome? fun move =>
    match move with
    | .finishCancel answer => some answer
    | _ => none

/-- What the subscriber was told, wrong uses left out. -/
def Operation.told (operation : Operation α) : List (Event α) :=
  operation.events.filter fun event => !event.isUsage

theorem Operation.told_eq_concat {operation next : Operation α} {event : Event α}
    (emitted : next.events = operation.events ++ [event]) (kept : event.isUsage = false) :
    next.told = operation.told ++ [event] := by
  simp [told, emitted, kept]

/-- What a subscriber was told in a phase. A cancellation may have told of its release once
this is no longer to be made. -/
def Phase.Tells : Phase → Option String → List (Event α) → Prop
  | .idle, _, told | .starting, _, told | .canceled none, _, told => told = []
  | .active id, _, told => ∃ responses, told = opening id responses
  | .completed id, _, told => ∃ responses, told = opening id responses ++ [.completed]
  | .failed none, _, told => ∃ error, told = [.error error]
  | .failed (some id), _, told =>
    ∃ responses error, told = opening id responses ++ [.error error]
  | .canceled (some id), canceling, told =>
    (∃ responses, told = opening id responses) ∨
      canceling = none ∧ ∃ responses error, told = opening id responses ++ [.error error]

private theorem Phase.Tells.prefix_of_course {phase : Phase} {canceling : Option String}
    {told : List (Event α)} (tells : phase.Tells canceling told) :
    ∃ course, Course course ∧ told <+: course := by
  have unended (id : String) (responses : List (Response α)) :
      ∃ course, Course course ∧ opening id responses <+: course :=
    ⟨_, .completed id responses, List.prefix_append _ _⟩
  match phase, tells with
  | .idle, nothing | .starting, nothing | .canceled none, nothing =>
    exact ⟨_, .failed .authExhausted, by simp [show told = [] from nothing]⟩
  | .active id, ⟨responses, same⟩ => exact same ▸ unended id responses
  | .completed id, ⟨responses, same⟩ => exact ⟨told, same ▸ .completed id responses, List.prefix_rfl⟩
  | .failed none, ⟨error, same⟩ => exact ⟨told, same ▸ .failed error, List.prefix_rfl⟩
  | .failed (some id), ⟨responses, error, same⟩ =>
    exact ⟨told, same ▸ .broken id responses error, List.prefix_rfl⟩
  | .canceled (some id), .inl ⟨responses, same⟩ => exact same ▸ unended id responses
  | .canceled (some id), .inr ⟨_, responses, error, same⟩ =>
    exact ⟨told, same ▸ .broken id responses error, List.prefix_rfl⟩

namespace Transition

variable {operation next : Operation α} {move : Move} {read : Option Read}

private theorem tells (turned : Transition operation move read next) (coherent : Coherent operation)
    (tells : operation.phase.Tells operation.canceling operation.told) :
    next.phase.Tells next.canceling next.told := by
  cases turned with
  | begin phase source | abandon phase | forsake phase =>
    rw [phase] at tells
    exact tells
  | cancel phase =>
    rw [phase] at tells
    exact .inl tells
  | misuse fault late =>
    simpa [Operation.told, Event.isUsage, SubscriptionError.isUsage] using tells
  | finishCancel answer canceling =>
    have phase := coherent.canceling _ canceling
    simp only [phase, canceling, Phase.Tells, reduceCtorEq, false_and, or_false] at tells
    obtain ⟨responses, same⟩ := tells
    simp only [phase]
    cases answer with
    | ok _ => exact .inl ⟨responses, by simpa [Operation.told, releaseReport] using same⟩
    | error error =>
      refine .inr ⟨rfl, responses, .endpoint error, ?_⟩
      rw [Operation.told_eq_concat rfl rfl, same]
  | @fail now decorations error read streams phase cause kept =>
    rw [phase] at tells
    have proper : (Event.error error : Event α).isUsage = false := cause.isUsage
    refine ⟨error, ?_⟩
    rw [Operation.told_eq_concat rfl proper, show operation.told = [] from tells]
    rfl
  | activate stage phase accepted =>
    rw [phase] at tells
    refine ⟨[], ?_⟩
    rw [Operation.told_eq_concat rfl rfl, show operation.told = [] from tells]
    rfl
  | @forward _ _ _ _ response _ stage phase decoded kept =>
    simp only [phase] at tells ⊢
    obtain ⟨responses, same⟩ := tells
    refine ⟨responses ++ [response], ?_⟩
    rw [Operation.told_eq_concat rfl rfl, same]
    simp [opening]
  | @spoil _ _ _ _ error _ stage phase undecodable kept =>
    rw [phase] at tells
    obtain ⟨responses, same⟩ := tells
    refine ⟨responses, .decode error, ?_⟩
    rw [Operation.told_eq_concat rfl rfl, same]
  | @breakOff _ _ _ _ error _ stage phase ended kept =>
    rw [phase] at tells
    obtain ⟨responses, same⟩ := tells
    refine ⟨responses, .endpoint error, ?_⟩
    rw [Operation.told_eq_concat rfl rfl, same]
  | complete stage phase kept =>
    rw [phase] at tells
    obtain ⟨responses, same⟩ := tells
    refine ⟨responses, ?_⟩
    rw [Operation.told_eq_concat rfl rfl, same]
  | _ => exact tells

/-- A canceled subscription stays canceled. It tells nothing more until its release is
answered, and nothing after that. -/
theorem told_of_canceled (turned : Transition operation move read next) {id : Option String}
    (canceled : operation.phase = .canceled id) :
    next.phase = .canceled id ∧
      ((∃ answer, move = .finishCancel answer ∧ operation.canceling ≠ none ∧
          next.canceling = none ∧ next.told = operation.told ++ releaseReport answer) ∨
        next.told = operation.told ∧ next.canceling = operation.canceling ∧
          (operation.canceling ≠ none → ∀ answer, move ≠ .finishCancel answer)) := by
  cases turned with
  | begin phase | abandon phase | forsake phase | cancel phase | fail phase
  | activate _ phase | forward _ phase | repeated _ phase | spoil _ phase | breakOff _ phase
  | complete _ phase =>
    rw [canceled] at phase
    cases phase
  | misuse fault late =>
    refine ⟨canceled, .inr ⟨?_, rfl, fun _ _ same => by cases same⟩⟩
    simp [Operation.told, Event.isUsage, SubscriptionError.isUsage]
  | finishCancel answer canceling =>
    refine ⟨canceled, .inl ⟨answer, rfl, by simp [canceling], rfl, ?_⟩⟩
    cases answer with
    | ok _ => simp [Operation.told, releaseReport]
    | error error => exact Operation.told_eq_concat rfl rfl
  | finishNothing answer canceling =>
    exact ⟨canceled, .inr ⟨rfl, rfl, fun releases => absurd canceling releases⟩⟩
  | giveUp loop =>
    refine ⟨canceled, .inr ⟨rfl, rfl, fun _ answer same => ?_⟩⟩
    simp [same, Move.isLoop] at loop
  | _ => exact ⟨canceled, .inr ⟨rfl, rfl, fun _ _ same => by cases same⟩⟩

/-- A search that has failed tells nothing more. -/
theorem told_of_failed (turned : Transition operation move read next)
    (coherent : Coherent operation) (failed : operation.phase = .failed none) :
    next.phase = .failed none ∧ next.told = operation.told := by
  cases turned with
  | begin phase | abandon phase | forsake phase | cancel phase | fail phase
  | activate _ phase | forward _ phase | repeated _ phase | spoil _ phase | breakOff _ phase
  | complete _ phase =>
    rw [failed] at phase
    cases phase
  | misuse fault late =>
    exact ⟨failed, by simp [Operation.told, Event.isUsage, SubscriptionError.isUsage]⟩
  | finishCancel answer canceling =>
    have canceled := coherent.canceling _ canceling
    rw [failed] at canceled
    cases canceled
  | _ => exact ⟨failed, rfl⟩

/-- Wrong uses are reported to a late start only. -/
theorem told_eq_events (turned : Transition operation move read next)
    (proper : operation.told = operation.events)
    (once : move = .start → operation.phase = .idle ∧ operation.source ≠ none) :
    next.told = next.events := by
  cases turned with
  | misuse fault late =>
    obtain ⟨idle, held⟩ := once rfl
    exact absurd (late idle) held
  | @fail _ _ error _ _ phase cause kept =>
    have kept : (Event.error error : Event α).isUsage = false := cause.isUsage
    rw [Operation.told_eq_concat rfl kept, proper]
  | activate | forward | spoil | breakOff | complete => rw [Operation.told_eq_concat rfl rfl, proper]
  | finishCancel answer canceling =>
    cases answer with
    | ok _ => simpa [Operation.told, releaseReport] using proper
    | error error => exact (Operation.told_eq_concat rfl rfl).trans (by rw [proper]; rfl)
  | _ => exact proper

end Transition

namespace Operation

theorem tells_run (plan : Plan α) (candidates : Candidates) (moves : List Move) :
    let operation := (make plan candidates).run moves
    operation.phase.Tells operation.canceling operation.told := by
  refine (run_induction (motive := fun operation => Coherent operation ∧
    operation.phase.Tells operation.canceling operation.told) ?_ ?_ moves).2
  · exact fun turned ⟨coherent, tells⟩ => ⟨turned.coherent coherent, turned.tells coherent tells⟩
  · exact ⟨coherent_make plan candidates, rfl⟩

/-- What a canceled subscription tells in further moves is the answer to the release that it
has yet to make. -/
theorem told_run_of_canceled (operation : Operation α) {id : Option String}
    (canceled : operation.phase = .canceled id) (moves : List Move) :
    (operation.run moves).told =
      operation.told ++
        match operation.canceling, releaseAnswer? moves with
        | some _, some answer => releaseReport answer
        | _, _ => [] := by
  induction moves generalizing operation with
  | nil => simp [run, releaseAnswer?]
  | cons move rest ih =>
    obtain ⟨still, change⟩ := (operation.transition_apply move).told_of_canceled canceled
    have later := ih (operation.apply move) still
    rw [show operation.run (move :: rest) = (operation.apply move).run rest from rfl, later]
    rcases change with ⟨answer, rfl, owed, settled, told⟩ | ⟨told, same, other⟩
    · obtain ⟨released, owes⟩ := Option.ne_none_iff_exists'.1 owed
      simp [settled, told, owes, releaseAnswer?]
    · rw [told, same]
      cases owes : operation.canceling with
      | none => rfl
      | some released =>
        have skipped : releaseAnswer? (move :: rest) = releaseAnswer? rest := by
          have unlike := other (by simp [owes])
          cases move with
          | finishCancel answer => exact absurd rfl (unlike answer)
          | _ => rfl
        rw [skipped]

/-- A cancellation has a release to make exactly if the subscription was active. -/
theorem beginCancel_canceling {operation : Operation α} (nothing : operation.canceling = none) :
    operation.beginCancel.canceling = operation.phase.activeId? := by
  unfold beginCancel
  cases operation.phase <;> simp [nothing, Phase.activeId?]

private theorem beginCancel_told (operation : Operation α) :
    operation.beginCancel.told = operation.told := by
  unfold beginCancel
  cases operation.phase <;> rfl

/-- At every moment of every run, what the subscriber was told, wrong uses left out, begins
one of the courses. After a cancellation it is only told if the subscription was active and
its release failed. -/
theorem events_follow_course (plan : Plan α) (candidates : Candidates)
    (before after : List Move) :
    let operation := (make plan candidates).run before
    (∃ course, Course course ∧ operation.told <+: course) ∧
      (operation.state ≠ .canceled → operation.beginCancel.state = .canceled →
        (operation.beginCancel.run after).told =
          operation.told ++
            match operation.phase.activeId?, releaseAnswer? after with
            | some _, some (.error error) => [.error (.endpoint error)]
            | _, _ => []) := by
  intro operation
  refine ⟨(tells_run plan candidates before).prefix_of_course, fun uncanceled canceled => ?_⟩
  have coherent : Coherent operation := coherent_run plan candidates before
  have nothing : operation.canceling = none := by
    refine Option.eq_none_iff_forall_ne_some.2 fun id owed => uncanceled ?_
    simp [state, coherent.canceling id owed, Phase.state]
  obtain ⟨id, ended⟩ : ∃ id, operation.beginCancel.phase = .canceled id := by
    unfold state at canceled
    cases phase : operation.beginCancel.phase <;> simp_all [Phase.state]
  rw [told_run_of_canceled _ ended, beginCancel_told, beginCancel_canceling nothing]
  congr 1
  cases operation.phase.activeId? with
  | none => rfl
  | some id =>
    cases releaseAnswer? after with
    | none => rfl
    | some answer => cases answer <;> rfl

theorem told_release_failure :
    let operation := (make samplePlan (.fixed .apiKey)).run (acknowledgment "one")
    operation.state ≠ .canceled ∧ operation.beginCancel.state = .canceled ∧
      (operation.beginCancel.run [.finishCancel (.error .closed)]).told =
        [.started "one", .error (.endpoint .closed)] :=
  ⟨by decide, by decide,
    (events_follow_course samplePlan (.fixed .apiKey) (acknowledgment "one")
      [.finishCancel (.error .closed)]).2 (by decide) (by decide)⟩

end Operation

end ModelSync
