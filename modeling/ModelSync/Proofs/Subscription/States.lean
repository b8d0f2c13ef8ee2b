import Mathlib.Logic.Relation
import ModelSync.Proofs.Subscription.Release

/-! The states that a caller sees, and the id beside them. Every move leads at most one step
along a graph of eight edges, terminal states are left by none of them, and the id appears with the
acknowledgment and then stays. -/
namespace ModelSync

variable {α : Type}

/-- The steps from one state to another. -/
inductive SubscriptionState.Leads : SubscriptionState → SubscriptionState → Prop where
  | start : Leads .idle .starting
  | abandon : Leads .idle .canceled
  | activate : Leads .starting .active
  | forsake : Leads .starting .canceled
  | fail : Leads .starting .failed
  | complete : Leads .active .completed
  | cancel : Leads .active .canceled
  | breakOff : Leads .active .failed

/-- The steps from one phase to another. -/
inductive Phase.Leads : Phase → Phase → Prop where
  | start : Leads .idle .starting
  | abandon : Leads .idle (.canceled none)
  | activate (id : String) : Leads .starting (.active id)
  | forsake : Leads .starting (.canceled none)
  | fail : Leads .starting (.failed none)
  | complete (id : String) : Leads (.active id) (.completed id)
  | cancel (id : String) : Leads (.active id) (.canceled (some id))
  | breakOff (id : String) : Leads (.active id) (.failed (some id))

namespace Phase.Leads

variable {phase next : Phase}

private theorem state (leads : phase.Leads next) : phase.state.Leads next.state := by
  cases leads <;> constructor

private theorem state_ne (leads : phase.Leads next) : next.state ≠ phase.state := by
  cases leads <;> simp [Phase.state]

/-- No step leads out of a terminal phase. -/
theorem not_isTerminal (leads : phase.Leads next) : phase.state.isTerminal = false := by
  cases leads <;> rfl

private theorem subscriptionId? (leads : phase.Leads next) {id : String}
    (known : phase.subscriptionId? = some id) : next.subscriptionId? = some id := by
  cases leads with
  | complete | cancel | breakOff => exact known
  | _ => cases known

/-- The id appears with the step to the active phase. -/
theorem subscriptionId?_ne_iff (leads : phase.Leads next) :
    next.subscriptionId? ≠ phase.subscriptionId? ↔
      phase.state = .starting ∧ next.state = .active := by
  cases leads <;> simp [Phase.state, Phase.subscriptionId?]

/-- A phase in which a subscription is given up, or fails, has an id if the active phase leads to
it. -/
theorem isSome_iff (leads : phase.Leads next)
    (ended : next.state = .canceled ∨ next.state = .failed) :
    next.subscriptionId?.isSome = true ↔ phase.state = .active := by
  cases leads <;> simp_all [Phase.state, Phase.subscriptionId?]

end Phase.Leads

theorem Transition.leads {operation next : Operation α} {move : Move} {read : Option Read}
    (turned : Transition operation move read next) :
    next.phase = operation.phase ∨ operation.phase.Leads next.phase := by
  cases turned with
  | begin phase => exact .inr (phase ▸ .start)
  | abandon phase => exact .inr (phase ▸ .abandon)
  | forsake phase => exact .inr (phase ▸ .forsake)
  | cancel phase => exact .inr (phase ▸ .cancel _)
  | fail phase => exact .inr (phase ▸ .fail)
  | activate _ phase => exact .inr (phase ▸ .activate _)
  | complete _ phase => exact .inr (phase ▸ .complete _)
  | spoil _ phase | breakOff _ phase => exact .inr (phase ▸ .breakOff _)
  | _ => exact .inl rfl

namespace Operation

/-- The state that a move puts an end to. -/
def leftBy? (operation : Operation α) (move : Move) : Option SubscriptionState :=
  if (operation.apply move).state = operation.state then none else some operation.state

/-- The state before the last change of the state in a run. -/
def formerState? (operation : Operation α) : List Move → Option SubscriptionState
  | [] => none
  | move :: rest => ((operation.apply move).formerState? rest).or (operation.leftBy? move)

theorem formerState?_concat (operation : Operation α) (moves : List Move) (move : Move) :
    operation.formerState? (moves ++ [move]) =
      ((operation.run moves).leftBy? move).or (operation.formerState? moves) := by
  induction moves generalizing operation with
  | nil => simp [formerState?, run]
  | cons first rest ih => simp [formerState?, ih, run, Option.or_assoc]

private theorem leads_apply (operation : Operation α) (move : Move) :
    (operation.apply move).phase = operation.phase ∨
      operation.phase.Leads (operation.apply move).phase :=
  (operation.transition_apply move).leads

/-- A run leads along the steps. -/
theorem leads_run (operation : Operation α) (moves : List Move) :
    Relation.ReflTransGen Phase.Leads operation.phase (operation.run moves).phase := by
  induction moves using List.reverseRecOn with
  | nil => exact .refl
  | append_singleton before move ih =>
    rw [run_concat]
    rcases (operation.run before).leads_apply move with same | leads
    · rw [same]
      exact ih
    · exact ih.tail leads

/-- A terminal phase never changes. -/
theorem phase_of_terminal {operation : Operation α} (ended : operation.state.isTerminal = true)
    (moves : List Move) : (operation.run moves).phase = operation.phase := by
  rcases (operation.leads_run moves).cases_head with same | ⟨next, leads, _⟩
  · exact same.symm
  · have unended := leads.not_isTerminal
    rw [state] at ended
    simp [ended] at unended

/-- An id that is there stays. -/
theorem subscriptionId?_run {operation : Operation α} {id : String}
    (known : operation.subscriptionId? = some id) (moves : List Move) :
    (operation.run moves).subscriptionId? = some id := by
  induction moves using List.reverseRecOn with
  | nil => exact known
  | append_singleton before move ih =>
    rw [run_concat]
    unfold subscriptionId? at ih ⊢
    rcases (operation.run before).leads_apply move with same | leads
    · rw [same]
      exact ih
    · exact leads.subscriptionId? ih

/-- A subscription that was canceled, or has failed, has an id if it was active before. -/
theorem isSome_iff_formerState? (plan : Plan α) (candidates : Candidates) (moves : List Move)
    (ended : ((make plan candidates).run moves).state = .canceled ∨
      ((make plan candidates).run moves).state = .failed) :
    ((make plan candidates).run moves).subscriptionId?.isSome = true ↔
      (make plan candidates).formerState? moves = some .active := by
  induction moves using List.reverseRecOn with
  | nil => simp [run, make, state, Phase.state] at ended
  | append_singleton before move ih =>
    rw [run_concat] at ended ⊢
    rw [formerState?_concat]
    unfold state at ended ih
    unfold subscriptionId? at ih ⊢
    rcases ((make plan candidates).run before).leads_apply move with same | leads
    · rw [same] at ended ⊢
      simpa [leftBy?, state, same] using ih ended
    · simpa [leftBy?, state, leads.state_ne] using leads.isSome_iff ended

/-- In every state that a subscription can reach, a move leads nowhere or along one of the steps,
and the id changes exactly where a subscription that was starting becomes active, to the one
that was acknowledged. A run leads along the steps; terminal states and ids stay as they are.
Whether there is an id is told by the state, and for a subscription that was canceled or has
failed by the state before. The candidates are held in the idle state only, and an
acknowledgment was accepted exactly if there is an id. -/
theorem states_lead_on (plan : Plan α) (candidates : Candidates) (moves : List Move) :
    let operation := (make plan candidates).run moves
    (∀ move, let next := operation.apply move
      (next.state = operation.state ∨ operation.state.Leads next.state) ∧
        (next.subscriptionId? ≠ operation.subscriptionId? ↔
          operation.state = .starting ∧ next.state = .active)) ∧
      (∀ later,
        Relation.ReflTransGen SubscriptionState.Leads operation.state
            (operation.run later).state ∧
          (operation.state.isTerminal = true → (operation.run later).state = operation.state) ∧
          ∀ id, operation.subscriptionId? = some id →
            (operation.run later).subscriptionId? = some id) ∧
      (∀ id, operation.subscriptionId? = some id →
        acknowledgedId? ((make plan candidates).reads moves) = some id) ∧
      (match operation.state with
        | .idle | .starting => operation.subscriptionId? = none
        | .active | .completed => operation.subscriptionId?.isSome = true
        | .canceled | .failed => operation.subscriptionId?.isSome = true ↔
            (make plan candidates).formerState? moves = some .active) ∧
      (operation.source.isSome = true ↔ operation.state = .idle) ∧
      (operation.accepted = true ↔ operation.subscriptionId?.isSome = true) := by
  intro operation
  have coherent : Coherent operation := coherent_run plan candidates moves
  refine ⟨fun move => ?_, fun later => ⟨?_, fun ended => ?_, fun id known => ?_⟩, fun id known => ?_,
    ?_, ?_, ?_⟩
  · simp only [state, subscriptionId?]
    rcases operation.leads_apply move with same | leads
    · rw [same]
      refine ⟨.inl rfl, iff_of_false (by simp) ?_⟩
      rintro ⟨starting, active⟩
      simp [starting] at active
    · exact ⟨.inr leads.state, leads.subscriptionId?_ne_iff⟩
  · exact (operation.leads_run later).lift Phase.state fun _ _ leads => leads.state
  · exact congrArg Phase.state (phase_of_terminal ended later)
  · exact subscriptionId?_run known later
  · exact (ledger_run plan candidates moves).known id (.inl known)
  · have given : operation.state = .canceled ∨ operation.state = .failed →
        (operation.subscriptionId?.isSome = true ↔
          (make plan candidates).formerState? moves = some .active) :=
      isSome_iff_formerState? plan candidates moves
    unfold state subscriptionId? at given ⊢
    cases phase : operation.phase with
    | idle | starting | active | completed => rfl
    | canceled id | failed id => simpa [phase, Phase.state] using given
  · have held := coherent.held
    unfold state
    cases phase : operation.phase <;> simp_all [Phase.state]
  · rw [coherent.accepted]
    rfl

theorem id_after_failure :
    let moves := acknowledgment "one" ++ [.hangUp 0, .step 0]
    let operation := (make samplePlan (.fixed .apiKey)).run moves
    operation.state = .failed ∧ operation.subscriptionId? = some "one" ∧
      acknowledgedId? ((make samplePlan (.fixed .apiKey)).reads moves) = some "one" ∧
      (operation.run [.start, .beginCancel]).state = .failed := by
  intro moves operation
  have led := states_lead_on samplePlan (.fixed .apiKey) moves
  have failed : operation.state = .failed := rfl
  have known : operation.subscriptionId? = some "one" := rfl
  exact ⟨failed, known, led.2.2.1 "one" known,
    ((led.2.1 [.start, .beginCancel]).2.1 (by rw [failed]; rfl)).trans failed⟩

end Operation

end ModelSync
