import ModelSync.Proofs.Subscription.Transitions

/-! How the phase of a subscription and the place of its loop fit together in every state
that it can reach. `coherent_run` is the invariant that the theorems about events, releases
and attempts start from. -/
namespace ModelSync

variable {α : Type}

namespace Stage

/-- The phases that a subscription may be in while its loop is at a stage. -/
def Suits : Stage → Phase → Prop
  | .unbegun, phase => phase = .idle ∨ phase = .canceled none
  | .forwarding _, phase => ∃ id, phase = .active id ∨ phase = .canceled (some id)
  | .releasing id _, phase => phase = .canceled none ∨ phase = .failed (some id)
  | .draining _ _, phase => phase = .canceled none
  | .returned, phase => phase.state.isTerminal = true
  | _, phase => phase = .starting ∨ phase = .canceled none

/-- What the loop knows of the candidates that remain is true. It only goes on to another
candidate after it has seen that there is one. -/
def LooksAhead : Stage → Prop
  | .checking search | .taking search => search.tried ≠ 0 → search.cursor.hasNext = true
  | .decorating search _ more | .calling search _ more | .awaiting search more _ =>
    more = search.cursor.hasNext
  | _ => True

/-- A subscription is only active while its loop forwards. -/
theorem Suits.activeId?_eq_none {stage : Stage} {phase : Phase} (suited : stage.Suits phase)
    (elsewhere : ∀ stream, stage ≠ .forwarding stream) : phase.activeId? = none := by
  cases stage <;> cases phase <;>
    simp_all [Suits, Phase.activeId?, Phase.state, SubscriptionState.isTerminal]

theorem suits_searching_iff {stage : Stage} (searching : stage.isSearching = true)
    (phase : Phase) : stage.Suits phase ↔ phase = .starting ∨ phase = .canceled none := by
  cases stage <;> simp_all [Suits, isSearching]

end Stage

/-- What holds in every state that a subscription can reach. -/
structure Coherent (operation : Operation α) : Prop where
  suited : operation.stage.Suits operation.phase
  ahead : operation.stage.LooksAhead
  /-- The candidates are held until the start, or until a cancellation before it. -/
  held : operation.source.isSome = true ↔ operation.phase = .idle
  accepted : operation.accepted = operation.phase.subscriptionId?.isSome
  /-- Only the cancellation of an acknowledged subscription leaves something to release. -/
  canceling : ∀ id, operation.canceling = some id → operation.phase = .canceled (some id)

theorem Coherent.forwarding_of_active {operation : Operation α} {id : String}
    (coherent : Coherent operation) (phase : operation.phase = .active id) :
    ∃ stream, operation.stage = .forwarding stream := by
  refine Classical.byContradiction fun elsewhere => ?_
  have inactive := coherent.suited.activeId?_eq_none (not_exists.1 elsewhere)
  simp [phase, Phase.activeId?] at inactive

theorem Coherent.unbegun_of_idle {operation : Operation α} (coherent : Coherent operation)
    (phase : operation.phase = .idle) : operation.stage = .unbegun := by
  have suited := coherent.suited
  rw [phase] at suited
  cases stage : operation.stage <;>
    simp_all [Stage.Suits, Phase.state, SubscriptionState.isTerminal]

namespace Prepares

variable {operation : Operation α} {decorations : Nat} {stage : Stage}

theorem searching_before (prepared : Prepares operation decorations stage) :
    operation.stage.isSearching = true := by
  cases prepared <;> simp [*, Stage.isSearching]

theorem searching_after (prepared : Prepares operation decorations stage) :
    stage.isSearching = true := by
  cases prepared <;> rfl

private theorem looksAhead (prepared : Prepares operation decorations stage)
    (ahead : operation.stage.LooksAhead) : stage.LooksAhead := by
  cases prepared with
  | check stage phase => simpa [stage, Stage.LooksAhead] using ahead
  | take stage found => trivial
  | pass stage plain => rfl
  | hand stage owner => rfl
  | decorate stage answer => simpa [stage, Stage.LooksAhead] using ahead
  | skip stage answer =>
    rw [stage] at ahead
    exact fun _ => ahead.symm

end Prepares

namespace Transition

variable {operation next : Operation α} {move : Move} {read : Option Read}

private theorem looksAhead (turned : Transition operation move read next)
    (ahead : operation.stage.LooksAhead) : next.stage.LooksAhead := by
  cases turned with
  | prepare prepared => exact prepared.looksAhead ahead
  | _ => simp_all [Stage.LooksAhead]

private theorem held (turned : Transition operation move read next)
    (held : operation.source.isSome = true ↔ operation.phase = .idle) :
    next.source.isSome = true ↔ next.phase = .idle := by
  cases turned with
  | misuse fault late =>
    have begun : operation.phase ≠ .idle := by
      intro idle
      have present := held.2 idle
      simp [late idle] at present
    simp [begun]
  | _ => simp_all

private theorem accepted (turned : Transition operation move read next)
    (accepted : operation.accepted = operation.phase.subscriptionId?.isSome) :
    next.accepted = next.phase.subscriptionId?.isSome := by
  cases turned <;> simp_all [Phase.subscriptionId?]

private theorem canceling (turned : Transition operation move read next)
    (canceling : ∀ id, operation.canceling = some id → operation.phase = .canceled (some id)) :
    ∀ id, next.canceling = some id → next.phase = .canceled (some id) := by
  cases turned <;> simp_all

private theorem suited (turned : Transition operation move read next)
    (coherent : Coherent operation) : next.stage.Suits next.phase := by
  have suited := coherent.suited
  cases turned with
  | begin phase source => exact .inl rfl
  | abandon phase | forsake phase | cancel phase =>
    rw [phase] at suited
    cases stage : operation.stage <;>
      simp_all [Stage.Suits, Phase.state, SubscriptionState.isTerminal]
  | prepare prepared =>
    rw [Stage.suits_searching_iff prepared.searching_before] at suited
    exact (Stage.suits_searching_iff prepared.searching_after _).2 suited
  | quit phase searching =>
    rw [Stage.suits_searching_iff searching] at suited
    rw [suited.resolve_left phase]
    rfl
  | exhaust stage found tried =>
    -- The loop has looked ahead before it came here.
    have ahead := coherent.ahead
    simp [stage, Stage.LooksAhead, Cursor.hasNext, found, tried] at ahead
  | notice stage phase =>
    rw [stage] at suited
    rcases suited with starting | canceled
    · simp [starting, Phase.isCanceled] at phase
    · exact canceled
  | refuse stage late =>
    -- Nothing was accepted while the subscription is starting.
    have accepted := coherent.accepted
    rw [stage] at suited
    rcases suited with starting | canceled
    · simp [late starting, starting, Phase.subscriptionId?] at accepted
    · exact .inl canceled
  | leave stage inactive kept =>
    rw [stage] at suited
    obtain ⟨id, active | canceled⟩ := suited
    · simp [active, Phase.activeId?] at inactive
    · rw [canceled]
      rfl
  | release stage kept =>
    rw [stage] at suited
    rcases suited with canceled | failed
    · rw [canceled]
      rfl
    · rw [failed]
      rfl
  | _ => simp_all [Stage.Suits, Phase.state, SubscriptionState.isTerminal]

/-- Only a start or a cancellation ends the idle phase. -/
theorem idle (turned : Transition operation move read next) (idle : operation.phase = .idle)
    (unstarted : move ≠ .start) (goes : move ≠ .beginCancel) : next.phase = .idle := by
  cases turned <;> simp_all

theorem coherent (turned : Transition operation move read next) (coherent : Coherent operation) :
    Coherent next where
  suited := turned.suited coherent
  ahead := turned.looksAhead coherent.ahead
  held := turned.held coherent.held
  accepted := turned.accepted coherent.accepted
  canceling := turned.canceling coherent.canceling

end Transition

namespace Operation

theorem coherent_make (plan : Plan α) (candidates : Candidates) :
    Coherent (make plan candidates) where
  suited := .inl rfl
  ahead := trivial
  held := by simp [make]
  accepted := rfl
  canceling := nofun

theorem coherent_run (plan : Plan α) (candidates : Candidates) (moves : List Move) :
    Coherent ((make plan candidates).run moves) :=
  run_induction Transition.coherent (coherent_make plan candidates) moves

end Operation

end ModelSync
