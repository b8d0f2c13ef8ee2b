import ModelSync.Proofs.Subscription.Reads

/-! Which items of its source a loop consumes, and what it calls the endpoint for. In every run
the items are consumed in order, each of them once, and every call is made for the item that
was consumed last. -/
namespace ModelSync

variable {α : Type}

/-- A call is what a plan makes of an attempt. -/
def Plan.Makes (plan : Plan α) (attempt : Attempt) (call : Call) : Prop :=
  call.type = attempt.type ∧
    if attempt.decorate then ∃ asked, plan.decorator asked plan.request attempt.type = .ok call.request
    else call.request = plan.request

/-- A search has consumed a number of items of a source. -/
def Search.At (search : Search) (source : Candidates) (consumed : Nat) : Prop :=
  search.cursor.source = source ∧ search.cursor.position = consumed

/-- A loop that has consumed a number of items tries the last of them. -/
def Stage.Chosen (plan : Plan α) (source : Candidates) (consumed : Nat) : Stage → Prop
  | .checking search | .taking search | .awaiting search _ _ => search.At source consumed
  | .lookingAhead search attempt =>
    search.At source consumed ∧
      ∃ position, consumed = position + 1 ∧ source.attempt? position = some (.ok attempt)
  | .decorating search attempt _ =>
    search.At source consumed ∧ attempt.decorate = true ∧
      ∃ position, consumed = position + 1 ∧ source.attempt? position = some (.ok attempt)
  | .calling search call _ =>
    search.At source consumed ∧
      ∃ position attempt, consumed = position + 1 ∧
        source.attempt? position = some (.ok attempt) ∧ plan.Makes attempt call
  | _ => True

namespace Operation

/-- The position of the item that a move consumes. -/
def consumedBy? (operation : Operation α) : Move → Option Nat
  | .step _ =>
    match operation.stage with
    | .taking search => search.cursor.current?.map fun _ => search.cursor.position
    | _ => none
  | _ => none

/-- The positions of the items that a run consumes, in order. -/
def consumed (operation : Operation α) : List Move → List Nat
  | [] => []
  | move :: rest => (operation.consumedBy? move).toList ++ (operation.apply move).consumed rest

/-- How many items are consumed after a move, given how many were before. -/
def consumedAfter (operation : Operation α) (consumed : Nat) (move : Move) : Nat :=
  consumed + (operation.consumedBy? move).toList.length

theorem consumed_append (operation : Operation α) (before after : List Move) :
    operation.consumed (before ++ after) =
      operation.consumed before ++ (operation.run before).consumed after := by
  induction before generalizing operation with
  | nil => rfl
  | cons move rest ih => simp [consumed, ih, run]

theorem consumed_concat (operation : Operation α) (moves : List Move) (move : Move) :
    operation.consumed (moves ++ [move]) =
      operation.consumed moves ++ ((operation.run moves).consumedBy? move).toList := by
  simp [consumed_append, consumed]

theorem consumedBy?_of_elsewhere {operation : Operation α}
    (elsewhere : ∀ search, operation.stage ≠ .taking search) (move : Move) :
    operation.consumedBy? move = none := by
  unfold consumedBy?
  cases move with
  | step now => cases stage : operation.stage <;> simp_all
  | _ => rfl

theorem consumedAfter_of_elsewhere {operation : Operation α}
    (elsewhere : ∀ search, operation.stage ≠ .taking search) (consumed : Nat) (move : Move) :
    operation.consumedAfter consumed move = consumed := by
  simp [consumedAfter, consumedBy?_of_elsewhere elsewhere]

theorem consumedAfter_of_taking {operation : Operation α} {search : Search}
    (stage : operation.stage = .taking search) (consumed now : Nat) :
    operation.consumedAfter consumed (.step now) =
      if search.cursor.current?.isSome then consumed + 1 else consumed := by
  simp only [consumedAfter, consumedBy?, stage]
  cases search.cursor.current? <;> rfl

end Operation

/-- A subscription makes its choices from a source, of which it has consumed a number of
items. -/
structure Chooses (plan : Plan α) (source : Candidates) (operation : Operation α)
    (consumed : Nat) : Prop where
  planned : operation.plan = plan
  idle : operation.phase = .idle →
    operation.source = some source ∧ operation.decorations = 0 ∧ operation.calls = [] ∧ consumed = 0
  chosen : operation.stage.Chosen plan source consumed

namespace Chooses

variable {plan : Plan α} {source : Candidates} {operation : Operation α} {consumed : Nat}
  {search : Search}

theorem taking (chooses : Chooses plan source operation consumed)
    (stage : operation.stage = .taking search) : search.At source consumed := by
  have chosen := chooses.chosen
  rwa [stage] at chosen

/-- The next item of the source is the one that the loop is about to take. -/
theorem item (chooses : Chooses plan source operation consumed)
    (stage : operation.stage = .taking search) :
    source.attempt? consumed = search.cursor.current? := by
  obtain ⟨held, position⟩ := chooses.taking stage
  rw [Cursor.current?, held, position]

/-- An item is consumed at the position that comes next. -/
theorem position {position : Nat} {move : Move} (chooses : Chooses plan source operation consumed)
    (taken : operation.consumedBy? move = some position) : position = consumed := by
  unfold Operation.consumedBy? at taken
  cases move with
  | step now =>
    cases stage : operation.stage with
    | taking search =>
      simp only [stage] at taken
      obtain ⟨item, _, rfl⟩ := Option.map_eq_some_iff.1 taken
      exact (chooses.taking stage).2
    | _ => simp [stage] at taken
  | _ => cases taken

end Chooses

/-- What is prepared is the attempt of the item that was taken. -/
theorem Prepares.chosen {plan : Plan α} {source : Candidates} {operation : Operation α}
    {consumed decorations : Nat} {stage : Stage} (prepared : Prepares operation decorations stage)
    (chooses : Chooses plan source operation consumed) (now : Nat) :
    stage.Chosen plan source (operation.consumedAfter consumed (.step now)) := by
  have chosen := chooses.chosen
  cases prepared with
  | take stage found =>
    obtain ⟨held, position⟩ := chooses.taking stage
    rw [Operation.consumedAfter_of_taking stage, found]
    exact ⟨⟨held, congrArg (· + 1) position⟩, consumed, rfl, (chooses.item stage).trans found⟩
  | check stage =>
    rw [stage] at chosen
    rwa [Operation.consumedAfter_of_elsewhere (by simp [stage])]
  | hand stage owner =>
    rw [stage] at chosen
    rw [Operation.consumedAfter_of_elsewhere (by simp [stage])]
    exact ⟨chosen.1, owner, chosen.2⟩
  | pass stage plain =>
    rw [stage] at chosen
    rw [Operation.consumedAfter_of_elsewhere (by simp [stage])]
    obtain ⟨place, position, last, found⟩ := chosen
    exact ⟨place, position, _, last, found, by simp [Plan.Makes, plain, chooses.planned]⟩
  | decorate stage answer =>
    rw [stage] at chosen
    rw [Operation.consumedAfter_of_elsewhere (by simp [stage])]
    obtain ⟨place, owner, position, last, found⟩ := chosen
    refine ⟨place, position, _, last, found, rfl, ?_⟩
    rw [if_pos owner, ← chooses.planned]
    exact ⟨_, answer⟩
  | skip stage answer =>
    rw [stage] at chosen
    rw [Operation.consumedAfter_of_elsewhere (by simp [stage])]
    exact chosen.1

namespace Transition

variable {operation next : Operation α} {move : Move} {read : Option Read} {plan : Plan α}
  {source : Candidates} {consumed : Nat}

theorem plan_eq (turned : Transition operation move read next) : next.plan = operation.plan := by
  cases turned <;> rfl

/-- An idle subscription that stays idle has done nothing. -/
theorem kept_of_idle (turned : Transition operation move read next) (coherent : Coherent operation)
    (idle : next.phase = .idle) :
    operation.phase = .idle ∧ next.source = operation.source ∧
      next.decorations = operation.decorations ∧ next.calls = operation.calls := by
  cases turned with
  | prepare prepared =>
    have searching := prepared.searching_before
    simp [coherent.unbegun_of_idle idle, Stage.isSearching] at searching
  | quit phase searching =>
    simp [coherent.unbegun_of_idle idle, Stage.isSearching] at searching
  | call stage =>
    rw [coherent.unbegun_of_idle idle] at stage
    cases stage
  | _ => simp_all

private theorem chosen (turned : Transition operation move read next)
    (chooses : Chooses plan source operation consumed) :
    next.stage.Chosen plan source (operation.consumedAfter consumed move) := by
  have chosen := chooses.chosen
  have stays (elsewhere : ∀ search, operation.stage ≠ .taking search)
      (same : next.stage.Chosen plan source consumed) :
      next.stage.Chosen plan source (operation.consumedAfter consumed move) := by
    rwa [Operation.consumedAfter_of_elsewhere elsewhere]
  cases turned with
  | begin phase found =>
    obtain ⟨same, -, -, rfl⟩ := chooses.idle phase
    exact ⟨Option.some.inj (found.symm.trans same), rfl⟩
  | misuse | abandon | forsake | cancel | cancelAgain | finishCancel | finishNothing | deliver
  | hangUp | hold => exact chosen
  | wait unready =>
    refine stays (fun search stage => ?_) chosen
    simp [Operation.isReady, stage] at unready
  | drop pending found =>
    refine stays (fun search stage => ?_) chosen
    simp [stage, Stage.pending?] at pending
  | prepare prepared => exact prepared.chosen chooses _
  | call stage =>
    rw [stage] at chosen
    exact stays (by simp [stage]) chosen.1
  | retry stage =>
    rw [stage] at chosen
    exact stays (by simp [stage]) chosen
  | forward stage | repeated stage => exact stays (by simp [stage]) chosen
  | _ => trivial

/-- What a subscription chooses, and has consumed, it takes from its source. -/
theorem chooses (turned : Transition operation move read next) (coherent : Coherent operation)
    (chooses : Chooses plan source operation consumed) :
    Chooses plan source next (operation.consumedAfter consumed move) where
  planned := turned.plan_eq.trans chooses.planned
  idle idle := by
    obtain ⟨phase, held, decorations, calls⟩ := turned.kept_of_idle coherent idle
    have unbegun := coherent.unbegun_of_idle phase
    rw [held, decorations, calls, Operation.consumedAfter_of_elsewhere (by simp [unbegun])]
    exact chooses.idle phase
  chosen := turned.chosen chooses

/-- The endpoint is only called where a call was prepared. -/
theorem calls_eq (turned : Transition operation move read next) :
    next.calls = operation.calls ∨
      ∃ search call more, operation.stage = .calling search call more ∧
        next.calls = operation.calls ++ [call] := by
  cases turned with
  | call stage => exact .inr ⟨_, _, _, stage, rfl⟩
  | _ => exact .inl rfl

end Transition

namespace Operation

theorem chooses_run (plan : Plan α) (source : Candidates) (moves : List Move) :
    Chooses plan source ((make plan source).run moves)
      ((make plan source).consumed moves).length := by
  induction moves using List.reverseRecOn with
  | nil => exact ⟨rfl, fun _ => ⟨rfl, rfl, rfl, rfl⟩, trivial⟩
  | append_singleton before move ih =>
    rw [run_concat, consumed_concat, List.length_append]
    exact (transition_apply _ move).chooses (coherent_run plan source before) ih

/-- The items are consumed in order, each of them once. -/
theorem consumed_eq_range (plan : Plan α) (source : Candidates) (moves : List Move) :
    (make plan source).consumed moves =
      List.range ((make plan source).consumed moves).length := by
  induction moves using List.reverseRecOn with
  | nil => rfl
  | append_singleton before move ih =>
    rw [consumed_concat]
    cases taken : ((make plan source).run before).consumedBy? move with
    | none => simpa using ih
    | some position =>
      have next := (chooses_run plan source before).position taken
      simp [List.range_succ, ← ih, next]

/-- In these moves the endpoint is called, as the attempt of this number, for the item at a
position, which is the one that was consumed last. -/
def CalledFor (operation : Operation α) (moves : List Move) (attempt : Nat) (call : Call)
    (position : Nat) : Prop :=
  ∃ before move after, moves = before ++ move :: after ∧
    (operation.run before).calls.length = attempt ∧
    ((operation.run before).apply move).calls = (operation.run before).calls ++ [call] ∧
    (operation.consumed before).getLast? = some position

theorem CalledFor.append {operation : Operation α} {moves : List Move} {attempt position : Nat}
    {call : Call} (called : operation.CalledFor moves attempt call position) (later : List Move) :
    operation.CalledFor (moves ++ later) attempt call position := by
  obtain ⟨before, move, after, rfl, made⟩ := called
  exact ⟨before, move, after ++ later, by simp, made⟩

/-- Every call is made for some item. -/
theorem exists_calledFor (plan : Plan α) (source : Candidates) (moves : List Move)
    {attempt : Nat} {call : Call}
    (called : ((make plan source).run moves).calls[attempt]? = some call) :
    ∃ position, (make plan source).CalledFor moves attempt call position := by
  induction moves using List.reverseRecOn with
  | nil => cases called
  | append_singleton before move ih =>
    have earlier (listed : ((make plan source).run before).calls[attempt]? = some call) :
        ∃ position, (make plan source).CalledFor (before ++ [move]) attempt call position := by
      obtain ⟨position, made⟩ := ih listed
      exact ⟨position, made.append [move]⟩
    rw [run_concat] at called
    rcases (transition_apply _ move).calls_eq with same | ⟨search, made, more, stage, calls⟩
    · exact earlier (same ▸ called)
    · have chosen := (chooses_run plan source before).chosen
      rw [stage] at chosen
      obtain ⟨-, position, -, last, -⟩ := chosen
      rw [calls, List.getElem?_append] at called
      split at called
      case isTrue => exact earlier called
      case isFalse late =>
        obtain ⟨listed, rfl⟩ := List.getElem?_eq_some_iff.1 called
        simp only [List.length_singleton] at listed
        refine ⟨position, before, move, [], rfl, by omega, by simpa using calls, ?_⟩
        rw [consumed_eq_range, last, List.range_succ, List.getLast?_concat]

/-- A call is what the plan makes of the item that it is made for. -/
theorem makes_of_calledFor (plan : Plan α) (source : Candidates) {moves : List Move}
    {attempt position : Nat} {call : Call}
    (called : (make plan source).CalledFor moves attempt call position) :
    ∃ candidate, source.attempt? position = some (.ok candidate) ∧ plan.Makes candidate call := by
  obtain ⟨before, move, after, rfl, -, calls, latest⟩ := called
  rcases (transition_apply ((make plan source).run before) move).calls_eq with
    same | ⟨search, made, more, stage, appended⟩
  · simp [same] at calls
  · have chosen := (chooses_run plan source before).chosen
    rw [stage] at chosen
    obtain ⟨-, other, candidate, last, found, makes⟩ := chosen
    rw [consumed_eq_range, last, List.range_succ, List.getLast?_concat] at latest
    obtain rfl := Option.some.inj latest
    obtain rfl : made = call := by simpa using appended.symm.trans calls
    exact ⟨candidate, found, makes⟩

end Operation

end ModelSync
