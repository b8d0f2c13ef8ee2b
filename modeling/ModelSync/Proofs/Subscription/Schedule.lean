import ModelSync.Proofs.Subscription.Search

/-! A subscription over unlimited time. A schedule is undisturbed if it starts the subscription
once, does not cancel it, steps its loop again and again and lets the endpoint answer every
attempt. Along such a schedule the loop completes one trial after another. -/
namespace ModelSync

variable {α : Type}

/-- The moves of a schedule before a time. -/
def movesBefore (schedule : Nat → Move) (time : Nat) : List Move := (List.range time).map schedule

private theorem movesBefore_succ (schedule : Nat → Move) (time : Nat) :
    movesBefore schedule (time + 1) = movesBefore schedule time ++ [schedule time] := by
  simp [movesBefore, List.range_succ]

theorem movesBefore_prefix (schedule : Nat → Move) {time later : Nat} (before : time ≤ later) :
    movesBefore schedule time <+: movesBefore schedule later := by
  induction before with
  | refl => exact List.prefix_rfl
  | step _ ih =>
    rw [movesBefore_succ]
    exact ih.trans (List.prefix_append _ _)

/-- The state of a subscription at a time of a schedule. -/
def stateAt (plan : Plan α) (source : Candidates) (schedule : Nat → Move) (time : Nat) :
    Operation α :=
  (Operation.make plan source).run (movesBefore schedule time)

/-- The positions of the items that were consumed until a time. -/
def consumedAt (plan : Plan α) (source : Candidates) (schedule : Nat → Move) (time : Nat) :
    List Nat :=
  (Operation.make plan source).consumed (movesBefore schedule time)

/-- A schedule in which a subscription is started once and not canceled, its loop is stepped
again and again, and the endpoint answers every attempt that it receives. -/
structure Undisturbed (plan : Plan α) (source : Candidates) (answers : Nat → Answer)
    (schedule : Nat → Move) : Prop where
  started : ∃ begun, ∀ time, schedule time = .start ↔ time = begun
  uncanceled : ∀ time, schedule time ≠ .beginCancel
  fair : ∀ time, ∃ later, time ≤ later ∧ ∃ now, schedule later = .step now
  answered : ∀ time attempt, attempt < (stateAt plan source schedule time).calls.length →
    ∃ later, (Operation.make plan source).answered? attempt (movesBefore schedule later) =
      some (answers attempt)

section State

variable (plan : Plan α) (source : Candidates) (schedule : Nat → Move) (time : Nat)

theorem stateAt_succ :
    stateAt plan source schedule (time + 1) =
      (stateAt plan source schedule time).apply (schedule time) := by
  rw [stateAt, movesBefore_succ, Operation.run_concat]
  rfl

theorem transition_at :
    Transition (stateAt plan source schedule time) (schedule time)
      ((stateAt plan source schedule time).readBy (schedule time))
      (stateAt plan source schedule (time + 1)) := by
  rw [stateAt_succ]
  exact Operation.transition_apply _ _

private theorem consumedAt_succ :
    (consumedAt plan source schedule (time + 1)).length =
      (stateAt plan source schedule time).consumedAfter
        (consumedAt plan source schedule time).length (schedule time) := by
  rw [consumedAt, movesBefore_succ, Operation.consumed_concat, List.length_append]
  rfl

theorem consumedAt_eq_range :
    consumedAt plan source schedule time =
      List.range (consumedAt plan source schedule time).length :=
  Operation.consumed_eq_range plan source _

theorem coherent_at : Coherent (stateAt plan source schedule time) :=
  Operation.coherent_run plan source _

theorem tells_at :
    (stateAt plan source schedule time).phase.Tells (stateAt plan source schedule time).canceling
      (stateAt plan source schedule time).told :=
  Operation.tells_run plan source _

theorem calls_length_at :
    (stateAt plan source schedule time).calls.length =
      (stateAt plan source schedule time).streams.length :=
  Operation.calls_length plan source _

/-- What a loop that waits has yet to read begins with the first answer given. -/
theorem firstAnswer?_at {search : Search} {more : Bool} {stream : Nat}
    (stage : (stateAt plan source schedule time).stage = .awaiting search more stream) :
    (stateAt plan source schedule time).firstAnswer? stream =
      (Operation.make plan source).answered? stream (movesBefore schedule time) :=
  Operation.firstAnswer?_run plan source _ (by rw [← stateAt, stage]; rfl)

end State

namespace Undisturbed

variable {plan : Plan α} {source : Candidates} {answers : Nat → Answer} {schedule : Nat → Move}

theorem follows (undisturbed : Undisturbed plan source answers schedule) (time : Nat) :
    Follows plan source (stateAt plan source schedule time)
      (consumedAt plan source schedule time).length := by
  induction time with
  | zero => exact ⟨⟨rfl, fun _ => ⟨rfl, rfl, rfl, rfl⟩, trivial⟩, rfl⟩
  | succ time ih =>
    rw [consumedAt_succ]
    exact (transition_at plan source schedule time).follows (coherent_at plan source schedule time)
      ih (undisturbed.uncanceled time)

/-- What the loop reads in answer to an attempt is what the endpoint answers. -/
theorem answer_of_read (undisturbed : Undisturbed plan source answers schedule) {time : Nat}
    {read : Read} {answer : Answer}
    (taken : (stateAt plan source schedule time).readBy (schedule time) = some read)
    (pending : (stateAt plan source schedule time).stage.pending? = some read.stream)
    (found : read.arrival.answer? = some answer) : answers read.stream = answer := by
  have first := Operation.answered?_of_read plan source (movesBefore schedule time) taken pending found
  have latest := (Operation.heard_run plan source (movesBefore schedule time)).latest _
    (Stage.stream?_of_pending pending)
  have calls := calls_length_at plan source schedule time
  obtain ⟨later, final⟩ := undisturbed.answered time read.stream (by
    rw [calls, stateAt, ← latest]
    exact Nat.lt_succ_self _)
  have agree {one two : Nat} {early late : Answer} (before : one ≤ two)
      (earlier : (Operation.make plan source).answered? read.stream (movesBefore schedule one) =
        some early)
      (last : (Operation.make plan source).answered? read.stream (movesBefore schedule two) =
        some late) : late = early := by
    obtain ⟨rest, same⟩ := movesBefore_prefix schedule before
    rw [← same, Operation.answered?_append, earlier] at last
    exact (Option.some.inj last).symm
  rcases Nat.le_total time later with before | before
  · exact agree before first final
  · exact (agree before final first).symm

/-- The trial that the loop is about to complete at a time. -/
def trialAt (plan : Plan α) (source : Candidates) (answers : Nat → Answer)
    (schedule : Nat → Move) (time : Nat) : Trial :=
  (stateAt plan source schedule time).trial answers (consumedAt plan source schedule time).length

private theorem trialAt_succ (undisturbed : Undisturbed plan source answers schedule) (time : Nat) :
    trialAt plan source answers schedule (time + 1) =
      (stateAt plan source schedule time).trialAfter plan source answers
        (consumedAt plan source schedule time).length (schedule time) := by
  rw [trialAt, consumedAt_succ]
  exact (transition_at plan source schedule time).trial (coherent_at plan source schedule time)
    (tells_at plan source schedule time) (undisturbed.follows time) (undisturbed.uncanceled time)
    (calls_length_at plan source schedule time)
    fun taken answer read pending found => undisturbed.answer_of_read read pending found

/-- Until the loop takes from its source, its trial stays the same. -/
theorem trialAt_succ_of_elsewhere (undisturbed : Undisturbed plan source answers schedule)
    {time : Nat}
    (elsewhere : ∀ search, (stateAt plan source schedule time).stage ≠ .taking search) :
    trialAt plan source answers schedule (time + 1) = trialAt plan source answers schedule time := by
  rw [undisturbed.trialAt_succ, Operation.trialAfter_of_elsewhere elsewhere, trialAt]

/-- A move that is no step of the loop leaves its trial as it is. -/
theorem trialAt_succ_of_outside (undisturbed : Undisturbed plan source answers schedule)
    {time : Nat} (outside : ∀ now, schedule time ≠ .step now) :
    trialAt plan source answers schedule (time + 1) = trialAt plan source answers schedule time := by
  rw [undisturbed.trialAt_succ, Operation.trialAfter, trialAt]
  cases move : schedule time with
  | step now => exact absurd move (outside now)
  | _ => rfl

theorem trialAt_succ_of_untaken (undisturbed : Undisturbed plan source answers schedule)
    {time : Nat}
    (untaken : ¬∃ search now, (stateAt plan source schedule time).stage = .taking search ∧
      schedule time = .step now) :
    trialAt plan source answers schedule (time + 1) = trialAt plan source answers schedule time := by
  by_cases loop : ∃ now, schedule time = .step now
  · obtain ⟨now, step⟩ := loop
    exact undisturbed.trialAt_succ_of_elsewhere fun search stage => untaken ⟨search, now, stage, step⟩
  · exact undisturbed.trialAt_succ_of_outside (not_exists.1 loop)

theorem trialAt_succ_of_taking (undisturbed : Undisturbed plan source answers schedule)
    {time now : Nat} {search : Search} (step : schedule time = .step now)
    (stage : (stateAt plan source schedule time).stage = .taking search) :
    trialAt plan source answers schedule (time + 1) =
      (trialAt plan source answers schedule time).next plan source answers := by
  rw [undisturbed.trialAt_succ, step, Operation.trialAfter_of_taking stage, trialAt,
    Operation.trial, stage]

theorem starting (undisturbed : Undisturbed plan source answers schedule) {time : Nat}
    (early : (stateAt plan source schedule time).stage.isSearching = true ∨
      ∃ id stream, (stateAt plan source schedule time).stage = .accepting id stream) :
    (stateAt plan source schedule time).phase = .starting ∧
      (stateAt plan source schedule time).told = [] :=
  (undisturbed.follows time).starting (coherent_at plan source schedule time)
    (tells_at plan source schedule time) early

/-- Until it is started, a subscription is idle. -/
theorem idle (undisturbed : Undisturbed plan source answers schedule) {begun : Nat}
    (started : ∀ time, schedule time = .start ↔ time = begun) {time : Nat} (before : time ≤ begun) :
    (stateAt plan source schedule time).phase = .idle := by
  induction time with
  | zero => rfl
  | succ time ih =>
    refine (transition_at plan source schedule time).idle (ih (Nat.le_of_succ_le before)) ?_
      (undisturbed.uncanceled time)
    exact fun start => Nat.ne_of_lt before ((started time).1 start)

/-- No wrong use is reported. -/
theorem told_eq_events (undisturbed : Undisturbed plan source answers schedule) (time : Nat) :
    (stateAt plan source schedule time).told = (stateAt plan source schedule time).events := by
  obtain ⟨begun, started⟩ := undisturbed.started
  induction time with
  | zero => rfl
  | succ time ih =>
    refine (transition_at plan source schedule time).told_eq_events ih fun start => ?_
    obtain rfl := (started time).1 start
    have idle := undisturbed.idle started (Nat.le_refl time)
    exact ⟨idle, by simp [((undisturbed.follows time).idle idle).1]⟩

end Undisturbed

end ModelSync
