import ModelSync.Proofs.Subscription.Progress
import ModelSync.Proofs.Subscription.Schedule

/-! Every round of a search comes to its end. A round is first under way to its call and then
awaits an answer; in each part a rank falls with every step of the loop, and a fair schedule
steps it until nothing is left of the rank. -/
namespace ModelSync

variable {α : Type}

/-- What is pursued is reached, unless it is pursued for ever. -/
theorem done_or_busy (busy : Nat → Prop) {done : Nat → Prop} {since : Nat}
    (onward : ∀ time, since ≤ time → busy time → done (time + 1) ∨ busy (time + 1))
    (start : busy since) {time : Nat} (after : since ≤ time) : (∃ time, done time) ∨ busy time := by
  induction after with
  | refl => exact .inr start
  | @step time after ih =>
    rcases ih with found | pursued
    · exact .inl found
    · rcases onward time after pursued with reached | goes
      · exact .inl ⟨time + 1, reached⟩
      · exact .inr goes

/-- A rank does not grow at a time, and falls if the loop is stepped then. -/
def Falls (schedule : Nat → Move) (rank : Nat → Nat) (time : Nat) : Prop :=
  rank (time + 1) ≤ rank time ∧ ∀ now, schedule time = .step now → rank (time + 1) < rank time

private theorem Falls.of_lt {schedule : Nat → Move} {rank : Nat → Nat} {time : Nat}
    (lower : rank (time + 1) < rank time) : Falls schedule rank time :=
  ⟨Nat.le_of_lt lower, fun _ _ => lower⟩

/-- A rank that falls leads to what is pursued. -/
theorem eventually_of_rank {schedule : Nat → Move}
    (fair : ∀ time, ∃ later, time ≤ later ∧ ∃ now, schedule later = .step now)
    (busy : Nat → Prop) {done : Nat → Prop} {rank : Nat → Nat} {since : Nat}
    (onward : ∀ time, since ≤ time → busy time → done (time + 1) ∨
      busy (time + 1) ∧ Falls schedule rank time)
    (start : busy since) : ∃ time, done time := by
  induction bound : rank since using Nat.strongRecOn generalizing since with
  | ind bound ih =>
    obtain ⟨later, after, now, step⟩ := fair since
    have lower : ∀ time, since ≤ time → busy time ∧ rank time ≤ rank since →
        done (time + 1) ∨ busy (time + 1) ∧ rank (time + 1) ≤ rank since := by
      intro time reached ⟨pursued, low⟩
      rcases onward time reached pursued with found | ⟨goes, falls, _⟩
      · exact .inl found
      · exact .inr ⟨goes, Nat.le_trans falls low⟩
    rcases done_or_busy _ lower ⟨start, Nat.le_refl _⟩ after with found | ⟨pursued, low⟩
    · exact found
    · rcases onward later after pursued with found | ⟨goes, _, falls⟩
      · exact ⟨later + 1, found⟩
      · have fallen := falls now step
        exact ih _ (by omega) (fun time reached => onward time (by omega)) goes rfl

namespace Undisturbed

variable {plan : Plan α} {source : Candidates} {answers : Nat → Answer} {schedule : Nat → Move}

/-- The loop is on its way to the call of a round, which begins where it takes an item. -/
structure UnderWay (plan : Plan α) (source : Candidates) (answers : Nat → Answer)
    (schedule : Nat → Move) (rounds time : Nat) : Prop where
  away : 0 < (stateAt plan source schedule time).stage.distance
  reached : trialAt plan source answers schedule time = Trial.after plan source answers
    (if 3 < (stateAt plan source schedule time).stage.distance then rounds else rounds + 1)

/-- A number of rounds are over. -/
structure Settled (plan : Plan α) (source : Candidates) (answers : Nat → Answer)
    (schedule : Nat → Move) (rounds time : Nat) : Prop where
  reached : trialAt plan source answers schedule time = Trial.after plan source answers rounds
  rests : Rests (stateAt plan source schedule time)

/-- What the trial has come to is what became of the subscription. -/
theorem Settled.outcome {rounds time : Nat}
    (settled : Settled plan source answers schedule rounds time)
    (undisturbed : Undisturbed plan source answers schedule) :
    match (Trial.after plan source answers rounds).outcome with
    | none => ∃ search, (stateAt plan source schedule time).stage = .checking search
    | some (.active id) =>
      (stateAt plan source schedule time).phase = .active id ∧
        (stateAt plan source schedule time).told = [.started id]
    | some (.failed error) =>
      (stateAt plan source schedule time).phase = .failed none ∧
        (stateAt plan source schedule time).told = [.error error] := by
  rw [← settled.reached, trialAt, settled.rests.trial]
  exact settled.rests.outcome (tells_at plan source schedule time)
    fun searching => (undisturbed.starting (.inl searching)).2

/-- The call of the last of some rounds was made, and its answer is read or about to be. -/
structure Awaits (plan : Plan α) (source : Candidates) (answers : Nat → Answer)
    (schedule : Nat → Move) (rounds stream time : Nat) : Prop where
  reached : trialAt plan source answers schedule time = Trial.after plan source answers rounds
  place : (∃ search more,
      (stateAt plan source schedule time).stage = .awaiting search more stream) ∨
    ∃ id, (stateAt plan source schedule time).stage = .accepting id stream

/-- A step brings a loop on its way into the round once it takes from its source. -/
theorem UnderWay.reached_of_step {rounds time now : Nat}
    (underWay : UnderWay plan source answers schedule rounds time)
    (undisturbed : Undisturbed plan source answers schedule) (step : schedule time = .step now) :
    trialAt plan source answers schedule (time + 1) = Trial.after plan source answers
      (if 4 < (stateAt plan source schedule time).stage.distance then rounds else rounds + 1) := by
  have reached := underWay.reached
  cases stage : (stateAt plan source schedule time).stage with
  | taking search =>
    rw [undisturbed.trialAt_succ_of_taking step stage, reached, stage]
    rfl
  | _ =>
    rw [undisturbed.trialAt_succ_of_elsewhere (by simp [stage]), reached, stage]
    rfl

private theorem UnderWay.onward {rounds time : Nat}
    (underWay : UnderWay plan source answers schedule rounds time)
    (undisturbed : Undisturbed plan source answers schedule) :
    (Settled plan source answers schedule (rounds + 1) (time + 1) ∨
        ∃ stream, Awaits plan source answers schedule (rounds + 1) stream (time + 1)) ∨
      UnderWay plan source answers schedule rounds (time + 1) ∧
        Falls schedule (fun time => (stateAt plan source schedule time).stage.distance) time := by
  have phase := (undisturbed.starting (.inl (Stage.isSearching_of_distance underWay.away))).1
  have turned := transition_at plan source schedule time
  have coherent := coherent_at plan source schedule time
  by_cases loop : ∃ now, schedule time = .step now
  · obtain ⟨now, step⟩ := loop
    rw [step] at turned
    have reached := underWay.reached_of_step undisturbed step
    rcases turned.onward_of_distance coherent phase underWay.away with
      ⟨left, falls, begins⟩ | ⟨near, rests | ⟨search, more, stream, stage⟩⟩
    · exact .inr ⟨⟨left, by simpa only [begins] using reached⟩, .of_lt falls⟩
    · rw [if_neg (by omega)] at reached
      exact .inl (.inl ⟨reached, rests⟩)
    · rw [if_neg (by omega)] at reached
      exact .inl (.inr ⟨stream, reached, .inl ⟨search, more, stage⟩⟩)
  · have outside := not_exists.1 loop
    have same := turned.stage_of_outside coherent phase outside
    refine .inr ⟨⟨same ▸ underWay.away, ?_⟩, ?_, fun now step => absurd step (outside now)⟩
    · rw [undisturbed.trialAt_succ_of_outside outside, underWay.reached, same]
    · simp only [same, Nat.le_refl]

/-- The answer to a call that was made stays there once it is given. -/
theorem answered_from (undisturbed : Undisturbed plan source answers schedule) {since attempt : Nat}
    (called : attempt < (stateAt plan source schedule since).calls.length) :
    ∃ later, since ≤ later ∧ ∀ time, later ≤ time →
      (Operation.make plan source).answered? attempt (movesBefore schedule time) =
        some (answers attempt) := by
  obtain ⟨given, answered⟩ := undisturbed.answered since attempt called
  refine ⟨max since given, Nat.le_max_left _ _, fun time after => ?_⟩
  obtain ⟨rest, same⟩ := movesBefore_prefix schedule
    (Nat.le_trans (Nat.le_max_right since given) after)
  rw [← same, Operation.answered?_append, answered]
  rfl

namespace Awaits

variable {rounds stream time : Nat}

private theorem waits (awaits : Awaits plan source answers schedule rounds stream time)
    (undisturbed : Undisturbed plan source answers schedule) :
    (stateAt plan source schedule time).phase = .starting ∧
      (stateAt plan source schedule time).told = [] := by
  rcases awaits.place with ⟨search, more, stage⟩ | ⟨id, stage⟩
  · exact undisturbed.starting (.inl (by simp [stage, Stage.isSearching]))
  · exact undisturbed.starting (.inr ⟨id, stream, stage⟩)

/-- A loop that waits goes on waiting until its round is over, and once the answer is there it
comes closer to it. -/
theorem onward (awaits : Awaits plan source answers schedule rounds stream time)
    (undisturbed : Undisturbed plan source answers schedule) :
    Settled plan source answers schedule rounds (time + 1) ∨
      Awaits plan source answers schedule rounds stream (time + 1) ∧
        ((Operation.make plan source).answered? stream (movesBefore schedule time) ≠ none →
          Falls schedule (fun time => (stateAt plan source schedule time).ahead) time) := by
  obtain ⟨phase, silent⟩ := awaits.waits undisturbed
  have turned := transition_at plan source schedule time
  have coherent := coherent_at plan source schedule time
  have reached : trialAt plan source answers schedule (time + 1) =
      Trial.after plan source answers rounds := by
    rw [undisturbed.trialAt_succ_of_elsewhere, awaits.reached]
    rcases awaits.place with ⟨search, more, stage⟩ | ⟨id, stage⟩ <;> simp [stage]
  by_cases loop : ∃ now, schedule time = .step now
  · obtain ⟨now, step⟩ := loop
    rw [step] at turned
    rcases awaits.place with ⟨search, more, stage⟩ | ⟨id, stage⟩
    · have first := firstAnswer?_at plan source schedule time stage
      rcases turned.onward_of_awaiting phase stage with ⟨same, falls⟩ | rests | ⟨id, accepts⟩
      · refine .inr ⟨⟨reached, .inl ⟨search, more, same.trans stage⟩⟩, fun answered => ?_⟩
        exact .of_lt (falls (first ▸ answered))
      · exact .inl ⟨reached, rests⟩
      · refine .inr ⟨⟨reached, .inr ⟨id, accepts⟩⟩, fun _ => .of_lt ?_⟩
        simp [Operation.ahead, accepts, stage]
    · exact .inl ⟨reached, turned.rests_of_accepting coherent silent phase stage⟩
  · have outside := not_exists.1 loop
    have same := turned.stage_of_outside coherent phase outside
    refine .inr ⟨⟨reached, by simpa only [same] using awaits.place⟩, fun answered => ⟨?_, ?_⟩⟩
    · rcases awaits.place with ⟨search, more, stage⟩ | ⟨id, stage⟩
      · have first := firstAnswer?_at plan source schedule time stage
        exact turned.ahead_of_outside outside stage (first ▸ answered)
      · simp [Operation.ahead, same, stage]
    · exact fun now step => absurd step (outside now)

/-- A round in which the endpoint was called comes to its end. -/
theorem settled (awaits : Awaits plan source answers schedule rounds stream time)
    (undisturbed : Undisturbed plan source answers schedule) :
    ∃ later, Settled plan source answers schedule rounds later := by
  have called : stream < (stateAt plan source schedule time).calls.length := by
    have held : (stateAt plan source schedule time).stage.stream? = some stream := by
      rcases awaits.place with ⟨search, more, stage⟩ | ⟨id, stage⟩ <;> simp [stage, Stage.stream?]
    have latest := (Operation.heard_run plan source (movesBefore schedule time)).latest _ held
    rw [calls_length_at, stateAt, ← latest]
    exact Nat.lt_succ_self _
  obtain ⟨later, after, answered⟩ := undisturbed.answered_from called
  have goes : ∀ time, later ≤ time → Awaits plan source answers schedule rounds stream time →
      Settled plan source answers schedule rounds (time + 1) ∨
        Awaits plan source answers schedule rounds stream (time + 1) ∧
          Falls schedule (fun time => (stateAt plan source schedule time).ahead) time := by
    intro time reached awaits
    rcases awaits.onward undisturbed with settled | ⟨still, falls⟩
    · exact .inl settled
    · exact .inr ⟨still, falls (by simp [answered time reached])⟩
  rcases done_or_busy (Awaits plan source answers schedule rounds stream)
      (fun time _ awaits => (awaits.onward undisturbed).imp_right And.left) awaits after with
    settled | still
  · exact settled
  · exact eventually_of_rank undisturbed.fair _ goes still

end Awaits

/-- One round after the other comes to its end. -/
theorem Settled.next {rounds time : Nat} (settled : Settled plan source answers schedule rounds time)
    (undisturbed : Undisturbed plan source answers schedule) :
    ∃ later, Settled plan source answers schedule (rounds + 1) later := by
  have outcome := settled.outcome undisturbed
  cases reached : (Trial.after plan source answers rounds).outcome with
  | some decided =>
    refine ⟨time, ?_, settled.rests⟩
    rw [Trial.after, Trial.next_of_outcome (by simp [reached]), settled.reached]
  | none =>
    rw [reached] at outcome
    obtain ⟨search, stage⟩ := outcome
    have underWay : UnderWay plan source answers schedule rounds time := by
      constructor <;> simp [stage, Stage.distance, settled.reached]
    have asked : ∃ later, Settled plan source answers schedule (rounds + 1) later ∨
        ∃ stream, Awaits plan source answers schedule (rounds + 1) stream later :=
      eventually_of_rank undisturbed.fair (UnderWay plan source answers schedule rounds)
        (fun time _ underWay => underWay.onward undisturbed) underWay
    obtain ⟨later, settled | ⟨stream, awaits⟩⟩ := asked
    · exact ⟨later, settled⟩
    · exact awaits.settled undisturbed

/-- The start brings the loop to its first item. -/
theorem settled_zero (undisturbed : Undisturbed plan source answers schedule) :
    ∃ time, Settled plan source answers schedule 0 time := by
  obtain ⟨begun, started⟩ := undisturbed.started
  have idle := undisturbed.idle started (Nat.le_refl begun)
  have start := (started begun).2 rfl
  have unbegun := (coherent_at plan source schedule begun).unbegun_of_idle idle
  obtain ⟨held, decorations, calls, consumed⟩ := (undisturbed.follows begun).idle idle
  refine ⟨begun + 1, ?_, ?_⟩
  · rw [undisturbed.trialAt_succ_of_elsewhere (by simp [unbegun])]
    have silent := tells_at plan source schedule begun
    rw [idle] at silent
    simp [trialAt, Operation.trial, unbegun, Operation.outcome?, decorations, calls, consumed,
      show (stateAt plan source schedule begun).told = [] from silent, Trial.after]
  · rw [stateAt_succ, start]
    exact .between (by simp [Operation.apply, Operation.start, idle, held]; rfl)

/-- Every round of the trial comes to its end. -/
theorem settled (undisturbed : Undisturbed plan source answers schedule) (rounds : Nat) :
    ∃ time, Settled plan source answers schedule rounds time := by
  induction rounds with
  | zero => exact undisturbed.settled_zero
  | succ rounds ih =>
    obtain ⟨time, settled⟩ := ih
    exact settled.next undisturbed

end Undisturbed

end ModelSync
