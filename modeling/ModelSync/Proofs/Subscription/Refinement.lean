import ModelSync.Proofs.Subscription.Rounds

/-! A subscription that is left alone does what the trial of its source does. At every time it
is in step with a round of it, and every round is reached, together with what it comes to. -/
namespace ModelSync

variable {α : Type} {plan : Plan α} {source : Candidates} {answers : Nat → Answer}
  {schedule : Nat → Move}

namespace Undisturbed

/-- At every time the loop completes a round, whose call is made unless it is prepared. -/
theorem in_step (undisturbed : Undisturbed plan source answers schedule) (time : Nat) :
    ∃ rounds,
      trialAt plan source answers schedule time = Trial.after plan source answers rounds ∧
        ((stateAt plan source schedule time).calls =
            (Trial.after plan source answers rounds).calls ∨
          (stateAt plan source schedule time).stage.Prepared ∧ ∃ earlier, rounds = earlier + 1 ∧
            (stateAt plan source schedule time).calls =
              (Trial.after plan source answers earlier).calls) := by
  induction time with
  | zero => exact ⟨0, rfl, .inl rfl⟩
  | succ time ih =>
    obtain ⟨rounds, reached, calls⟩ := ih
    have prepares := (transition_at plan source schedule time).prepared
    have made (unprepared : ¬(stateAt plan source schedule (time + 1)).stage.Prepared) :
        (stateAt plan source schedule (time + 1)).calls =
          (trialAt plan source answers schedule (time + 1)).calls :=
      (Operation.trial_calls unprepared answers _).symm
    by_cases taking : ∃ search now, (stateAt plan source schedule time).stage = .taking search ∧
        schedule time = .step now
    · obtain ⟨search, now, stage, step⟩ := taking
      have next := undisturbed.trialAt_succ_of_taking step stage
      rw [reached] at next
      refine ⟨rounds + 1, next, ?_⟩
      by_cases prepared : (stateAt plan source schedule (time + 1)).stage.Prepared
      · refine .inr ⟨prepared, rounds, rfl, (prepares prepared).1.trans ?_⟩
        exact calls.resolve_right (by simp [stage, Stage.Prepared, Stage.distance])
      · exact .inl ((made prepared).trans (by rw [next]; rfl))
    · have next : trialAt plan source answers schedule (time + 1) =
          Trial.after plan source answers rounds := by
        rw [undisturbed.trialAt_succ_of_untaken taking, reached]
      refine ⟨rounds, next, ?_⟩
      by_cases prepared : (stateAt plan source schedule (time + 1)).stage.Prepared
      · rw [(prepares prepared).1]
        exact calls.imp_right fun former => ⟨prepared, former.2⟩
      · exact .inl ((made prepared).trans (by rw [next]))

/-- The calls of the items that were consumed are those of the trial. -/
theorem calls_of_consumed (undisturbed : Undisturbed plan source answers schedule) (time : Nat) :
    ∃ rounds,
      (stateAt plan source schedule time).calls = (Trial.after plan source answers rounds).calls ∧
        (consumedAt plan source schedule time =
            List.range (Trial.after plan source answers rounds).consumed ∨
          consumedAt plan source schedule time =
            List.range (Trial.after plan source answers (rounds + 1)).consumed) := by
  obtain ⟨rounds, reached, calls⟩ := undisturbed.in_step time
  have consumed := consumedAt_eq_range plan source schedule time
  rw [← Operation.trial_consumed (stateAt plan source schedule time) answers
    (consumedAt plan source schedule time).length, ← trialAt, reached] at consumed
  rcases calls with made | ⟨_, earlier, rfl, made⟩
  · exact ⟨rounds, made, .inl consumed⟩
  · exact ⟨earlier, made, .inr consumed⟩

/-- The endpoint is only called again once the loop has read a rejection. -/
theorem rejected_of_calls (plan : Plan α) (source : Candidates) (schedule : Nat → Move)
    {time attempt : Nat} (called : attempt + 1 < (stateAt plan source schedule time).calls.length) :
    Rejected ((Operation.make plan source).reads (movesBefore schedule time)) attempt := by
  rw [calls_length_at] at called
  exact (Operation.heard_run plan source (movesBefore schedule time)).earlier attempt called

/-- A subscription that has failed to start stays as it is. -/
theorem failed_from (undisturbed : Undisturbed plan source answers schedule)
    {time later : Nat} {error : SubscriptionError}
    (failed : (stateAt plan source schedule time).phase = .failed none)
    (told : (stateAt plan source schedule time).told = [.error error]) (after : time ≤ later) :
    (stateAt plan source schedule later).phase = .failed none ∧
      (stateAt plan source schedule later).events = [.error error] := by
  rw [← undisturbed.told_eq_events]
  induction after with
  | refl => exact ⟨failed, told⟩
  | @step later _ ih =>
    obtain ⟨still, same⟩ := (transition_at plan source schedule later).told_of_failed
      (coherent_at plan source schedule later) ih.1
    exact ⟨still, same.trans ih.2⟩

/-- At the end of a round the subscription has become what its trial has come to. -/
theorem outcome_of_round (undisturbed : Undisturbed plan source answers schedule) (rounds : Nat) :
    ∃ time,
      (stateAt plan source schedule time).calls = (Trial.after plan source answers rounds).calls ∧
      consumedAt plan source schedule time =
        List.range (Trial.after plan source answers rounds).consumed ∧
      match (Trial.after plan source answers rounds).outcome with
      | none => (stateAt plan source schedule time).events = []
      | some (.active id) =>
        (stateAt plan source schedule time).phase = .active id ∧
          (stateAt plan source schedule time).events = [.started id]
      | some (.failed error) => ∀ later, time ≤ later →
        (stateAt plan source schedule later).phase = .failed none ∧
          (stateAt plan source schedule later).events = [.error error] := by
  obtain ⟨time, settled⟩ := undisturbed.settled rounds
  have outcome := settled.outcome undisturbed
  have reached := settled.reached
  rw [trialAt, settled.rests.trial] at reached
  refine ⟨time, congrArg Trial.calls reached, ?_, ?_⟩
  · rw [consumedAt_eq_range, ← reached]
  · rw [← undisturbed.told_eq_events time]
    generalize (Trial.after plan source answers rounds).outcome = come at outcome ⊢
    cases come with
    | none =>
      obtain ⟨search, stage⟩ := outcome
      have searching : (stateAt plan source schedule time).stage.isSearching = true := by
        rw [stage]
        rfl
      exact (undisturbed.starting (.inl searching)).2
    | some decided =>
      cases decided with
      | active id => exact outcome
      | failed error => exact fun later after => undisturbed.failed_from outcome.1 outcome.2 after

/-- A subscription that is left alone does what the trial of its source does. Its calls and the
items that it consumed are at every time those of a round, each call but the first is made
after the previous one was rejected, and at the end of every round the subscription has become
what the trial has come to. A trial heeds every acknowledgment, fails for the reason that its
last item gives, and ends at the latest where its source does or gives an error. -/
theorem search_follows_trial (undisturbed : Undisturbed plan source answers schedule) :
    (∀ time, ∃ rounds,
      (stateAt plan source schedule time).calls = (Trial.after plan source answers rounds).calls ∧
        (consumedAt plan source schedule time =
            List.range (Trial.after plan source answers rounds).consumed ∨
          consumedAt plan source schedule time =
            List.range (Trial.after plan source answers (rounds + 1)).consumed)) ∧
    (∀ time attempt, attempt + 1 < (stateAt plan source schedule time).calls.length →
      Rejected ((Operation.make plan source).reads (movesBefore schedule time)) attempt) ∧
    (∀ rounds, ∃ time,
      (stateAt plan source schedule time).calls = (Trial.after plan source answers rounds).calls ∧
      consumedAt plan source schedule time =
        List.range (Trial.after plan source answers rounds).consumed ∧
      match (Trial.after plan source answers rounds).outcome with
      | none => (stateAt plan source schedule time).events = []
      | some (.active id) =>
        (stateAt plan source schedule time).phase = .active id ∧
          (stateAt plan source schedule time).events = [.started id]
      | some (.failed error) => ∀ later, time ≤ later →
        (stateAt plan source schedule later).phase = .failed none ∧
          (stateAt plan source schedule later).events = [.error error]) ∧
    (∀ rounds, Trial.Sound plan source answers rounds (Trial.after plan source answers rounds)) ∧
    ∀ position, (∀ attempt, source.attempt? position ≠ some (.ok attempt)) →
      (Trial.after plan source answers (position + 1)).outcome ≠ none :=
  ⟨undisturbed.calls_of_consumed, fun _ _ => rejected_of_calls plan source schedule,
    undisturbed.outcome_of_round, Trial.sound_after plan source answers,
    fun _ => Trial.outcome_of_bounded plan answers⟩

end Undisturbed

/-! ## A subscription with two candidates -/

/-- Two candidates of rules. -/
def twoCandidates : Candidates := .ofList [.ok ⟨.apiKey, .anyone⟩, .ok ⟨.awsIam, .signedIn⟩]

/-- The first candidate is rejected and the second one acknowledged. -/
def secondAccepted (attempt : Nat) : Answer :=
  if attempt = 0 then .rejected .closed else .acknowledged "two"

/-- The loop is stepped at all times but those of the start and of the two answers. -/
def secondTried : Nat → Move
  | 0 => .start
  | 5 => .hangUp 0
  | 11 => .deliver 1 (.started "two")
  | _ => .step 0

private theorem stateAt_secondTried {time : Nat} (after : 14 ≤ time) :
    stateAt Operation.samplePlan twoCandidates secondTried time =
      stateAt Operation.samplePlan twoCandidates secondTried 14 := by
  induction after with
  | refl => rfl
  | @step time after ih =>
    have step : secondTried time = .step 0 := by
      have late : 14 ≤ time := after
      unfold secondTried
      split <;> first | rfl | omega
    rw [stateAt_succ, ih, step]
    rfl

private theorem undisturbed_secondTried :
    Undisturbed Operation.samplePlan twoCandidates secondAccepted secondTried where
  started := ⟨0, fun time => by unfold secondTried; split <;> simp_all⟩
  uncanceled time := by unfold secondTried; split <;> simp
  fair time := ⟨time + 12, Nat.le_add_right _ _, 0, rfl⟩
  answered time attempt called := by
    have few : (stateAt Operation.samplePlan twoCandidates secondTried time).calls.length ≤ 2 := by
      rcases Nat.lt_or_ge time 14 with before | after
      · have early : ∀ time < 14,
          (stateAt Operation.samplePlan twoCandidates secondTried time).calls.length ≤ 2 := by decide
        exact early time before
      · rw [stateAt_secondTried after]
        decide
    match attempt, Nat.lt_of_lt_of_le called few with
    | 0, _ => exact ⟨6, rfl⟩
    | 1, _ => exact ⟨12, rfl⟩

theorem search_accepts_second :
    Undisturbed Operation.samplePlan twoCandidates secondAccepted secondTried ∧
      ∃ time,
        (stateAt Operation.samplePlan twoCandidates secondTried time).phase = .active "two" ∧
          (stateAt Operation.samplePlan twoCandidates secondTried time).events =
            [.started "two"] := by
  obtain ⟨time, _, _, outcome⟩ := undisturbed_secondTried.search_follows_trial.2.2.1 2
  exact ⟨undisturbed_secondTried, time, outcome⟩

end ModelSync
