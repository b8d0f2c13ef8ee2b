import ModelSync.Proofs.Subscription.Moves

/-! The search for a candidate, told without streams and stages: the items of a source are
tried one after another by someone who knows how the endpoint answers every call. The loop of
a subscription is compared with it. -/
namespace ModelSync

variable {α : Type}

/-- What a search comes to. -/
inductive Outcome where
  | active (id : String)
  | failed (error : SubscriptionError)

/-- How far the search has come. -/
structure Trial where
  /-- How many items of the source were consumed. -/
  consumed : Nat := 0
  /-- How many requests were handed to the decorator. -/
  decorations : Nat := 0
  calls : List Call := []
  outcome : Option Outcome := none

namespace Trial

/-- An attempt is answered. Where no other item remains a rejection is final. -/
def answer (trial : Trial) (more : Bool) : Answer → Trial
  | .acknowledged id => { trial with outcome := some (.active id) }
  | .rejected error =>
    if more then trial else { trial with outcome := some (.failed (.endpoint error)) }

/-- The endpoint is called, and answers. -/
def call (trial : Trial) (answers : Nat → Answer) (more : Bool) (call : Call) : Trial :=
  { trial with calls := trial.calls ++ [call] }.answer more (answers trial.calls.length)

/-- The request is decorated before the call. A candidate for which this fails is skipped
where another item remains. -/
def decorate (trial : Trial) (plan : Plan α) (answers : Nat → Answer) (more : Bool)
    (attempt : Attempt) : Trial :=
  let asked := { trial with decorations := trial.decorations + 1 }
  match plan.decorator trial.decorations plan.request attempt.type with
  | .ok request => asked.call answers more ⟨request, attempt.type⟩
  | .error error =>
    if more then asked else { asked with outcome := some (.failed (.decoration error)) }

def attempt (trial : Trial) (plan : Plan α) (answers : Nat → Answer) (more : Bool)
    (attempt : Attempt) : Trial :=
  if attempt.decorate then trial.decorate plan answers more attempt
  else trial.call answers more ⟨plan.request, attempt.type⟩

/-- The next item is tried, unless the search is over. -/
def next (trial : Trial) (plan : Plan α) (source : Candidates) (answers : Nat → Answer) : Trial :=
  if trial.outcome.isSome then trial
  else
    match source.attempt? trial.consumed with
    | none => { trial with outcome := some (.failed .authExhausted) }
    | some item =>
      let trial := { trial with consumed := trial.consumed + 1 }
      match item with
      | .error error => { trial with outcome := some (.failed (.candidateSource error)) }
      | .ok attempt =>
        trial.attempt plan answers (source.attempt? trial.consumed).isSome attempt

/-- The search after a number of items. -/
def after (plan : Plan α) (source : Candidates) (answers : Nat → Answer) : Nat → Trial
  | 0 => {}
  | rounds + 1 => (after plan source answers rounds).next plan source answers

variable {plan : Plan α} {source : Candidates} {answers : Nat → Answer} {trial : Trial}

@[simp]
theorem answer_consumed (trial : Trial) (more : Bool) (answer : Answer) :
    (trial.answer more answer).consumed = trial.consumed := by
  cases answer <;> cases more <;> rfl

@[simp]
theorem answer_calls (trial : Trial) (more : Bool) (answer : Answer) :
    (trial.answer more answer).calls = trial.calls := by
  cases answer <;> cases more <;> rfl

@[simp]
theorem call_consumed (trial : Trial) (answers : Nat → Answer) (more : Bool) (call : Call) :
    (trial.call answers more call).consumed = trial.consumed := by
  simp [Trial.call]

@[simp]
theorem decorate_consumed (trial : Trial) (plan : Plan α) (answers : Nat → Answer) (more : Bool)
    (attempt : Attempt) : (trial.decorate plan answers more attempt).consumed = trial.consumed := by
  simp only [decorate]
  split
  · exact call_consumed _ answers more _
  · cases more <;> rfl

@[simp]
theorem attempt_consumed (trial : Trial) (plan : Plan α) (answers : Nat → Answer) (more : Bool)
    (attempt : Attempt) : (trial.attempt plan answers more attempt).consumed = trial.consumed := by
  simp only [Trial.attempt]
  split <;> simp

theorem next_of_outcome (decided : trial.outcome.isSome = true) :
    trial.next plan source answers = trial := by
  rw [next, if_pos decided]

theorem next_of_end (goes : trial.outcome = none)
    (found : source.attempt? trial.consumed = none) :
    trial.next plan source answers = { trial with outcome := some (.failed .authExhausted) } := by
  rw [next, if_neg (by simp [goes]), found]

theorem next_of_error {error : CandidateError} (goes : trial.outcome = none)
    (found : source.attempt? trial.consumed = some (.error error)) :
    trial.next plan source answers =
      { trial with
        consumed := trial.consumed + 1, outcome := some (.failed (.candidateSource error)) } := by
  rw [next, if_neg (by simp [goes]), found]

theorem next_of_attempt {attempt : Attempt} (goes : trial.outcome = none)
    (found : source.attempt? trial.consumed = some (.ok attempt)) :
    trial.next plan source answers =
      { trial with consumed := trial.consumed + 1 }.attempt plan answers
        (source.attempt? (trial.consumed + 1)).isSome attempt := by
  rw [next, if_neg (by simp [goes]), found]

/-- Everything an attempt can lead to. -/
inductive Attempted (plan : Plan α) (answers : Nat → Answer) (trial : Trial) (attempt : Attempt) :
    Bool → Trial → Prop where
  | skipped (decorations : Nat) : Attempted plan answers trial attempt true { trial with decorations }
  | undecorated {error : DecorationError} (owner : attempt.decorate = true)
      (answer : plan.decorator trial.decorations plan.request attempt.type = .error error) :
      Attempted plan answers trial attempt false
        { trial with
          decorations := trial.decorations + 1
          outcome := some (.failed (.decoration error)) }
  | acknowledged {more : Bool} {id : String} (decorations : Nat) (call : Call)
      (answer : answers trial.calls.length = .acknowledged id) :
      Attempted plan answers trial attempt more
        { trial with decorations, calls := trial.calls ++ [call], outcome := some (.active id) }
  | rejected {error : EndpointError} (decorations : Nat) (call : Call)
      (answer : answers trial.calls.length = .rejected error) :
      Attempted plan answers trial attempt true
        { trial with decorations, calls := trial.calls ++ [call] }
  | rejectedLast {error : EndpointError} (decorations : Nat) (call : Call)
      (answer : answers trial.calls.length = .rejected error) :
      Attempted plan answers trial attempt false
        { trial with
          decorations
          calls := trial.calls ++ [call]
          outcome := some (.failed (.endpoint error)) }

private theorem attempted_call (trial : Trial) (plan : Plan α) (answers : Nat → Answer)
    (attempt : Attempt) (more : Bool) (decorations : Nat) (call : Call) :
    Attempted plan answers trial attempt more
      ({ trial with decorations }.call answers more call) := by
  unfold Trial.call
  cases answer : answers trial.calls.length with
  | acknowledged id => exact .acknowledged decorations call answer
  | rejected error =>
    cases more with
    | true => exact .rejected decorations call answer
    | false => exact .rejectedLast decorations call answer

private theorem attempted (trial : Trial) (plan : Plan α) (answers : Nat → Answer) (more : Bool)
    (attempt : Attempt) :
    Attempted plan answers trial attempt more (trial.attempt plan answers more attempt) := by
  unfold Trial.attempt decorate
  cases owner : attempt.decorate with
  | false => exact attempted_call trial plan answers attempt more trial.decorations _
  | true =>
    simp only [↓reduceIte]
    cases answer : plan.decorator trial.decorations plan.request attempt.type with
    | ok request => exact attempted_call trial plan answers attempt more (trial.decorations + 1) _
    | error error =>
      cases more with
      | true => exact .skipped _
      | false => exact .undecorated owner answer

/-- Why a search has failed: its source is empty, its next item is an error, or the last
candidate was not decorated or was rejected. -/
inductive Verdict (plan : Plan α) (source : Candidates) (answers : Nat → Answer) (trial : Trial) :
    SubscriptionError → Prop where
  | empty (consumed : trial.consumed = 0) (found : source.attempt? 0 = none) :
      Verdict plan source answers trial .authExhausted
  | source {position : Nat} {error : CandidateError} (consumed : trial.consumed = position + 1)
      (found : source.attempt? position = some (.error error)) :
      Verdict plan source answers trial (.candidateSource error)
  | decoration {position decorations : Nat} {attempt : Attempt} {error : DecorationError}
      (consumed : trial.consumed = position + 1)
      (found : source.attempt? position = some (.ok attempt))
      (last : source.attempt? (position + 1) = none) (owner : attempt.decorate = true)
      (answer : plan.decorator decorations plan.request attempt.type = .error error) :
      Verdict plan source answers trial (.decoration error)
  | endpoint {position earlier : Nat} {attempt : Attempt} {error : EndpointError}
      (consumed : trial.consumed = position + 1)
      (found : source.attempt? position = some (.ok attempt))
      (last : source.attempt? (position + 1) = none) (called : trial.calls.length = earlier + 1)
      (answer : answers earlier = .rejected error) :
      Verdict plan source answers trial (.endpoint error)

/-- What holds of a search however far it has come. -/
structure Sound (plan : Plan α) (source : Candidates) (answers : Nat → Answer) (rounds : Nat)
    (trial : Trial) : Prop where
  /-- An acknowledgment of one of the calls has ended the search. -/
  heeded : ∀ attempt id, attempt < trial.calls.length → answers attempt = .acknowledged id →
    trial.outcome = some (.active id)
  /-- A search that goes on has consumed an item in every round. -/
  consumed : trial.outcome = none → trial.consumed = rounds
  /-- After the first item a search only goes on while another one remains. -/
  remaining : trial.outcome = none → trial.consumed ≠ 0 →
    (source.attempt? trial.consumed).isSome = true
  failed : ∀ error, trial.outcome = some (.failed error) →
    Verdict plan source answers trial error

private theorem Sound.attempted {rounds : Nat} {more : Bool} {attempt : Attempt} {result : Trial}
    (sound : Sound plan source answers rounds trial) (goes : trial.outcome = none)
    (found : source.attempt? trial.consumed = some (.ok attempt))
    (attempted :
      Attempted plan answers { trial with consumed := trial.consumed + 1 } attempt more result)
    (ahead : more = (source.attempt? (trial.consumed + 1)).isSome) :
    Sound plan source answers (rounds + 1) result := by
  have consumed := sound.consumed goes
  have earlier (attempt : Nat) (id : String) (listed : attempt < trial.calls.length) :
      answers attempt ≠ .acknowledged id := by
    intro acknowledged
    simp [sound.heeded attempt id listed acknowledged] at goes
  have called (attempt : Nat) (id : String) (listed : attempt < trial.calls.length + 1)
      (acknowledged : answers attempt = .acknowledged id) :
      answers trial.calls.length = .acknowledged id := by
    obtain before | rfl := Nat.lt_succ_iff_lt_or_eq.1 listed
    · exact absurd acknowledged (earlier attempt id before)
    · exact acknowledged
  have last (nothing : false = (source.attempt? (trial.consumed + 1)).isSome) :
      source.attempt? (trial.consumed + 1) = none :=
    Option.isNone_iff_eq_none.1 (Option.isSome_eq_false_iff.1 nothing.symm)
  cases attempted with
  | skipped decorations => constructor <;> simp_all
  | undecorated owner answer =>
    refine ⟨?_, nofun, nofun, ?_⟩
    · exact fun attempt id listed acknowledged => absurd acknowledged (earlier attempt id listed)
    · rintro _ ⟨⟩
      exact .decoration rfl found (last ahead) owner answer
  | acknowledged decorations call answer =>
    refine ⟨?_, nofun, nofun, nofun⟩
    intro attempt id listed acknowledged
    simpa [answer, acknowledged] using called attempt id (by simpa using listed) acknowledged
  | rejected decorations call answer => constructor <;> simp_all
  | rejectedLast decorations call answer =>
    refine ⟨?_, nofun, nofun, ?_⟩
    · intro attempt id listed acknowledged
      simpa [answer] using called attempt id (by simpa using listed) acknowledged
    · rintro _ ⟨⟩
      exact .endpoint rfl found (last ahead) List.length_append answer

private theorem Sound.next {rounds : Nat} (sound : Sound plan source answers rounds trial) :
    Sound plan source answers (rounds + 1) (trial.next plan source answers) := by
  cases outcome : trial.outcome with
  | some reached =>
    rw [next_of_outcome (by simp [outcome])]
    exact ⟨sound.heeded, by simp [outcome], by simp [outcome], sound.failed⟩
  | none =>
    have earlier := sound.heeded
    cases found : source.attempt? trial.consumed with
    | none =>
      have untried : trial.consumed = 0 := by
        refine Classical.byContradiction fun tried => ?_
        have remaining := sound.remaining outcome tried
        simp [found] at remaining
      rw [next_of_end outcome found]
      refine ⟨by simp_all, nofun, nofun, ?_⟩
      rintro _ ⟨⟩
      exact .empty untried (untried ▸ found)
    | some item =>
      cases item with
      | error error =>
        rw [next_of_error outcome found]
        refine ⟨by simp_all, nofun, nofun, ?_⟩
        rintro _ ⟨⟩
        exact .source rfl found
      | ok attempt =>
        rw [next_of_attempt outcome found]
        exact sound.attempted outcome found (Trial.attempted _ plan answers _ attempt) rfl

theorem sound_after (plan : Plan α) (source : Candidates) (answers : Nat → Answer) (rounds : Nat) :
    Sound plan source answers rounds (after plan source answers rounds) := by
  induction rounds with
  | zero => exact ⟨by simp [after], fun _ => rfl, by simp [after], by simp [after]⟩
  | succ rounds ih => exact ih.next

/-- A search whose source ends, or gives an error, comes to an end. -/
theorem outcome_of_bounded (plan : Plan α) (answers : Nat → Answer) {position : Nat}
    (bounded : ∀ attempt, source.attempt? position ≠ some (.ok attempt)) :
    (after plan source answers (position + 1)).outcome ≠ none := by
  intro goes
  rw [after] at goes
  cases before : (after plan source answers position).outcome with
  | some reached =>
    rw [next_of_outcome (by simp [before]), before] at goes
    cases goes
  | none =>
    have consumed := (sound_after plan source answers position).consumed before
    cases found : source.attempt? position with
    | none =>
      rw [next_of_end before (by rw [consumed, found])] at goes
      cases goes
    | some item =>
      cases item with
      | error error =>
        rw [next_of_error before (by rw [consumed, found])] at goes
        cases goes
      | ok attempt => exact bounded attempt found

end Trial

end ModelSync
