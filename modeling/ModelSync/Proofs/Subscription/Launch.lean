import ModelSync.Proofs.Authorization
import ModelSync.Proofs.Subscription.Events
import ModelSync.Proofs.Subscription.Progress
import ModelSync.Proofs.Subscription.States
import ModelSync.Proofs.Subscription.Calls

/-! The first step of a loop: what it does before it waits for the first time. From a source that
has something to try and never fails it comes to a call of the endpoint, unless the last candidate
cannot be decorated or the subscription is canceled meanwhile; and it comes there soon, since every
candidate takes it four small steps at most. -/
namespace ModelSync

variable {α : Type}

/-- The error is about where the candidates come from or about the schema. -/
def SubscriptionError.isSource : SubscriptionError → Bool
  | .candidateSource _ | .authExhausted | .build _ => true
  | _ => false

/-- A loop that is to take a candidate has one to take. -/
def Stage.Supplied : Stage → Prop
  | .checking search | .taking search => search.cursor.hasNext = true
  | _ => True

namespace Transition

variable {operation next : Operation α} {move : Move} {read : Option Read}

private theorem supplied (turned : Transition operation move read next)
    (coherent : Coherent operation)
    (offers : ∀ source, operation.source = some source → (source.attempt? 0).isSome = true)
    (supplied : operation.stage.Supplied) : next.stage.Supplied := by
  have ahead := coherent.ahead
  cases turned with
  | begin phase found => exact offers _ found
  | retry stage =>
    rw [stage] at ahead
    exact ahead.symm
  | prepare prepared =>
    cases prepared with
    | check stage => rwa [stage] at supplied
    | skip stage =>
      rw [stage] at ahead
      exact ahead.symm
    | _ => trivial
  | misuse | abandon | forsake | cancel | cancelAgain | finishCancel | finishNothing | deliver
  | hangUp | wait | hold | drop | forward | repeated => exact supplied
  | _ => trivial

end Transition

namespace Operation

variable {source : Candidates} {count : Nat}

/-- What a subscription is still to be started with is what it was made with. -/
theorem source_run (plan : Plan α) (source : Candidates) (moves : List Move) :
    ∀ held, ((make plan source).run moves).source = some held → held = source := by
  intro held same
  have idle := (coherent_run plan source moves).held.1 (by simp [same])
  obtain ⟨kept, -⟩ := (chooses_run plan source moves).idle idle
  exact Option.some.inj (same.symm.trans kept)

theorem supplied_run (plan : Plan α) (sure : source.Sure count) (moves : List Move) :
    ((make plan source).run moves).stage.Supplied := by
  induction moves using List.reverseRecOn with
  | nil => trivial
  | append_singleton before move ih =>
    rw [run_concat]
    refine (transition_apply _ move).supplied (coherent_run plan source before) ?_ ih
    intro held same
    rw [source_run plan source before held same]
    exact sure.first

end Operation

/-! ### What can go wrong -/

/-- The item that a loop is to take is no failure of the source. -/
def Operation.Clean (operation : Operation α) : Prop :=
  ∀ search error, operation.stage = .taking search → search.cursor.current? ≠ some (.error error)

theorem Operation.clean_run {source : Candidates} {count : Nat} (plan : Plan α)
    (sure : source.Sure count) (moves : List Move) : ((make plan source).run moves).Clean := by
  intro search error stage found
  rw [← (chooses_run plan source moves).item stage] at found
  exact sure.clean _ error found

private theorem Fails.isSource {operation : Operation α} {read : Option Read} {decorations : Nat}
    {error : SubscriptionError} (fails : Fails operation read decorations error)
    (supplied : operation.stage.Supplied) (clean : operation.Clean) : error.isSource = false := by
  cases fails with
  | source stage found => exact absurd found (clean _ _ stage)
  | empty stage found =>
    rw [stage] at supplied
    simp [Stage.Supplied, Cursor.hasNext, found] at supplied
  | decoration | endpoint => rfl

/-- A search that fails before its first call fails for a candidate that cannot be decorated. -/
theorem Fails.exists_decoration {operation : Operation α} {read : Option Read} {decorations : Nat}
    {error : SubscriptionError} (fails : Fails operation read decorations error)
    (supplied : operation.stage.Supplied) (clean : operation.Clean)
    (away : 0 < operation.stage.distance) : ∃ failure, error = .decoration failure := by
  have unsourced := fails.isSource supplied clean
  cases fails with
  | source | empty => cases unsourced
  | decoration => exact ⟨_, rfl⟩
  | endpoint stage => simp [stage, Stage.distance] at away

/-- No error is told that is about the source. -/
def Operation.Unsourced (operation : Operation α) : Prop :=
  ∀ error, .error error ∈ operation.events → error.isSource = false

namespace Transition

variable {operation next : Operation α} {move : Move} {read : Option Read}

private theorem unsourced (turned : Transition operation move read next)
    (supplied : operation.stage.Supplied) (clean : operation.Clean)
    (unsourced : operation.Unsourced) : next.Unsourced := by
  have told {event : Event α} (kind : ∀ error, event = .error error → error.isSource = false)
      (emitted : next.events = operation.events ++ [event]) : next.Unsourced := by
    intro error listed
    rw [emitted] at listed
    rcases List.mem_append.1 listed with before | now
    · exact unsourced error before
    · exact kind error (List.mem_singleton.1 now).symm
  cases turned with
  | misuse => exact told (by rintro _ ⟨⟩; rfl) rfl
  | fail phase cause => exact told (by rintro _ ⟨⟩; exact cause.isSource supplied clean) rfl
  | finishCancel answer =>
    cases answer with
    | ok _ => simpa [Operation.Unsourced, releaseReport] using unsourced
    | error error => exact told (by rintro _ ⟨⟩; rfl) rfl
  | spoil | breakOff => exact told (by rintro _ ⟨⟩; rfl) rfl
  | activate | forward | complete => exact told (by rintro _ ⟨⟩) rfl
  | _ => exact unsourced

end Transition

namespace Operation

variable {source : Candidates} {count : Nat}

theorem unsourced_run (plan : Plan α) (sure : source.Sure count) (moves : List Move) :
    ((make plan source).run moves).Unsourced := by
  induction moves using List.reverseRecOn with
  | nil => exact nofun
  | append_singleton before move ih =>
    rw [run_concat]
    exact (transition_apply _ move).unsourced (supplied_run plan sure before)
      (clean_run plan sure before) ih

end Operation

/-! ### Up to the first call -/

/-- How a subscription stands to its first call of the endpoint. -/
inductive Launch (operation : Operation α) : Prop where
  | unbegun (stage : operation.stage = .unbegun) (calls : operation.calls = [])
  /-- The loop is on its way to the call. -/
  | underway (away : 0 < operation.stage.distance) (calls : operation.calls = [])
  | called (calls : operation.calls ≠ [])
  /-- The last candidate could not be decorated. -/
  | undecorated (stage : operation.stage = .returned) (phase : operation.phase = .failed none)
      (calls : operation.calls = [])
      (told : ∃ error, operation.told = [.error (.decoration error)])
  /-- The subscription was canceled before. -/
  | abandoned (stage : operation.stage = .returned) (canceled : operation.phase = .canceled none)
      (calls : operation.calls = [])

namespace Transition

variable {operation next : Operation α} {move : Move} {read : Option Read}

private theorem phase_of_terminal (turned : Transition operation move read next)
    (ended : operation.phase.state.isTerminal = true) : next.phase = operation.phase :=
  turned.leads.resolve_right fun leads => by simp [leads.not_isTerminal] at ended

/-- A loop that has returned stays so. -/
theorem returned (turned : Transition operation move read next) (coherent : Coherent operation)
    (stage : operation.stage = .returned) : next.stage = .returned := by
  have absent : operation.isRunning = false := by simp [Operation.isRunning, stage]
  have begun : operation.stage ≠ .unbegun := by simp [stage]
  have stays : next.isRunning = false :=
    Bool.eq_false_iff.2 fun present => begun (turned.unbegun_of_begins coherent absent present)
  have afterwards : next.stage ≠ .unbegun := fun unbegun => begun (turned.unbegun_before unbegun)
  cases same : next.stage <;> simp_all [Operation.isRunning]

/-- A start begins the loop, unless the subscription was canceled before. -/
theorem start_begins (turned : Transition operation .start read next)
    (coherent : Coherent operation) : next.stage ≠ .unbegun ∨ next.state = .canceled := by
  cases turned with
  | begin => exact .inl nofun
  | giveUp loop => cases loop
  | misuse fault late =>
    by_cases unbegun : operation.stage = .unbegun
    · have suited := coherent.suited
      rw [unbegun] at suited
      rcases suited with idle | canceled
      · -- An idle subscription still has its candidates.
        have held := coherent.held.2 idle
        simp [late idle] at held
      · exact .inr (by rw [Operation.state, canceled]; rfl)
    · exact .inl unbegun

/-- Elsewhere than right before a call none is made. -/
theorem calls_of_elsewhere (turned : Transition operation move read next)
    (elsewhere : ∀ search call more, operation.stage ≠ .calling search call more) :
    next.calls = operation.calls :=
  turned.calls_eq.resolve_right fun ⟨search, made, more, stage, _⟩ =>
    elsewhere search made more stage

private theorem launch_of_unbegun (turned : Transition operation move read next)
    (stage : operation.stage = .unbegun) (calls : operation.calls = []) : Launch next := by
  cases turned with
  | begin => exact .underway (by simp [Stage.distance]) calls
  | prepare prepared =>
    have searching := prepared.searching_before
    simp [stage, Stage.isSearching] at searching
  | fail phase cause =>
    have searching := cause.isSearching
    simp [stage, Stage.isSearching] at searching
  | misuse | abandon | forsake | cancel | cancelAgain | finishCancel | finishNothing | deliver
  | hangUp | wait | hold => exact .unbegun stage calls
  | _ => simp_all [Stage.pending?, Stage.isSearching]

private theorem launch_of_underway (turned : Transition operation move read next)
    (coherent : Coherent operation) (supplied : operation.stage.Supplied)
    (clean : operation.Clean)
    (tells : operation.phase.Tells operation.canceling operation.told)
    (away : 0 < operation.stage.distance) (calls : operation.calls = []) : Launch next := by
  cases turned with
  | begin phase =>
    rw [coherent.unbegun_of_idle phase] at away
    cases away
  | prepare prepared =>
    refine .underway ?_ calls
    cases prepared <;> simp [Stage.distance]
  | call => exact .called (by simp)
  | fail phase cause =>
    obtain ⟨failure, rfl⟩ := cause.exists_decoration supplied clean away
    have silent : operation.told = [] := by rwa [phase] at tells
    refine .undecorated rfl rfl calls ⟨failure, ?_⟩
    rw [Operation.told_eq_concat rfl rfl, silent, List.nil_append]
  | quit phase searching =>
    have suited := (Stage.suits_searching_iff searching _).1 coherent.suited
    exact .abandoned rfl (suited.resolve_left phase) calls
  | exhaust stage found =>
    rw [stage] at supplied
    simp [Stage.Supplied, Cursor.hasNext, found] at supplied
  | misuse | abandon | forsake | cancel | cancelAgain | finishCancel | finishNothing | deliver
  | hangUp | wait | hold | drop => exact .underway away calls
  | _ => simp_all [Stage.distance]

private theorem launch (turned : Transition operation move read next)
    (coherent : Coherent operation) (supplied : operation.stage.Supplied) (clean : operation.Clean)
    (tells : operation.phase.Tells operation.canceling operation.told)
    (launch : Launch operation) : Launch next := by
  cases launch with
  | unbegun stage calls => exact turned.launch_of_unbegun stage calls
  | underway away calls => exact turned.launch_of_underway coherent supplied clean tells away calls
  | called calls =>
    rcases turned.calls_eq with same | ⟨_, _, _, _, grown⟩
    · exact .called (same ▸ calls)
    · exact .called (by simp [grown])
  | undecorated stage phase calls told =>
    obtain ⟨failed, same⟩ := turned.told_of_failed coherent phase
    exact .undecorated (turned.returned coherent stage) failed
      ((turned.calls_of_elsewhere (by simp [stage])).trans calls) (same ▸ told)
  | abandoned stage canceled calls =>
    have same := turned.phase_of_terminal (by rw [canceled]; rfl)
    exact .abandoned (turned.returned coherent stage) (same.trans canceled)
      ((turned.calls_of_elsewhere (by simp [stage])).trans calls)

end Transition

namespace Operation

variable {source : Candidates} {count : Nat}

theorem launch_run (plan : Plan α) (sure : source.Sure count) (moves : List Move) :
    Launch ((make plan source).run moves) := by
  induction moves using List.reverseRecOn with
  | nil => exact .unbegun rfl rfl
  | append_singleton before move ih =>
    rw [run_concat]
    exact (transition_apply _ move).launch (coherent_run plan source before)
      (supplied_run plan sure before) (clean_run plan sure before) (tells_run plan source before) ih

end Operation

/-! ### How soon -/

namespace Stage

/-- How many steps a loop can still make before it waits, if its source has so many items. -/
def toGo (count : Nat) : Stage → Nat
  | .checking search => 4 * (count - search.cursor.position) + 3
  | .taking search => 4 * (count - search.cursor.position) + 2
  | .lookingAhead search _ => 4 * (count - search.cursor.position) + 5
  | .decorating search _ _ => 4 * (count - search.cursor.position) + 4
  | .calling _ _ _ => 1
  | _ => 0

private theorem toGo_le (stage : Stage) (count : Nat) : stage.toGo count ≤ 4 * count + 5 := by
  cases stage <;> simp only [toGo] <;> omega

private theorem toGo_pos {stage : Stage} (away : 0 < stage.distance) (count : Nat) :
    0 < stage.toGo count := by
  cases stage <;> simp_all [toGo, distance]

end Stage

namespace Transition

variable {operation next : Operation α} {move : Move} {read : Option Read} {count now : Nat}

/-- A step on the way to the first call is one less to go. -/
theorem toGo_lt (turned : Transition operation (.step now) read next)
    (away : 0 < operation.stage.distance)
    (within : ∀ search, operation.stage = .taking search → search.cursor.position < count) :
    next.stage.toGo count < operation.stage.toGo count := by
  have ends (stage : next.stage.toGo count = 0) :
      next.stage.toGo count < operation.stage.toGo count := by
    rw [stage]
    exact Stage.toGo_pos away count
  cases turned with
  | wait unready => cases stage : operation.stage <;> simp_all [Operation.isReady, Stage.distance]
  | drop pending => cases stage : operation.stage <;> simp_all [Stage.pending?, Stage.distance]
  | prepare prepared =>
    cases prepared with
    | take stage =>
      have inside := within _ stage
      rw [stage]
      simp only [Stage.toGo, Cursor.advance]
      omega
    | check stage | pass stage | hand stage | decorate stage | skip stage =>
      rw [stage]
      simp only [Stage.toGo, Cursor.lookAhead]
      omega
  | call | fail | quit | exhaust => exact ends rfl
  | _ => simp_all [Stage.distance]

/-- On the way to the first call only steps move the loop. -/
theorem stage_of_underway (turned : Transition operation move read next)
    (coherent : Coherent operation) (away : 0 < operation.stage.distance)
    (outside : move.isStep = false) : next.stage = operation.stage := by
  cases turned with
  | begin phase =>
    rw [coherent.unbegun_of_idle phase] at away
    cases away
  | giveUp loop stage =>
    rw [stage] at away
    cases away
  | misuse | abandon | forsake | cancel | cancelAgain | finishCancel | finishNothing | deliver
  | hangUp | hold => rfl
  | _ => cases outside

end Transition

namespace Operation

variable {source : Candidates} {count : Nat}

private theorem position_lt (plan : Plan α) (sure : source.Sure count) (moves : List Move)
    {search : Search} (stage : ((make plan source).run moves).stage = .taking search) :
    search.cursor.position < count := by
  have supplied := supplied_run plan sure moves
  obtain ⟨held, -⟩ := (chooses_run plan source moves).taking stage
  rw [stage] at supplied
  refine Nat.lt_of_not_le fun past => ?_
  simp [Stage.Supplied, Cursor.hasNext, Cursor.current?, held, sure.ended _ past] at supplied

/-- A loop that has begun stays so. -/
theorem begun_run {operation : Operation α} (begun : operation.stage ≠ .unbegun)
    (moves : List Move) : (operation.run moves).stage ≠ .unbegun := by
  induction moves using List.reverseRecOn with
  | nil => exact begun
  | append_singleton before move ih =>
    rw [run_concat]
    exact fun unbegun => ih ((transition_apply _ move).unbegun_before unbegun)

/-- What is on the way to its first call was so before. -/
theorem underway_before (plan : Plan α) (sure : source.Sure count) (moves : List Move) (move : Move)
    (begun : ((make plan source).run moves).stage ≠ .unbegun)
    (calls : (((make plan source).run moves).apply move).calls = [])
    (away : 0 < (((make plan source).run moves).apply move).stage.distance) :
    ((make plan source).run moves).calls = [] ∧
      0 < ((make plan source).run moves).stage.distance := by
  have turned := ((make plan source).run moves).transition_apply move
  have ended (stage : ((make plan source).run moves).stage = .returned) : False := by
    rw [turned.returned (coherent_run plan source moves) stage] at away
    cases away
  cases launch_run plan sure moves with
  | unbegun stage => exact absurd stage begun
  | underway away calls => exact ⟨calls, away⟩
  | called made =>
    have grown := calls_run_prefix ((make plan source).run moves) [move]
    exact absurd (List.prefix_nil.1 (calls ▸ grown)) made
  | undecorated stage | abandoned stage => exact (ended stage).elim

/-- Every step brings a loop nearer to its first call. -/
theorem toGo_run (plan : Plan α) (sure : source.Sure count) (before during : List Move)
    (begun : ((make plan source).run before).stage ≠ .unbegun)
    (calls : ((make plan source).run (before ++ during)).calls = [])
    (away : 0 < ((make plan source).run (before ++ during)).stage.distance) :
    ((make plan source).run (before ++ during)).stage.toGo count + during.countP Move.isStep ≤
      ((make plan source).run before).stage.toGo count := by
  induction during using List.reverseRecOn with
  | nil => simp
  | append_singleton during move ih =>
    rw [← List.append_assoc, run_concat] at calls away ⊢
    have turned := ((make plan source).run (before ++ during)).transition_apply move
    have still : ((make plan source).run (before ++ during)).stage ≠ .unbegun := by
      rw [run_append]
      exact begun_run begun during
    obtain ⟨uncalled, underway⟩ := underway_before plan sure (before ++ during) move still calls away
    have nearer := ih uncalled underway
    rw [List.countP_append, List.countP_singleton]
    cases kind : move.isStep with
    | true =>
      cases move with
      | step now =>
        have less := turned.toGo_lt underway fun _ => position_lt plan sure (before ++ during)
        simp only [↓reduceIte]
        omega
      | _ => cases kind
    | false =>
      rw [turned.stage_of_underway (coherent_run plan source _) underway kind]
      simpa using nearer

/-! ### The first step -/

/-- The first step of the loop is over: the endpoint was called, or the loop is not on its way to
call it. -/
def HasStepped (operation : Operation α) : Prop :=
  operation.stage ≠ .unbegun ∧ (operation.calls ≠ [] ∨ operation.stage.distance = 0)

/-- The endpoint was called, or the subscription has failed since its request could not be
decorated, and told nothing else. -/
def Tried (operation : Operation α) : Prop :=
  operation.calls ≠ [] ∨
    operation.state = .failed ∧ operation.calls = [] ∧
      ∃ failure, operation.told = [.error (.decoration failure)]

theorem hasStepped_run (plan : Plan α) (sure : source.Sure count) (before during : List Move)
    (begun : ((make plan source).run before).stage ≠ .unbegun)
    (long : 4 * count + 5 ≤ during.countP Move.isStep) :
    ((make plan source).run (before ++ during)).HasStepped := by
  refine ⟨by rw [run_append]; exact begun_run begun during, ?_⟩
  by_contra underway
  obtain ⟨calls, away⟩ := not_or.1 underway
  have nearer := toGo_run plan sure before during begun (not_not.1 calls) (Nat.pos_of_ne_zero away)
  have remains := Stage.toGo_pos (Nat.pos_of_ne_zero away) count
  have bound := ((make plan source).run before).stage.toGo_le count
  omega

private theorem tried_of_hasStepped {operation : Operation α} (launch : Launch operation)
    (stepped : operation.HasStepped) (kept : operation.state ≠ .canceled) : operation.Tried := by
  obtain ⟨begun, waits⟩ := stepped
  cases launch with
  | unbegun stage => exact absurd stage begun
  | underway away calls => exact absurd waits (by simp [calls, Nat.ne_of_gt away])
  | called calls => exact .inl calls
  | undecorated stage phase calls told => exact .inr ⟨by rw [state, phase]; rfl, calls, told⟩
  | abandoned stage canceled => exact absurd (by rw [state, canceled]; rfl) kept

/-- What has failed has tried. -/
theorem tried_of_failed {operation : Operation α} (launch : Launch operation)
    (coherent : Coherent operation) (failed : operation.state = .failed) : operation.Tried := by
  have suited := coherent.suited
  have other {phase : Phase} (same : operation.phase = phase) (apart : phase.state ≠ .failed) :
      operation.Tried := absurd (same ▸ failed) apart
  cases launch with
  | unbegun stage =>
    rw [stage] at suited
    rcases suited with idle | canceled
    · exact other idle nofun
    · exact other canceled nofun
  | underway away =>
    rcases (Stage.suits_searching_iff (Stage.isSearching_of_distance away) _).1 suited with
      starting | canceled
    · exact other starting nofun
    · exact other canceled nofun
  | called calls => exact .inl calls
  | undecorated stage phase calls told => exact .inr ⟨failed, calls, told⟩
  | abandoned stage canceled => exact other canceled nofun

/-- What has stepped and was not canceled before has tried, whatever happens later. -/
theorem tried_run (plan : Plan α) (sure : source.Sure count) (before after : List Move)
    (stepped : ((make plan source).run before).HasStepped)
    (kept : ((make plan source).run before).state ≠ .canceled) :
    ((make plan source).run (before ++ after)).Tried := by
  rcases tried_of_hasStepped (launch_run plan sure before) stepped kept with made | ⟨failed, -⟩
  · have grown := calls_run_prefix ((make plan source).run before) after
    rw [← run_append] at grown
    exact .inl fun uncalled => made (List.prefix_nil.1 (uncalled ▸ grown))
  · have ended : ((make plan source).run before).state.isTerminal = true := by rw [failed]; rfl
    refine tried_of_failed (launch_run plan sure _) (coherent_run plan source _) ?_
    rw [run_append, state, phase_of_terminal ended after]
    exact failed

end Operation

end ModelSync
