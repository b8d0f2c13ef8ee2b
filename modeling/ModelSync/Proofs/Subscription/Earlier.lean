import ModelSync.Proofs.Subscription.Answers
import ModelSync.Proofs.Subscription.Streams

/-! Attempts that were rejected. The loop has dropped their streams for good. Whatever the endpoint
still sends there, and whether it ends them, makes no difference to the subscription. -/
namespace ModelSync

variable {α : Type}

/-- A rejection was read before, or is among what was read later. -/
theorem Rejected.of_append {reads later : List Read} {stream : Nat}
    (rejected : Rejected (reads ++ later) stream) :
    Rejected reads stream ∨
      ∃ taken ∈ later, ∃ error, taken.arrival.answer? = some (.rejected error) := by
  obtain ⟨read, error, found, answer⟩ := rejected
  rw [answerOn_append] at found
  cases former : answerOn reads stream with
  | some earlier =>
    rw [former, Option.some_or] at found
    exact .inl ⟨read, error, former.trans found, answer⟩
  | none =>
    rw [former, Option.none_or] at found
    exact .inr ⟨read, List.mem_of_find?_eq_some found, error, answer⟩

/-- The stream that the loop holds after a move is a new one, or the one that it held before, and
then it has not read a rejection on it. -/
theorem Transition.stream?_cases {operation next : Operation α} {move : Move} {read : Option Read}
    (turned : Transition operation move read next) {stream : Nat}
    (held : next.stage.stream? = some stream) :
    stream = operation.streams.length ∧ read = none ∨
      operation.stage.stream? = some stream ∧
        ∀ taken ∈ read.toList, ∀ error, taken.arrival.answer? ≠ some (.rejected error) := by
  cases turned with
  | begin | retry | fail | quit | exhaust | breakOff | complete | leave | release | giveUp => cases held
  | prepare prepared => simp [prepared.stream_after] at held
  | call => exact .inl ⟨(Option.some.inj held).symm, rfl⟩
  | hear stage | notice stage | activate stage | refuse stage | forward stage | repeated stage
  | spoil stage | hearLate stage =>
    refine .inr ⟨?_, by simp [Arrival.answer?]⟩
    simpa [stage, Stage.stream?] using held
  | drop => exact .inr ⟨held, by simp [Arrival.answer?]⟩
  | _ => exact .inr ⟨held, by simp⟩

namespace Operation

/-- The loop holds no stream on which it has read a rejection. -/
theorem not_rejected_of_held (plan : Plan α) (candidates : Candidates) (moves : List Move)
    {stream : Nat} (held : ((make plan candidates).run moves).stage.stream? = some stream) :
    ¬ Rejected ((make plan candidates).reads moves) stream := by
  induction moves using List.reverseRecOn generalizing stream with
  | nil => cases held
  | append_singleton before move ih =>
    rw [run_concat] at held
    rw [reads_concat]
    intro rejected
    have turned := transition_apply ((make plan candidates).run before) move
    rcases turned.stream?_cases held with ⟨rfl, nothing⟩ | ⟨former, accepted⟩
    · have own := (heard_run plan candidates before).own
      obtain ⟨read, error, found, _⟩ := rejected
      simp [nothing, answerOn_eq_none_of_lt own] at found
    · rcases rejected.of_append with earlier | ⟨taken, listed, error, answer⟩
      · exact ih former earlier
      · exact accepted taken listed error answer

/-! ## Ends of other streams -/

section Ends

variable {operation : Operation α} {attempt stream : Nat}

private theorem arrival_hangUp (other : attempt ≠ stream) :
    (operation.hangUp attempt).arrival stream = operation.arrival stream := by
  simp [arrival, hangUp, other]

private theorem afterRead_hangUp (other : attempt ≠ stream) :
    (operation.hangUp attempt).afterRead stream = (operation.afterRead stream).hangUp attempt := by
  simp [afterRead, hangUp, List.modify_modify_ne _ _ _ other]

private theorem dropStream_hangUp (other : attempt ≠ stream) :
    (operation.hangUp attempt).dropStream stream = (operation.dropStream stream).hangUp attempt := by
  simp [dropStream, hangUp, List.modify_modify_ne _ _ _ other]

private theorem finish_hangUp (operation : Operation α) (other : attempt ≠ stream) :
    (operation.hangUp attempt).finish stream = (operation.finish stream).hangUp attempt := by
  rw [finish, dropStream_hangUp other]
  rfl

private theorem fail_hangUp (operation : Operation α) (error : SubscriptionError) (attempt : Nat) :
    (operation.hangUp attempt).fail error = (operation.fail error).hangUp attempt := by
  have phase : (operation.hangUp attempt).phase = operation.phase := rfl
  simp only [fail, phase]
  cases operation.phase <;> rfl

private theorem take_hangUp (operation : Operation α) (search : Search) (attempt : Nat) :
    (operation.hangUp attempt).take search = (operation.take search).hangUp attempt := by
  simp only [take, fail_hangUp]
  cases search.cursor.current? with
  | none => by_cases untried : search.tried = 0 <;> simp only [untried, ↓reduceIte] <;> rfl
  | some item => cases item <;> rfl

private theorem decorate_hangUp (operation : Operation α) (search : Search) (candidate : Attempt)
    (more : Bool) (attempt : Nat) :
    (operation.hangUp attempt).decorate search candidate more =
      (operation.decorate search candidate more).hangUp attempt := by
  have same : (operation.hangUp attempt).plan = operation.plan ∧
      (operation.hangUp attempt).decorations = operation.decorations := ⟨rfl, rfl⟩
  simp only [decorate, same]
  cases operation.plan.decorator operation.decorations operation.plan.request candidate.type with
  | ok request => rfl
  | error error =>
    cases more with
    | true => rfl
    | false =>
      let asked := { operation with decorations := operation.decorations + 1 }
      exact congrArg (goTo · .returned) (asked.fail_hangUp (.decoration error) attempt)

/-- The stream of a call comes after all others. -/
theorem call_hangUp (opened : attempt < operation.streams.length) (search : Search) (call : Call)
    (more : Bool) :
    (operation.hangUp attempt).call search call more =
      (operation.call search call more).hangUp attempt := by
  have listed := Nat.le_of_lt opened
  have behind (fresh : SignalStream) :
      operation.streams.modify attempt SignalStream.hangUp ++ [fresh] =
        (operation.streams ++ [fresh]).modify attempt SignalStream.hangUp := by
    rw [List.modify_eq_take_drop, List.modify_eq_take_drop, List.take_append_of_le_length listed,
      List.drop_append_of_le_length listed, List.append_assoc]
    cases later : operation.streams.drop attempt with
    | nil => exact absurd (List.drop_eq_nil_iff.1 later) (Nat.not_le.2 opened)
    | cons first rest => rfl
  simp [Operation.call, hangUp, behind]

private theorem reject_hangUp (operation : Operation α) (search : Search) (more : Bool)
    (error : EndpointError) (other : attempt ≠ stream) :
    (operation.hangUp attempt).reject search more stream error =
      (operation.reject search more stream error).hangUp attempt := by
  unfold reject
  cases more with
  | true => exact congrArg (goTo · (.checking search)) (dropStream_hangUp other)
  | false =>
    simp only [Bool.false_eq_true, ↓reduceIte, fail_hangUp]
    exact finish_hangUp _ other

private theorem await_hangUp (now : Nat) (search : Search) (more : Bool)
    (other : attempt ≠ stream) :
    (operation.hangUp attempt).await now search more stream =
      (operation.await now search more stream).hangUp attempt := by
  have phase : (operation.hangUp attempt).phase = operation.phase := rfl
  unfold await
  rw [arrival_hangUp other, afterRead_hangUp other, phase]
  cases operation.phase.isCanceled with
  | true => rfl
  | false =>
    simp only [Bool.false_eq_true, ↓reduceIte, reject_hangUp _ _ _ _ other]
    cases operation.arrival stream with
    | signal signal => cases signal <;> rfl
    | _ => rfl

private theorem accept_hangUp (operation : Operation α) (id : String) (stream attempt : Nat) :
    (operation.hangUp attempt).accept id stream = (operation.accept id stream).hangUp attempt := by
  have same : (operation.hangUp attempt).phase = operation.phase ∧
      (operation.hangUp attempt).accepted = operation.accepted := ⟨rfl, rfl⟩
  simp only [accept, same]
  cases operation.phase with
  | starting => cases operation.accepted <;> rfl
  | _ => rfl

private theorem endWith_hangUp (operation : Operation α) (id : String) (error : EndpointError)
    (other : attempt ≠ stream) :
    (operation.hangUp attempt).endWith id stream error =
      (operation.endWith id stream error).hangUp attempt := by
  let failed := { operation with phase := .failed (some id) }.emit (.error (.endpoint error))
  exact finish_hangUp failed other

private theorem forwardItem_hangUp (operation : Operation α) (id : String) (item : Json)
    (stream attempt : Nat) :
    (operation.hangUp attempt).forwardItem id stream item =
      (operation.forwardItem id stream item).hangUp attempt := by
  have plan : (operation.hangUp attempt).plan = operation.plan := rfl
  simp only [forwardItem, plan]
  cases operation.plan.decode item <;> rfl

private theorem forward_hangUp (other : attempt ≠ stream) :
    (operation.hangUp attempt).forward stream = (operation.forward stream).hangUp attempt := by
  have phase : (operation.hangUp attempt).phase = operation.phase := rfl
  unfold forward
  rw [arrival_hangUp other, afterRead_hangUp other, finish_hangUp operation other, phase]
  cases operation.phase with
  | active id =>
    cases operation.arrival stream with
    | nothing => rfl
    | ended => exact endWith_hangUp operation id .closed other
    | signal signal =>
      cases signal with
      | started repeated => rfl
      | next item => exact forwardItem_hangUp (operation.afterRead stream) id item stream attempt
      | error error => exact endWith_hangUp (operation.afterRead stream) id error other
      | completed =>
        exact finish_hangUp
          ({ operation.afterRead stream with phase := .completed id }.emit .completed) other
  | _ => rfl

private theorem drain_hangUp (now deadline : Nat) (other : attempt ≠ stream) :
    (operation.hangUp attempt).drain now deadline stream =
      (operation.drain now deadline stream).hangUp attempt := by
  unfold drain
  rw [arrival_hangUp other, afterRead_hangUp other, finish_hangUp operation other]
  cases operation.arrival stream with
  | nothing => exact (apply_ite (hangUp · attempt) (deadline ≤ now) _ _).symm
  | signal signal => cases signal <;> rfl
  | ended => rfl

/-- A step of the loop does not see the end of a stream that the loop does not hold. -/
theorem step_hangUp (opened : attempt < operation.streams.length)
    (loose : operation.stage.stream? ≠ some attempt) (now : Nat) :
    (operation.hangUp attempt).step now = (operation.step now).hangUp attempt := by
  have same : (operation.hangUp attempt).stage = operation.stage := rfl
  have elsewhere {stream : Nat} (held : operation.stage.stream? = some stream) :
      attempt ≠ stream := by
    rintro rfl
    exact loose held
  unfold step
  rw [same]
  cases stage : operation.stage with
  | unbegun | returned => rfl
  | checking search =>
    have phase : (operation.hangUp attempt).phase = operation.phase := rfl
    simp only [check, phase]
    cases operation.phase <;> rfl
  | taking search => exact operation.take_hangUp search attempt
  | lookingAhead search candidate =>
    simp only [lookAhead]
    cases candidate.decorate <;> rfl
  | decorating search candidate more => exact operation.decorate_hangUp search candidate more attempt
  | calling search call more => exact call_hangUp opened search call more
  | awaiting search more stream => exact await_hangUp now search more (elsewhere (by rw [stage]; rfl))
  | accepting id stream => exact operation.accept_hangUp id stream attempt
  | forwarding stream => exact forward_hangUp (elsewhere (by rw [stage]; rfl))
  | releasing id stream =>
    exact finish_hangUp { operation with released := operation.released ++ [id] }
      (elsewhere (by rw [stage]; rfl))
  | draining deadline stream => exact drain_hangUp now deadline (elsewhere (by rw [stage]; rfl))

/-- A signal is lost on a stream that the loop does not listen to. -/
theorem deliver_of_loose (loose : operation.stage.stream? ≠ some attempt)
    (attended : Attended operation.stage.stream? operation.streams) (signal : Signal) :
    operation.deliver attempt signal = operation := by
  have same : operation.streams.modify attempt (·.deliver signal) = operation.streams := by
    refine List.ext_getElem? fun position => ?_
    rw [List.getElem?_modify]
    cases found : operation.streams[position]? with
    | none => rfl
    | some held =>
      by_cases here : attempt = position
      · subst position
        have deaf := mt (attended attempt held found).1 loose
        simp [SignalStream.deliver, SignalStream.accepts, deaf]
      · simp [here]
  rw [deliver, same]

private theorem modify_hangUp_comm {change : SignalStream → SignalStream} (target : Nat)
    (same : ∀ held, operation.streams[attempt]? = some held →
      (change held).hangUp = change held.hangUp) :
    (operation.streams.modify attempt SignalStream.hangUp).modify target change =
      (operation.streams.modify target change).modify attempt SignalStream.hangUp := by
  by_cases other : attempt = target
  · subst target
    refine List.ext_getElem? fun position => ?_
    simp only [List.getElem?_modify, Functor.map, Option.map_map]
    cases held : operation.streams[position]? with
    | none => rfl
    | some stream =>
      by_cases here : attempt = position
      · subst position
        simp [same stream held]
      · simp [here]
  · exact List.modify_modify_ne _ _ _ other

/-- No move sees the end of a stream that the loop has dropped. -/
theorem apply_hangUp (opened : attempt < operation.streams.length)
    (loose : operation.stage.stream? ≠ some attempt)
    (attended : Attended operation.stage.stream? operation.streams) (move : Move) :
    (operation.hangUp attempt).apply move = (operation.apply move).hangUp attempt := by
  have same : (operation.hangUp attempt).phase = operation.phase ∧
      (operation.hangUp attempt).source = operation.source ∧
      (operation.hangUp attempt).canceling = operation.canceling := ⟨rfl, rfl, rfl⟩
  cases move with
  | start =>
    simp only [apply, start, same]
    cases operation.phase <;> cases operation.source <;> rfl
  | beginCancel =>
    simp only [apply, beginCancel, same]
    cases operation.phase <;> rfl
  | finishCancel answer =>
    simp only [apply, finishCancel, same]
    cases operation.canceling with
    | none => rfl
    | some id => cases answer <;> rfl
  | deliver target signal =>
    have deaf (held : SignalStream) (found : operation.streams[attempt]? = some held) :
        (held.deliver signal).hangUp = held.hangUp.deliver signal := by
      have unheard : held.listening = false :=
        Bool.eq_false_iff.2 fun listening => loose ((attended attempt held found).1 listening)
      simp [SignalStream.deliver, SignalStream.accepts, SignalStream.hangUp, unheard]
    exact congrArg (fun streams => { operation with streams }) (modify_hangUp_comm target deaf)
  | hangUp target =>
    exact congrArg (fun streams => { operation with streams })
      (modify_hangUp_comm target fun _ _ => rfl)
  | step now => exact step_hangUp opened loose now
  | expire now =>
    have stage : (operation.hangUp attempt).stage = operation.stage := rfl
    simp only [apply, expire, stage]
    cases held : operation.stage with
    | draining deadline stream =>
      have other : attempt ≠ stream := by
        rintro rfl
        simp [held, Stage.stream?] at loose
      by_cases past : deadline ≤ now
      · simp only [past, ↓reduceIte]
        exact finish_hangUp operation other
      · simp only [past, ↓reduceIte]
    | _ => rfl

end Ends

/-- A stream that the loop has dropped, or never was to hold, is not held later. -/
theorem loose_run (plan : Plan α) (candidates : Candidates) (before later : List Move) {attempt : Nat}
    (opened : attempt < ((make plan candidates).run before).streams.length)
    (loose : ((make plan candidates).run before).stage.stream? ≠ some attempt) :
    attempt < ((make plan candidates).run (before ++ later)).streams.length ∧
      ((make plan candidates).run (before ++ later)).stage.stream? ≠ some attempt := by
  induction later using List.reverseRecOn with
  | nil => simpa using ⟨opened, loose⟩
  | append_singleton earlier move ih =>
    rw [← List.append_assoc, run_concat]
    have turned := transition_apply ((make plan candidates).run (before ++ earlier)) move
    refine ⟨?_, fun held => ?_⟩
    · rcases turned.opens with ⟨length, _⟩ | ⟨_, length, _⟩ <;> omega
    · rcases turned.stream?_cases held with ⟨rfl, _⟩ | ⟨former, _⟩
      · exact Nat.lt_irrefl _ ih.1
      · exact ih.2 former

/-- The end of a stream that the loop has dropped goes unnoticed. -/
theorem run_hangUp (plan : Plan α) (candidates : Candidates) (before later : List Move) {attempt : Nat}
    (opened : attempt < ((make plan candidates).run before).streams.length)
    (loose : ((make plan candidates).run before).stage.stream? ≠ some attempt) :
    (((make plan candidates).run before).hangUp attempt).run later =
      ((make plan candidates).run (before ++ later)).hangUp attempt := by
  induction later using List.reverseRecOn with
  | nil => simp [run]
  | append_singleton earlier move ih =>
    obtain ⟨opened, loose⟩ := loose_run plan candidates before earlier opened loose
    rw [run_concat, ih, ← List.append_assoc, run_concat]
    exact apply_hangUp opened loose (attended_run plan candidates (before ++ earlier)) move

/-- Whatever the endpoint does on the stream of an attempt that was rejected is lost, at any moment
of a run. -/
theorem run_of_rejected (plan : Plan α) (candidates : Candidates) (before later : List Move)
    {move : Move} {attempt : Nat} (rejected : Rejected ((make plan candidates).reads before) attempt)
    (sent : move.attempt? = some attempt) :
    ∃ streams, (make plan candidates).run (before ++ move :: later) =
      { (make plan candidates).run (before ++ later) with streams } := by
  have loose : ((make plan candidates).run before).stage.stream? ≠ some attempt :=
    fun held => not_rejected_of_held plan candidates before held rejected
  have opened : attempt < ((make plan candidates).run before).streams.length := by
    obtain ⟨read, _, found, _⟩ := rejected
    have owner := List.find?_some found
    simp only [Bool.and_eq_true, beq_iff_eq] at owner
    exact owner.1 ▸ (heard_run plan candidates before).own read (List.mem_of_find?_eq_some found)
  have split : (make plan candidates).run (before ++ move :: later) =
      (((make plan candidates).run before).apply move).run later := by simp [run]
  rw [split]
  cases move with
  | deliver target signal =>
    obtain rfl := Option.some.inj sent
    have lost : ((make plan candidates).run before).apply (.deliver target signal) =
        (make plan candidates).run before :=
      deliver_of_loose loose (attended_run plan candidates before) signal
    exact ⟨((make plan candidates).run (before ++ later)).streams, by rw [lost, run_append]⟩
  | hangUp target =>
    obtain rfl := Option.some.inj sent
    exact ⟨_, run_hangUp plan candidates before later opened loose⟩
  | _ => cases sent

end Operation

end ModelSync
