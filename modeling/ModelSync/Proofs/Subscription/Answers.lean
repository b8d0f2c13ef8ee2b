import ModelSync.Proofs.Subscription.Reads

/-! What the endpoint answers, and that the loop finds it. While the loop waits on a stream,
the first answer that it has yet to read there is the first one that the endpoint gave. -/
namespace ModelSync

variable {α : Type}

/-- The first answer that is still to be read, where the end of the stream is one. -/
def SignalStream.firstAnswer? (stream : SignalStream) : Option Answer :=
  (stream.unread.findSome? fun signal => (Arrival.signal signal).answer?).or
    (if stream.sending then none else some (.rejected .closed))

/-- How many signals are to be read before the first answer. -/
def SignalStream.ahead (stream : SignalStream) : Nat :=
  stream.unread.findIdx fun signal => (Arrival.signal signal).answer?.isSome

namespace Operation

/-- The answer that a move gives to an attempt. -/
def answerBy? (operation : Operation α) (attempt : Nat) : Move → Option Answer
  | .deliver target signal =>
    if target = attempt ∧ operation.accepts attempt = true then (Arrival.signal signal).answer?
    else none
  | .hangUp target =>
    if target = attempt ∧ attempt < operation.streams.length then some (.rejected .closed)
    else none
  | _ => none

/-- The first answer that the endpoint gives to an attempt in a run. -/
def answered? (operation : Operation α) (attempt : Nat) : List Move → Option Answer
  | [] => none
  | move :: rest =>
    (operation.answerBy? attempt move).or ((operation.apply move).answered? attempt rest)

/-- The first answer that is still to be read on the stream of an attempt. -/
def firstAnswer? (operation : Operation α) (attempt : Nat) : Option Answer :=
  (operation.streams[attempt]?).bind SignalStream.firstAnswer?

theorem answered?_append (operation : Operation α) (attempt : Nat) (before after : List Move) :
    operation.answered? attempt (before ++ after) =
      (operation.answered? attempt before).or ((operation.run before).answered? attempt after) := by
  induction before generalizing operation with
  | nil => simp [answered?, run]
  | cons move rest ih => simp [answered?, ih, run, Option.or_assoc]

theorem answered?_concat (operation : Operation α) (attempt : Nat) (moves : List Move)
    (move : Move) :
    operation.answered? attempt (moves ++ [move]) =
      (operation.answered? attempt moves).or ((operation.run moves).answerBy? attempt move) := by
  simp [answered?_append, answered?]

end Operation

namespace SignalStream

variable {held : SignalStream} {signal : Signal}

private theorem firstAnswer?_deliver (held : SignalStream) (signal : Signal) :
    (held.deliver signal).firstAnswer? =
      held.firstAnswer?.or (if held.accepts then (Arrival.signal signal).answer? else none) := by
  unfold deliver
  cases accepting : held.accepts with
  | false => simp
  | true =>
    have sending : held.sending = true := by simp_all [accepts]
    simp [firstAnswer?, List.findSome?_append, sending]

private theorem firstAnswer?_hangUp (held : SignalStream) :
    held.hangUp.firstAnswer? = held.firstAnswer?.or (some (.rejected .closed)) := by
  cases sending : held.sending <;> simp [hangUp, firstAnswer?, sending]

/-- What is found on a stream is the first answer, or an item before it. -/
theorem firstAnswer?_of_arrival {answer : Answer} (found : held.arrival.answer? = some answer) :
    held.firstAnswer? = some answer := by
  unfold arrival at found
  unfold firstAnswer?
  cases unread : held.unread with
  | nil =>
    rw [unread] at found
    cases sending : held.sending <;> simp_all [Arrival.answer?]
  | cons first rest =>
    rw [unread] at found
    simp [show (Arrival.signal first).answer? = some answer from found]

theorem firstAnswer?_afterRead {item : Json} (found : held.arrival = .signal (.next item)) :
    held.afterRead.firstAnswer? = held.firstAnswer? ∧ held.ahead = held.afterRead.ahead + 1 := by
  unfold arrival at found
  cases unread : held.unread with
  | nil => cases sending : held.sending <;> simp_all
  | cons first rest =>
    rw [unread] at found
    obtain rfl := Arrival.signal.inj found
    simp [firstAnswer?, afterRead, ahead, unread, List.findIdx_cons, Arrival.answer?]

/-- Where the answer is there, later signals come after it. -/
theorem ahead_deliver (answered : held.firstAnswer?.isSome = true) :
    (held.deliver signal).ahead = held.ahead := by
  unfold deliver
  cases accepting : held.accepts with
  | false => rfl
  | true =>
    have sending : held.sending = true := by simp_all [accepts]
    simp only [firstAnswer?, sending, ↓reduceIte, Option.or_none, List.findSome?_isSome_iff] at answered
    simp [ahead, List.findIdx_append, List.findIdx_lt_length_of_exists answered]

theorem hasArrival_of_firstAnswer? (answered : held.firstAnswer?.isSome = true) :
    held.hasArrival = true := by
  unfold firstAnswer? at answered
  unfold hasArrival
  cases unread : held.unread with
  | nil => simp_all
  | cons first rest => rfl

end SignalStream

namespace Operation

private theorem answerBy?_of_length {operation : Operation α} {attempt : Nat}
    (unopened : operation.streams.length ≤ attempt) (move : Move) :
    operation.answerBy? attempt move = none := by
  cases move <;> simp [answerBy?, accepts, unopened]

private theorem firstAnswer?_deliver (operation : Operation α) (attempt target : Nat)
    (signal : Signal) :
    (operation.deliver target signal).firstAnswer? attempt =
      (operation.firstAnswer? attempt).or
        (operation.answerBy? attempt (.deliver target signal)) := by
  cases found : operation.streams[attempt]? with
  | none => simp [firstAnswer?, deliver, answerBy?, accepts, List.getElem?_modify, found]
  | some held =>
    by_cases same : target = attempt
    · simp [firstAnswer?, deliver, answerBy?, accepts, found, same,
        SignalStream.firstAnswer?_deliver]
    · simp [firstAnswer?, deliver, answerBy?, found, same]

private theorem firstAnswer?_hangUp (operation : Operation α) (attempt target : Nat) :
    (operation.hangUp target).firstAnswer? attempt =
      (operation.firstAnswer? attempt).or (operation.answerBy? attempt (.hangUp target)) := by
  cases found : operation.streams[attempt]? with
  | none => simp [firstAnswer?, hangUp, answerBy?, List.getElem?_eq_none_iff.1 found]
  | some held =>
    have listed := (List.getElem?_eq_some_iff.1 found).1
    by_cases same : target = attempt
    · subst same
      simp [firstAnswer?, hangUp, answerBy?, listed, SignalStream.firstAnswer?_hangUp]
    · simp [firstAnswer?, hangUp, answerBy?, found, same]

end Operation

namespace Transition

variable {operation next : Operation α} {move : Move} {read : Option Read} {attempt : Nat}

/-- While the loop waits, the first answer to be read is the first one given. -/
theorem firstAnswer? (turned : Transition operation move read next)
    (pending : next.stage.pending? = some attempt) :
    operation.stage.pending? = some attempt ∧
        next.firstAnswer? attempt =
          (operation.firstAnswer? attempt).or (operation.answerBy? attempt move) ∨
      attempt = operation.streams.length ∧ next.firstAnswer? attempt = none := by
  cases turned with
  | deliver target signal => exact .inl ⟨pending, operation.firstAnswer?_deliver attempt target signal⟩
  | hangUp target => exact .inl ⟨pending, operation.firstAnswer?_hangUp attempt target⟩
  | @drop _ stream item waiting found =>
    obtain rfl := Option.some.inj (waiting.symm.trans pending)
    refine .inl ⟨pending, ?_⟩
    simp only [Operation.arrival] at found
    cases held : operation.streams[stream]? with
    | none => simp [held] at found
    | some listed =>
      simp only [held] at found
      simp [Operation.firstAnswer?, Operation.answerBy?, held,
        (SignalStream.firstAnswer?_afterRead found).1]
  | call stage =>
    obtain rfl := Option.some.inj pending
    exact .inr ⟨rfl, by simp [Operation.firstAnswer?, SignalStream.firstAnswer?]⟩
  | prepare prepared =>
    simp [Stage.pending?_of_stream_none prepared.stream_after] at pending
  | _ => simp_all [Stage.pending?, Operation.answerBy?, Operation.firstAnswer?]

/-- Each call opens a stream, and nothing else does. -/
theorem opens (turned : Transition operation move read next) :
    next.streams.length = operation.streams.length ∧ next.calls = operation.calls ∨
      ∃ call, next.streams.length = operation.streams.length + 1 ∧
        next.calls = operation.calls ++ [call] := by
  cases turned with
  | call stage => exact .inr ⟨_, List.length_append, rfl⟩
  | retry _ _ kept | fail _ _ kept | quit _ _ _ kept | hear _ _ kept | forward _ _ _ kept
  | repeated _ _ kept | spoil _ _ _ kept | breakOff _ _ _ kept | complete _ _ kept
  | leave _ _ kept | release _ kept | hearLate _ kept | giveUp _ _ _ kept =>
    exact .inl ⟨kept.length_eq, rfl⟩
  | deliver | hangUp | drop => exact .inl ⟨List.length_modify .., rfl⟩
  | _ => exact .inl ⟨rfl, rfl⟩

end Transition

namespace Operation

theorem calls_length (plan : Plan α) (candidates : Candidates) (moves : List Move) :
    ((make plan candidates).run moves).calls.length =
      ((make plan candidates).run moves).streams.length := by
  refine run_induction
    (motive := fun operation : Operation α => operation.calls.length = operation.streams.length)
    (fun turned same => ?_) rfl moves
  rcases turned.opens with ⟨length, calls⟩ | ⟨call, length, calls⟩
  · rw [calls, length, same]
  · rw [calls, length, List.length_append, same, List.length_singleton]

/-- Attempts that were not made are not answered. -/
theorem answered?_of_length (plan : Plan α) (candidates : Candidates) (moves : List Move)
    {attempt : Nat} (unopened : ((make plan candidates).run moves).streams.length ≤ attempt) :
    (make plan candidates).answered? attempt moves = none := by
  induction moves using List.reverseRecOn with
  | nil => rfl
  | append_singleton before move ih =>
    rw [run_concat] at unopened
    have earlier : ((make plan candidates).run before).streams.length ≤ attempt := by
      rcases (transition_apply ((make plan candidates).run before) move).opens with
        ⟨length, _⟩ | ⟨_, length, _⟩ <;> omega
    rw [answered?_concat, ih earlier, answerBy?_of_length earlier]
    rfl

theorem firstAnswer?_run (plan : Plan α) (candidates : Candidates) (moves : List Move)
    {attempt : Nat}
    (pending : ((make plan candidates).run moves).stage.pending? = some attempt) :
    ((make plan candidates).run moves).firstAnswer? attempt =
      (make plan candidates).answered? attempt moves := by
  induction moves using List.reverseRecOn with
  | nil => cases pending
  | append_singleton before move ih =>
    rw [run_concat] at pending ⊢
    rw [answered?_concat]
    rcases (transition_apply _ move).firstAnswer? pending with ⟨waiting, same⟩ | ⟨rfl, nothing⟩
    · rw [same, ih waiting]
    · rw [nothing, answered?_of_length plan candidates before (Nat.le_refl _),
        answerBy?_of_length (Nat.le_refl _)]
      rfl

/-- The loop reads the first answer that the endpoint gave. -/
theorem answered?_of_read (plan : Plan α) (candidates : Candidates) (moves : List Move)
    {move : Move} {read : Read} {answer : Answer}
    (taken : ((make plan candidates).run moves).readBy move = some read)
    (pending : ((make plan candidates).run moves).stage.pending? = some read.stream)
    (answers : read.arrival.answer? = some answer) :
    (make plan candidates).answered? read.stream moves = some answer := by
  have latest := (heard_run plan candidates moves).latest _ (Stage.stream?_of_pending pending)
  have found := (readBy_eq_some taken).2.1
  rw [← firstAnswer?_run plan candidates moves pending]
  cases held : ((make plan candidates).run moves).streams[read.stream]? with
  | none =>
    have missing := List.getElem?_eq_none_iff.1 held
    omega
  | some listed =>
    simp only [arrival, held] at found
    rw [firstAnswer?, held]
    exact SignalStream.firstAnswer?_of_arrival (found ▸ answers)

end Operation

end ModelSync
