import Mathlib.Data.List.Induction
import ModelSync.Proofs.Subscription.Reads

/-! The streams of the attempts as queues. The loop listens to one of them at a time, and what it
has read on a stream is the beginning of what the endpoint sent there. As long as it holds the
stream, what was sent is what was read and then what is left. -/
namespace ModelSync

variable {α : Type}

/-- The attempt that the endpoint turns to by a move. -/
def Move.attempt? : Move → Option Nat
  | .deliver attempt _ | .hangUp attempt => some attempt
  | _ => none

/-- What a move makes of the streams, with what it takes from them and the stream that the loop
holds afterwards. -/
inductive Flows (operation : Operation α) :
    Move → Option Read → Option Nat → List SignalStream → Prop where
  | handle {move : Move} {read : Option Read} {held : Option Nat} {streams : List SignalStream}
      (own : move.attempt? = none) (kept : Handles operation read held streams) :
      Flows operation move read held streams
  | deliver (attempt : Nat) (signal : Signal) :
      Flows operation (.deliver attempt signal) none operation.stage.stream?
        (operation.streams.modify attempt (·.deliver signal))
  | hangUp (attempt : Nat) :
      Flows operation (.hangUp attempt) none operation.stage.stream?
        (operation.streams.modify attempt SignalStream.hangUp)
  | call {now : Nat} (loose : operation.stage.stream? = none) :
      Flows operation (.step now) none (some operation.streams.length)
        (operation.streams ++ [⟨[], true, true⟩])

private theorem Move.attempt?_of_loop {move : Move} (loop : move.isLoop = true) :
    move.attempt? = none := by
  cases move <;> simp_all [isLoop, attempt?]

private theorem Transition.flows {operation next : Operation α} {move : Move} {read : Option Read}
    (turned : Transition operation move read next) (coherent : Coherent operation) :
    Flows operation move read next.stage.stream? next.streams := by
  cases turned with
  | begin phase source =>
    have unbegun := coherent.unbegun_of_idle phase
    exact .handle rfl (.keep (by simp [unbegun, Stage.stream?]))
  | misuse | abandon | forsake | cancel | cancelAgain | finishCancel | finishNothing | wait | hold =>
    exact .handle rfl (.keep rfl)
  | deliver attempt signal => exact .deliver attempt signal
  | hangUp attempt => exact .hangUp attempt
  | drop pending found =>
    have held := Stage.stream?_of_pending pending
    simp only [held]
    exact .handle rfl (.read held)
  | prepare prepared =>
    rw [prepared.stream_after]
    exact .handle rfl (.keep prepared.stream_before)
  | call stage => exact .call (by simp [stage, Stage.stream?])
  | exhaust stage | activate stage | notice stage | refuse stage =>
    exact .handle rfl (.keep (by simp [stage, Stage.stream?]))
  | forward stage phase decoded kept | repeated stage phase kept =>
    simp only [stage]
    exact .handle rfl kept
  | retry _ _ kept | fail _ _ kept | quit _ _ _ kept | hear _ _ kept | spoil _ _ _ kept
  | breakOff _ _ _ kept | complete _ _ kept | leave _ _ kept | release _ kept | hearLate _ kept =>
    exact .handle rfl kept
  | giveUp loop _ _ kept => exact .handle (Move.attempt?_of_loop loop) kept

/-! ## The stream that the loop listens to -/

/-- Of these streams the loop listens to the one that it holds. -/
def Attended (held : Option Nat) (streams : List SignalStream) : Prop :=
  ∀ attempt stream, streams[attempt]? = some stream →
    (stream.listening = true ↔ held = some attempt)

private theorem SignalStream.listening_deliver (stream : SignalStream) (signal : Signal) :
    (stream.deliver signal).listening = stream.listening := by
  unfold deliver
  split <;> rfl

/-- A stream is one of those before a call, or the new one. -/
theorem SignalStream.listed_before_or_new {streams : List SignalStream} {attempt : Nat}
    {stream : SignalStream} (found : (streams ++ [⟨[], true, true⟩])[attempt]? = some stream) :
    attempt < streams.length ∧ streams[attempt]? = some stream ∨
      attempt = streams.length ∧ stream = ⟨[], true, true⟩ := by
  rcases Nat.lt_or_ge attempt streams.length with before | late
  · rw [List.getElem?_append_left before] at found
    exact .inl ⟨before, found⟩
  · rw [List.getElem?_append_right late] at found
    obtain ⟨last, rfl⟩ := List.getElem?_eq_some_iff.1 found
    simp only [List.length_singleton] at last
    exact .inr ⟨by omega, by simp⟩

private theorem Attended.modify {held : Option Nat} {streams : List SignalStream}
    (attended : Attended held streams) (target : Nat) {change : SignalStream → SignalStream}
    (same : ∀ stream, (change stream).listening = stream.listening) :
    Attended held (streams.modify target change) := by
  intro attempt stream found
  rw [List.getElem?_modify] at found
  obtain ⟨former, listed, rfl⟩ := Option.map_eq_some_iff.1 found
  rw [← attended attempt former listed]
  split
  · rw [same]
  · rfl

private theorem Flows.attended {operation : Operation α} {move : Move} {read : Option Read}
    {held : Option Nat} {streams : List SignalStream} (flows : Flows operation move read held streams)
    (attended : Attended operation.stage.stream? operation.streams) : Attended held streams := by
  cases flows with
  | deliver target signal => exact attended.modify target (·.listening_deliver signal)
  | hangUp target => exact attended.modify target fun _ => rfl
  | handle own kept =>
    cases kept with
    | keep same => exact same ▸ attended
    | read holds => exact holds ▸ attended.modify _ fun _ => rfl
    | @drop target _ holds =>
      intro attempt stream found
      rw [List.getElem?_modify] at found
      obtain ⟨former, listed, rfl⟩ := Option.map_eq_some_iff.1 found
      have before := attended attempt former listed
      rw [holds] at before
      by_cases same : target = attempt
      · simp [same, SignalStream.drop]
      · simpa [same] using before
  | call loose =>
    intro attempt stream found
    rcases SignalStream.listed_before_or_new found with ⟨before, listed⟩ | ⟨rfl, rfl⟩
    · have unheard := attended attempt stream listed
      rw [loose] at unheard
      simpa [Nat.ne_of_gt before] using unheard
    · simp

/-! ## What is sent and what is read -/

/-- What is read on a stream. -/
def readOn (reads : List Read) (stream : Nat) : List Arrival :=
  (reads.filter fun read => read.stream == stream).map Read.arrival

/-- What is left to read, with the end of the stream. -/
def SignalStream.left (stream : SignalStream) : List Arrival :=
  stream.unread.map .signal ++ if stream.sending then [] else [.ended]

namespace Operation

/-- The endpoint holds its end of the stream of an attempt. -/
def sends (operation : Operation α) (attempt : Nat) : Bool :=
  (operation.streams[attempt]?).any SignalStream.sending

/-- What the endpoint sends on the stream of an attempt by a move. -/
def sentBy? (operation : Operation α) (attempt : Nat) : Move → Option Arrival
  | .deliver target signal =>
    if target = attempt ∧ operation.sends attempt = true then some (.signal signal) else none
  | .hangUp target =>
    if target = attempt ∧ operation.sends attempt = true then some .ended else none
  | _ => none

/-- What the endpoint sends on the stream of an attempt in a run, whether or not the loop still
listens to it. -/
def sentOn (operation : Operation α) (attempt : Nat) : List Move → List Arrival
  | [] => []
  | move :: rest =>
    (operation.sentBy? attempt move).toList ++ (operation.apply move).sentOn attempt rest

theorem sentOn_append (operation : Operation α) (attempt : Nat) (before after : List Move) :
    operation.sentOn attempt (before ++ after) =
      operation.sentOn attempt before ++ (operation.run before).sentOn attempt after := by
  induction before generalizing operation with
  | nil => rfl
  | cons move rest ih => simp [sentOn, ih, run]

theorem sentOn_concat (operation : Operation α) (attempt : Nat) (moves : List Move) (move : Move) :
    operation.sentOn attempt (moves ++ [move]) =
      operation.sentOn attempt moves ++ ((operation.run moves).sentBy? attempt move).toList := by
  simp [sentOn_append, sentOn]

private theorem hasArrival_of_readBy {operation : Operation α} {move : Move} {read : Read}
    (taken : operation.readBy move = some read) : operation.hasArrival read.stream = true := by
  obtain ⟨takes, held, -⟩ := takes_of_readBy taken
  cases stage : operation.stage <;> simp_all [takesArrival, Stage.stream?]

private theorem sentBy?_of_own {operation : Operation α} {move : Move} (own : move.attempt? = none)
    (attempt : Nat) : operation.sentBy? attempt move = none := by
  cases move <;> simp_all [sentBy?, Move.attempt?]

private theorem sentBy?_of_length {operation : Operation α} {attempt : Nat}
    (unopened : operation.streams.length ≤ attempt) (move : Move) :
    operation.sentBy? attempt move = none := by
  cases move <;> simp [sentBy?, sends, unopened]

end Operation

namespace SignalStream

variable {stream : SignalStream}

private theorem left_of_hasArrival (arrived : stream.hasArrival = true) :
    ∃ rest, stream.left = stream.arrival :: rest := by
  unfold left arrival
  cases unread : stream.unread with
  | cons signal rest => exact ⟨_, rfl⟩
  | nil =>
    have ended : stream.sending = false := by simpa [hasArrival, unread] using arrived
    exact ⟨[], by simp [ended]⟩

private theorem left_of_signal {signal : Signal} (found : stream.arrival = .signal signal) :
    stream.left = .signal signal :: stream.afterRead.left := by
  unfold arrival at found
  cases unread : stream.unread with
  | cons first rest =>
    rw [unread] at found
    obtain rfl := Arrival.signal.inj found
    simp [left, afterRead, unread]
  | nil =>
    rw [unread] at found
    dsimp only at found
    split at found <;> cases found

private theorem left_deliver (listening : stream.listening = true) (signal : Signal) :
    (stream.deliver signal).left =
      stream.left ++ (if stream.sending then [.signal signal] else []) := by
  cases sending : stream.sending <;> simp [deliver, accepts, left, listening, sending]

private theorem left_hangUp (stream : SignalStream) :
    stream.hangUp.left = stream.left ++ (if stream.sending then [.ended] else []) := by
  cases sending : stream.sending <;> simp [hangUp, left, sending]

end SignalStream

theorem readOn_append (reads later : List Read) (stream : Nat) :
    readOn (reads ++ later) stream = readOn reads stream ++ readOn later stream := by
  simp [readOn]

theorem readOn_self (read : Read) : readOn [read] read.stream = [read.arrival] := by
  simp [readOn]

private theorem readOn_of_ne {read : Read} {stream : Nat} (other : read.stream ≠ stream) :
    readOn [read] stream = [] := by
  simp [readOn, other]

/-- The streams give what was sent in the order of sending. -/
structure InOrder (streams : List SignalStream) (sent : Nat → List Arrival) (reads : List Read) :
    Prop where
  /-- Nothing is lost of a stream that the loop listens to. -/
  listening : ∀ attempt stream, streams[attempt]? = some stream → stream.listening = true →
    sent attempt = readOn reads attempt ++ stream.left
  read : ∀ attempt, readOn reads attempt <+: sent attempt
  unopened : ∀ attempt, streams.length ≤ attempt → sent attempt = []

namespace InOrder

variable {operation : Operation α} {move : Move} {sent : Nat → List Arrival} {reads : List Read}

/-- What is read on a stream was sent on it. -/
theorem append_read {read : Read} (inOrder : InOrder operation.streams sent reads)
    (attended : Attended operation.stage.stream? operation.streams)
    (listed : read.stream < operation.streams.length)
    (taken : operation.readBy move = some read) (attempt : Nat) :
    readOn (reads ++ [read]) attempt <+: sent attempt := by
  rw [readOn_append]
  by_cases same : read.stream = attempt
  · obtain ⟨stream, found⟩ : ∃ stream, operation.streams[read.stream]? = some stream :=
      ⟨_, List.getElem?_eq_getElem listed⟩
    have listening := (attended _ stream found).2 (Operation.stream?_of_readBy taken)
    have waiting : stream.hasArrival = true := by
      simpa [Operation.hasArrival, found] using Operation.hasArrival_of_readBy taken
    obtain ⟨rest, left⟩ := SignalStream.left_of_hasArrival waiting
    have arrived : stream.arrival = read.arrival := by
      simpa [Operation.arrival, found] using (Operation.readBy_eq_some taken).2.1
    rw [← same, readOn_self, inOrder.listening _ stream found listening, left, arrived]
    exact ⟨rest, by simp⟩
  · rw [readOn_of_ne same, List.append_nil]
    exact inOrder.read attempt

private theorem handle {read : Option Read} {held : Option Nat} {streams : List SignalStream}
    (inOrder : InOrder operation.streams sent reads)
    (attended : Attended operation.stage.stream? operation.streams)
    (listed : ∀ taken ∈ read, taken.stream < operation.streams.length)
    (moved : operation.readBy move = read) (kept : Handles operation read held streams) :
    InOrder streams sent (reads ++ read.toList) where
  listening attempt stream found listening := by
    cases kept with
    | keep same => simpa using inOrder.listening attempt stream found listening
    | @read target signal holds =>
      rw [List.getElem?_modify] at found
      obtain ⟨former, before, rfl⟩ := Option.map_eq_some_iff.1 found
      by_cases same : target = attempt
      · subst same
        have arrived : former.arrival = .signal signal := by
          simpa [Operation.arrival, before] using (Operation.readBy_eq_some moved).2.1
        rw [if_pos rfl] at listening ⊢
        rw [inOrder.listening _ former before listening, SignalStream.left_of_signal arrived]
        simp [readOn]
      · rw [if_neg same] at listening ⊢
        rw [inOrder.listening _ former before listening]
        simp [readOn, same]
    | @drop target _ holds =>
      rw [List.getElem?_modify] at found
      obtain ⟨former, before, rfl⟩ := Option.map_eq_some_iff.1 found
      by_cases same : target = attempt
      · simp [same, SignalStream.drop] at listening
      · rw [if_neg same] at listening ⊢
        rw [inOrder.listening _ former before listening, readOn_append]
        cases read with
        | none => simp [readOn]
        | some taken =>
          have elsewhere : taken.stream = target :=
            Option.some.inj ((Operation.stream?_of_readBy moved).symm.trans holds)
          rw [Option.toList_some, readOn_of_ne (elsewhere ▸ same), List.append_nil]
  read attempt := by
    cases read with
    | none => simpa using inOrder.read attempt
    | some taken => exact inOrder.append_read attended (listed taken rfl) moved attempt
  unopened attempt unopened := inOrder.unopened attempt (kept.length_eq ▸ unopened)

/-- What the endpoint sends on a stream comes last. -/
theorem send {change : SignalStream → SignalStream} {target : Nat} {arrival : Arrival}
    (inOrder : InOrder operation.streams sent reads)
    (left : ∀ stream, stream.listening = true →
      (change stream).left = stream.left ++ if stream.sending then [arrival] else [])
    (same : ∀ stream, (change stream).listening = stream.listening)
    (sends : ∀ attempt, operation.sentBy? attempt move =
      if target = attempt ∧ operation.sends attempt = true then some arrival else none) :
    InOrder (operation.streams.modify target change)
      (fun attempt => sent attempt ++ (operation.sentBy? attempt move).toList) reads where
  listening attempt stream found listening := by
    rw [List.getElem?_modify] at found
    obtain ⟨former, before, rfl⟩ := Option.map_eq_some_iff.1 found
    have sending : operation.sends attempt = former.sending := by simp [Operation.sends, before]
    by_cases here : target = attempt
    · rw [if_pos here] at listening ⊢
      rw [same] at listening
      rw [left former listening, inOrder.listening attempt former before listening, sends, sending]
      cases former.sending <;> simp [here]
    · rw [if_neg here] at listening ⊢
      simp [inOrder.listening attempt former before listening, sends, here]
  read attempt := (inOrder.read attempt).trans (List.prefix_append _ _)
  unopened attempt unopened := by
    rw [List.length_modify] at unopened
    simp [inOrder.unopened attempt unopened, Operation.sentBy?_of_length unopened]

end InOrder

private theorem Flows.inOrder {operation : Operation α} {move : Move} {read : Option Read}
    {held : Option Nat} {streams : List SignalStream} {sent : Nat → List Arrival} {reads : List Read}
    (flows : Flows operation move read held streams) (moved : operation.readBy move = read)
    (inOrder : InOrder operation.streams sent reads)
    (attended : Attended operation.stage.stream? operation.streams)
    (listed : ∀ taken ∈ read, taken.stream < operation.streams.length) :
    InOrder streams (fun attempt => sent attempt ++ (operation.sentBy? attempt move).toList)
      (reads ++ read.toList) := by
  cases flows with
  | handle own kept =>
    simpa [Operation.sentBy?_of_own own] using inOrder.handle attended listed moved kept
  | deliver target signal =>
    simpa using inOrder.send (fun stream listening => stream.left_deliver listening signal)
      (fun stream => stream.listening_deliver signal) fun _ => rfl
  | hangUp target =>
    simpa using inOrder.send (fun stream _ => stream.left_hangUp) (fun _ => rfl) fun _ => rfl
  | call loose =>
    refine ⟨fun attempt stream found listening => ?_, fun attempt => ?_, fun attempt unopened => ?_⟩
    · rcases SignalStream.listed_before_or_new found with ⟨_, former⟩ | ⟨rfl, rfl⟩
      · simpa [Operation.sentBy?] using inOrder.listening attempt stream former listening
      · have unsent := inOrder.unopened operation.streams.length (Nat.le_refl _)
        have unread := List.prefix_nil.1 (unsent ▸ inOrder.read operation.streams.length)
        simp [Operation.sentBy?, unsent, unread, SignalStream.left]
    · simpa [Operation.sentBy?] using inOrder.read attempt
    · rw [List.length_append] at unopened
      simpa [Operation.sentBy?] using inOrder.unopened attempt (Nat.le_of_add_right_le unopened)

namespace Operation

theorem attended_run (plan : Plan α) (candidates : Candidates) (moves : List Move) :
    Attended ((make plan candidates).run moves).stage.stream?
      ((make plan candidates).run moves).streams := by
  induction moves using List.reverseRecOn with
  | nil =>
    intro attempt stream found
    cases found
  | append_singleton before move ih =>
    rw [run_concat]
    exact ((transition_apply _ move).flows (coherent_run plan candidates before)).attended ih

/-- What the loop reads on a stream is what the endpoint sends on it, in the same order. As long
as the loop listens, all that is not read yet is left on the stream. -/
theorem inOrder_run (plan : Plan α) (candidates : Candidates) (moves : List Move) :
    InOrder ((make plan candidates).run moves).streams
      (fun attempt => (make plan candidates).sentOn attempt moves)
      ((make plan candidates).reads moves) := by
  induction moves using List.reverseRecOn with
  | nil => exact ⟨nofun, fun _ => List.prefix_rfl, fun _ _ => rfl⟩
  | append_singleton before move ih =>
    simp only [run_concat, reads_concat, sentOn_concat]
    refine ((transition_apply _ move).flows (coherent_run plan candidates before)).inOrder rfl ih
      (attended_run plan candidates before) fun taken read => ?_
    have latest := (heard_run plan candidates before).latest _ (stream?_of_readBy read)
    omega

end Operation

end ModelSync
