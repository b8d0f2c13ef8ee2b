import Mathlib.Data.List.Induction
import ModelSync.Proofs.Subscription.Lifecycle

/-! What a loop reads on its streams. It listens to one attempt at a time, goes on to the next
only after it has read a rejection, and reads nothing on a stream that was not sent on it.
Every id that a subscription holds was read in an acknowledgment. -/
namespace ModelSync

variable {α : Type}

/-- The id of an acknowledgment. -/
def Arrival.acknowledgedId? : Arrival → Option String
  | .signal (.started id) => some id
  | _ => none

/-- The id of the first acknowledgment that was read. -/
def acknowledgedId? (reads : List Read) : Option String :=
  reads.findSome? fun read => read.arrival.acknowledgedId?

/-- The first answer among what was read on a stream. -/
def answerOn (reads : List Read) (stream : Nat) : Option Read :=
  reads.find? fun read => read.stream == stream && read.arrival.answer?.isSome

/-- The attempt of a stream was rejected. -/
def Rejected (reads : List Read) (stream : Nat) : Prop :=
  ∃ read error, answerOn reads stream = some read ∧ read.arrival.answer? = some (.rejected error)

theorem answerOn_append (reads later : List Read) (stream : Nat) :
    answerOn (reads ++ later) stream = (answerOn reads stream).or (answerOn later stream) := by
  simp [answerOn, List.find?_append]

private theorem answerOn_append_of_some {reads : List Read} {stream : Nat} {read : Read}
    (found : answerOn reads stream = some read) (later : List Read) :
    answerOn (reads ++ later) stream = some read := by
  simp [answerOn_append, found]

theorem answerOn_eq_none_of_lt {reads : List Read} {stream : Nat}
    (own : ∀ read ∈ reads, read.stream < stream) : answerOn reads stream = none := by
  refine List.find?_eq_none.2 fun read listed => ?_
  have before := own read listed
  simp [Nat.ne_of_lt before]

private theorem answerOn_append_of_answer {reads : List Read} {read : Read}
    (pending : answerOn reads read.stream = none) (answers : read.arrival.answer?.isSome = true) :
    answerOn (reads ++ [read]) read.stream = some read := by
  rw [answerOn_append, pending]
  simp [answerOn, answers]

private theorem answerOn_eq_none_of_no_answer {read : Read} (nothing : read.arrival.answer? = none)
    (stream : Nat) : answerOn [read] stream = none := by
  simp [answerOn, nothing]

theorem answerOn_singleton {read found : Read} {stream : Nat}
    (answered : answerOn [read] stream = some found) : found = read ∧ read.stream = stream := by
  simp only [answerOn, List.find?_singleton] at answered
  split at answered
  case isTrue answers =>
    obtain rfl := Option.some.inj answered
    simp only [Bool.and_eq_true, beq_iff_eq] at answers
    exact ⟨rfl, answers.1⟩
  case isFalse => cases answered

theorem acknowledgedId?_append (reads later : List Read) :
    acknowledgedId? (reads ++ later) = (acknowledgedId? reads).or (acknowledgedId? later) := by
  simp [acknowledgedId?, List.findSome?_append]

theorem Rejected.append {reads : List Read} {stream : Nat} (rejected : Rejected reads stream)
    (later : List Read) : Rejected (reads ++ later) stream := by
  obtain ⟨read, error, found, answer⟩ := rejected
  exact ⟨read, error, answerOn_append_of_some found later, answer⟩

/-- A signal on the stream of an attempt was not read yet. -/
def Operation.Waiting (operation : Operation α) (attempt : Nat) (signal : Signal) : Prop :=
  ∃ held, operation.streams[attempt]? = some held ∧ signal ∈ held.unread

/-- In these moves the endpoint sent a signal on the open stream of an attempt. -/
def Operation.Sent (operation : Operation α) (moves : List Move) (attempt : Nat)
    (signal : Signal) : Prop :=
  ∃ before after, moves = before ++ .deliver attempt signal :: after ∧
    (operation.run before).accepts attempt = true

/-- The id that the loop is about to accept or to release. -/
def Stage.id? : Stage → Option String
  | .accepting id _ | .releasing id _ => some id
  | _ => none

/-- The subscription, or its loop, holds an acknowledged id. -/
def Operation.Holds (operation : Operation α) (id : String) : Prop :=
  operation.phase.subscriptionId? = some id ∨ operation.stage.id? = some id

/-- What a loop has read fits its streams and its stage. -/
structure Heard (operation : Operation α) (reads : List Read) : Prop where
  fresh : operation.stage = .unbegun → operation.streams = []
  /-- The loop only listens to its latest stream. -/
  latest : ∀ stream, operation.stage.stream? = some stream →
    stream + 1 = operation.streams.length
  own : ∀ read ∈ reads, read.stream < operation.streams.length
  pending : ∀ stream, operation.stage.pending? = some stream → answerOn reads stream = none
  accepting : ∀ id stream, operation.stage = .accepting id stream →
    ∃ phase, answerOn reads stream = some ⟨stream, .signal (.started id), phase⟩
  forwarding : ∀ stream, operation.stage = .forwarding stream →
    (answerOn reads stream).isSome = true
  earlier : ∀ stream, stream + 1 < operation.streams.length → Rejected reads stream
  /-- Between two attempts the latest one was rejected too. -/
  between : operation.stage.isSearching = true → operation.stage.stream? = none →
    ∀ stream < operation.streams.length, Rejected reads stream

namespace Prepares

variable {operation : Operation α} {decorations : Nat} {stage : Stage}

theorem stream_before (prepared : Prepares operation decorations stage) :
    operation.stage.stream? = none := by
  cases prepared <;> simp [*, Stage.stream?]

theorem stream_after (prepared : Prepares operation decorations stage) :
    stage.stream? = none := by
  cases prepared <;> rfl

end Prepares

private theorem SignalStream.mem_deliver {held : SignalStream} {sent signal : Signal} :
    signal ∈ (held.deliver sent).unread ↔
      signal ∈ held.unread ∨ held.accepts = true ∧ signal = sent := by
  unfold deliver
  split <;> simp_all

namespace Handles

variable {operation : Operation α} {read : Option Read} {held : Option Nat}
  {streams : List SignalStream}

theorem length_eq (kept : Handles operation read held streams) :
    streams.length = operation.streams.length := by
  cases kept with
  | keep same => rfl
  | read holds | drop holds => exact List.length_modify ..

/-- What is left to read was there before. -/
theorem exists_of_mem (kept : Handles operation read held streams) {attempt : Nat}
    {left : SignalStream} {signal : Signal} (found : streams[attempt]? = some left)
    (unread : signal ∈ left.unread) :
    ∃ stream, operation.streams[attempt]? = some stream ∧ signal ∈ stream.unread := by
  cases kept with
  | keep same => exact ⟨left, found, unread⟩
  | @read other _ holds =>
    rw [List.getElem?_modify] at found
    obtain ⟨stream, listed, rfl⟩ := Option.map_eq_some_iff.1 found
    refine ⟨stream, listed, ?_⟩
    split at unread
    · exact List.mem_of_mem_tail unread
    · exact unread
  | @drop other _ holds =>
    rw [List.getElem?_modify] at found
    obtain ⟨stream, listed, rfl⟩ := Option.map_eq_some_iff.1 found
    refine ⟨stream, listed, ?_⟩
    split at unread
    · cases unread
    · exact unread

end Handles

theorem Stage.stream?_of_pending {stage : Stage} {stream : Nat}
    (pending : stage.pending? = some stream) : stage.stream? = some stream := by
  cases stage <;> simp_all [Stage.pending?, Stage.stream?]

theorem Arrival.acknowledgedId?_of_rejected {arrival : Arrival} {error : EndpointError}
    (rejected : arrival.answer? = some (.rejected error)) : arrival.acknowledgedId? = none := by
  cases arrival with
  | signal signal => cases signal <;> simp_all [answer?, acknowledgedId?]
  | _ => rfl

theorem Stage.id?_of_searching {stage : Stage} (searching : stage.isSearching = true) :
    stage.id? = none := by
  cases stage <;> simp_all [Stage.isSearching, Stage.id?]

theorem Stage.pending?_of_stream_none {stage : Stage} (streamless : stage.stream? = none) :
    stage.pending? = none := by
  cases stage <;> simp_all [Stage.pending?, Stage.stream?]

namespace Operation

variable {operation : Operation α} {move : Move} {read : Read}

/-- What a move takes is what has arrived on the stream that the loop holds. -/
theorem takes_of_readBy (taken : operation.readBy move = some read) :
    operation.takesArrival = true ∧ operation.stage.stream? = some read.stream ∧
      operation.arrival read.stream = read.arrival ∧ read.phase = operation.phase := by
  cases move with
  | step now =>
    simp only [readBy, reading?] at taken
    split at taken
    case isTrue takes =>
      obtain ⟨stream, held, rfl⟩ := Option.map_eq_some_iff.1 taken
      exact ⟨takes, held, rfl, rfl⟩
    case isFalse => cases taken
  | _ => cases taken

/-- What a move takes is found on the stream that the loop waits on or forwards. -/
theorem readBy_eq_some (taken : operation.readBy move = some read) :
    (operation.stage.pending? = some read.stream ∨
        operation.stage = .forwarding read.stream ∧ operation.phase.activeId?.isSome = true) ∧
      operation.arrival read.stream = read.arrival ∧ read.phase = operation.phase := by
  obtain ⟨takes, held, arrived⟩ := takes_of_readBy taken
  refine ⟨?_, arrived⟩
  cases stage : operation.stage <;> simp_all [takesArrival, Stage.stream?, Stage.pending?]

theorem stream?_of_readBy (taken : operation.readBy move = some read) :
    operation.stage.stream? = some read.stream :=
  (takes_of_readBy taken).2.1

private theorem heard_make (plan : Plan α) (candidates : Candidates) :
    Heard (make plan candidates) [] where
  fresh _ := rfl
  latest := by simp [make, Stage.stream?]
  own := by simp
  pending := by simp [make, Stage.pending?]
  accepting := by simp [make]
  forwarding := by simp [make]
  earlier := by simp [make]
  between := by simp [make]

end Operation

namespace Heard

variable {operation next : Operation α} {reads later : List Read}

theorem own_append (heard : Heard operation reads)
    (own : ∀ read ∈ later, operation.stage.stream? = some read.stream) :
    ∀ read ∈ reads ++ later, read.stream < operation.streams.length := by
  intro read listed
  rcases List.mem_append.1 listed with before | now
  · exact heard.own read before
  · have same := heard.latest _ (own read now)
    omega

/-- A move after which the loop is where it was. -/
theorem stay (heard : Heard operation reads) (stage : next.stage = operation.stage)
    (length : next.streams.length = operation.streams.length)
    (own : ∀ read ∈ later, operation.stage.stream? = some read.stream)
    (silent : ∀ stream, operation.stage.pending? = some stream → answerOn later stream = none) :
    Heard next (reads ++ later) where
  fresh unbegun := by
    rw [stage] at unbegun
    simpa [heard.fresh unbegun] using length
  latest := by simpa only [stage, length] using heard.latest
  own := length ▸ heard.own_append own
  pending stream waiting := by
    rw [stage] at waiting
    simp [answerOn_append, heard.pending stream waiting, silent stream waiting]
  accepting id stream accepting := by
    rw [stage] at accepting
    obtain ⟨phase, found⟩ := heard.accepting id stream accepting
    exact ⟨phase, answerOn_append_of_some found later⟩
  forwarding stream forwarding := by
    rw [stage] at forwarding
    obtain ⟨read, found⟩ := Option.isSome_iff_exists.1 (heard.forwarding stream forwarding)
    simp [answerOn_append_of_some found later]
  earlier stream before := by
    rw [length] at before
    exact (heard.earlier stream before).append later
  between searching loose stream listed := by
    rw [stage] at searching loose
    rw [length] at listed
    exact (heard.between searching loose stream listed).append later

/-- A move after which the loop no longer waits for answers. -/
theorem settle (heard : Heard operation reads)
    (length : next.streams.length = operation.streams.length)
    (own : ∀ read ∈ later, operation.stage.stream? = some read.stream)
    (settled : next.stage = .returned ∨ ∃ id stream,
      next.stage = .releasing id stream ∧ operation.stage.stream? = some stream) :
    Heard next (reads ++ later) := by
  have known := heard.own_append own
  have past : ∀ stream, stream + 1 < next.streams.length → Rejected (reads ++ later) stream := by
    intro stream before
    rw [length] at before
    exact (heard.earlier stream before).append later
  obtain returned | ⟨id, stream, releasing, held⟩ := settled
  · constructor <;> simp_all [Stage.stream?, Stage.pending?, Stage.isSearching]
  · have same := heard.latest stream held
    constructor <;> simp_all [Stage.stream?, Stage.pending?, Stage.isSearching]

/-- A move after which the loop looks for its next attempt. -/
theorem search (heard : Heard operation reads)
    (length : next.streams.length = operation.streams.length)
    (own : ∀ read ∈ later, operation.stage.stream? = some read.stream)
    (searching : next.stage.isSearching = true) (loose : next.stage.stream? = none)
    (rejected : ∀ stream < operation.streams.length, Rejected (reads ++ later) stream) :
    Heard next (reads ++ later) where
  fresh unbegun := by simp [unbegun, Stage.isSearching] at searching
  latest stream held := by simp [loose] at held
  own := length ▸ heard.own_append own
  pending stream waiting := by simp [Stage.pending?_of_stream_none loose] at waiting
  accepting id stream accepting := by simp [accepting, Stage.stream?] at loose
  forwarding stream forwarding := by simp [forwarding, Stage.stream?] at loose
  earlier stream before := rejected stream (length ▸ Nat.lt_of_succ_lt before)
  between _ _ stream listed := rejected stream (length ▸ listed)

end Heard

namespace Transition

variable {operation next : Operation α} {move : Move} {read : Option Read} {reads : List Read}

private theorem heard (turned : Transition operation move read next) (coherent : Coherent operation)
    (own : ∀ taken ∈ read.toList, operation.stage.stream? = some taken.stream)
    (heard : Heard operation reads) : Heard next (reads ++ read.toList) := by
  cases turned with
  | begin phase source =>
    have unbegun := coherent.unbegun_of_idle phase
    exact heard.search rfl own rfl rfl (by simp [heard.fresh unbegun])
  | prepare prepared =>
    refine heard.search rfl own prepared.searching_after prepared.stream_after ?_
    simpa using heard.between prepared.searching_before prepared.stream_before
  | call stage =>
    have rejected :=
      heard.between (by simp [stage, Stage.isSearching]) (by simp [stage, Stage.stream?])
    have unread := answerOn_eq_none_of_lt heard.own
    have own : ∀ read ∈ reads, read.stream < operation.streams.length + 1 :=
      fun read listed => Nat.lt_succ_of_lt (heard.own read listed)
    constructor <;> simp_all [Stage.stream?, Stage.pending?, Stage.isSearching]
  | @retry _ stream _ arrival error _ stage answer kept =>
    have latest := heard.latest stream (by simp [stage, Stage.stream?])
    refine heard.search kept.length_eq own rfl rfl fun other listed => ?_
    by_cases same : other = stream
    · subst other
      have pending := heard.pending stream (by simp [stage, Stage.pending?])
      refine ⟨⟨stream, arrival, operation.phase⟩, error, ?_, answer⟩
      exact answerOn_append_of_answer pending (by simp [answer])
    · exact (heard.earlier other (by omega)).append _
  | @hear _ stream _ _ id _ stage phase kept =>
    have latest := heard.latest stream (by simp [stage, Stage.stream?])
    have pending := heard.pending stream (by simp [stage, Stage.pending?])
    have answered : answerOn (reads ++ [⟨stream, .signal (.started id), operation.phase⟩]) stream =
        some ⟨stream, .signal (.started id), operation.phase⟩ :=
      answerOn_append_of_answer pending rfl
    have earlier := fun other before => (heard.earlier other before).append
      [⟨stream, .signal (.started id), operation.phase⟩]
    have own := heard.own_append own
    have length := kept.length_eq
    constructor <;> simp_all [Stage.stream?, Stage.pending?, Stage.isSearching]
  | @notice _ stream _ _ stage phase =>
    have latest := heard.latest stream (by simp [stage, Stage.stream?])
    have pending := heard.pending stream (by simp [stage, Stage.pending?])
    have earlier := heard.earlier
    have own := heard.own
    constructor <;> simp_all [Stage.stream?, Stage.pending?, Stage.isSearching]
  | @activate _ stream id stage phase accepted =>
    have latest := heard.latest stream (by simp [stage, Stage.stream?])
    obtain ⟨before, answered⟩ := heard.accepting id stream stage
    have earlier := heard.earlier
    have own := heard.own
    constructor <;> simp_all [Stage.stream?, Stage.pending?, Stage.isSearching]
  | drop pending found =>
    refine heard.stay rfl (List.length_modify ..) own fun stream _ => ?_
    exact answerOn_eq_none_of_no_answer rfl stream
  | forward stage phase decoded kept =>
    refine heard.stay rfl kept.length_eq own fun stream _ => ?_
    exact answerOn_eq_none_of_no_answer rfl stream
  | repeated stage phase kept =>
    refine heard.stay rfl kept.length_eq own fun stream pending => ?_
    simp [stage, Stage.pending?] at pending
  | fail phase cause kept => exact heard.settle kept.length_eq own (.inl rfl)
  | quit phase searching rejected kept => exact heard.settle kept.length_eq own (.inl rfl)
  | exhaust stage found tried => exact heard.settle rfl own (.inl rfl)
  | refuse stage late =>
    exact heard.settle rfl own (.inr ⟨_, _, rfl, by simp [stage, Stage.stream?]⟩)
  | spoil stage phase undecodable kept | hearLate stage kept =>
    exact heard.settle kept.length_eq own (.inr ⟨_, _, rfl, by simp [stage, Stage.stream?]⟩)
  | breakOff stage phase ended kept => exact heard.settle kept.length_eq own (.inl rfl)
  | complete stage phase kept => exact heard.settle kept.length_eq own (.inl rfl)
  | leave stage inactive kept => exact heard.settle kept.length_eq own (.inl rfl)
  | release stage kept => exact heard.settle kept.length_eq own (.inl rfl)
  | giveUp loop stage rejected kept => exact heard.settle kept.length_eq own (.inl rfl)
  | deliver attempt signal => exact heard.stay rfl (List.length_modify ..) own (by simp [answerOn])
  | hangUp attempt => exact heard.stay rfl (List.length_modify ..) own (by simp [answerOn])
  | _ => exact heard.stay rfl rfl own (by simp [answerOn])

/-- A signal waits because it was sent. -/
theorem waiting (turned : Transition operation move read next) {attempt : Nat} {signal : Signal}
    (waiting : next.Waiting attempt signal) :
    operation.Waiting attempt signal ∨
      move = .deliver attempt signal ∧ operation.accepts attempt = true := by
  obtain ⟨held, found, unread⟩ := waiting
  cases turned with
  | deliver target sent =>
    rw [List.getElem?_modify] at found
    obtain ⟨earlier, listed, rfl⟩ := Option.map_eq_some_iff.1 found
    by_cases same : target = attempt
    · subst target
      rw [if_pos rfl] at unread
      rcases SignalStream.mem_deliver.1 unread with before | ⟨accepting, rfl⟩
      · exact .inl ⟨earlier, listed, before⟩
      · exact .inr ⟨rfl, by simp [Operation.accepts, listed, accepting]⟩
    · rw [if_neg same] at unread
      exact .inl ⟨earlier, listed, unread⟩
  | hangUp target =>
    rw [List.getElem?_modify] at found
    obtain ⟨earlier, listed, rfl⟩ := Option.map_eq_some_iff.1 found
    refine .inl ⟨earlier, listed, ?_⟩
    split at unread <;> exact unread
  | @drop _ stream item pending taken =>
    have kept : Handles operation (some ⟨stream, .signal (.next item), operation.phase⟩)
        (some stream) (operation.streams.modify stream SignalStream.afterRead) :=
      .read (Stage.stream?_of_pending pending)
    exact .inl (kept.exists_of_mem found unread)
  | call stage =>
    rw [List.getElem?_append] at found
    split at found
    · exact .inl ⟨held, found, unread⟩
    · obtain rfl := List.mem_singleton.1 (List.mem_of_getElem? found)
      cases unread
  | retry _ _ kept | fail _ _ kept | quit _ _ _ kept | hear _ _ kept | forward _ _ _ kept
  | repeated _ _ kept | spoil _ _ _ kept | breakOff _ _ _ kept | complete _ _ kept
  | leave _ _ kept | release _ kept | hearLate _ kept | giveUp _ _ _ kept =>
    exact .inl (kept.exists_of_mem found unread)
  | _ => exact .inl ⟨held, found, unread⟩

/-- An id is held since it was read in the first answer to an attempt. -/
theorem holds (turned : Transition operation move read next) {id : String}
    (held : next.Holds id) :
    operation.Holds id ∨ ∃ stream, operation.stage.pending? = some stream ∧
      read = some ⟨stream, .signal (.started id), operation.phase⟩ := by
  cases turned with
  | hear stage phase kept | hearLate stage kept =>
    rcases held with phase | same
    · exact .inl (.inl phase)
    · obtain rfl := Option.some.inj same
      exact .inr ⟨_, by simp [stage, Stage.pending?], rfl⟩
  | prepare prepared =>
    rcases held with phase | accepting
    · exact .inl (.inl phase)
    · simp [Stage.id?_of_searching prepared.searching_after] at accepting
  | _ => grind [Operation.Holds, Stage.id?, Phase.subscriptionId?]

/-- Only an id that is held is released. -/
theorem released (turned : Transition operation move read next) (coherent : Coherent operation)
    {id : String} (listed : id ∈ next.released) : id ∈ operation.released ∨ operation.Holds id := by
  cases turned with
  | finishCancel answer canceling =>
    rcases List.mem_append.1 listed with before | now
    · exact .inl before
    · obtain rfl := List.mem_singleton.1 now
      exact .inr (.inl (by simp [coherent.canceling _ canceling, Phase.subscriptionId?]))
  | release stage kept =>
    rcases List.mem_append.1 listed with before | now
    · exact .inl before
    · obtain rfl := List.mem_singleton.1 now
      exact .inr (.inr (by simp [stage, Stage.id?]))
  | _ => exact .inl listed

end Transition

namespace Operation

theorem Sent.append {operation : Operation α} {moves : List Move} {attempt : Nat} {signal : Signal}
    (sent : operation.Sent moves attempt signal) (later : List Move) :
    operation.Sent (moves ++ later) attempt signal := by
  obtain ⟨before, after, rfl, accepting⟩ := sent
  exact ⟨before, after ++ later, by simp, accepting⟩

theorem heard_run (plan : Plan α) (candidates : Candidates) (moves : List Move) :
    Heard ((make plan candidates).run moves) ((make plan candidates).reads moves) := by
  induction moves using List.reverseRecOn with
  | nil => exact heard_make plan candidates
  | append_singleton before move ih =>
    rw [run_concat, reads_concat]
    refine (transition_apply _ move).heard (coherent_run plan candidates before) ?_ ih
    exact fun read listed => stream?_of_readBy (Option.mem_toList.1 listed)

/-- Every signal that is still to be read was sent. -/
theorem sent_of_waiting (plan : Plan α) (candidates : Candidates) (moves : List Move)
    {attempt : Nat} {signal : Signal}
    (waiting : ((make plan candidates).run moves).Waiting attempt signal) :
    (make plan candidates).Sent moves attempt signal := by
  induction moves using List.reverseRecOn with
  | nil =>
    obtain ⟨held, found, _⟩ := waiting
    cases found
  | append_singleton before move ih =>
    rw [run_concat] at waiting
    rcases (transition_apply _ move).waiting waiting with earlier | ⟨rfl, accepting⟩
    · exact (ih earlier).append [move]
    · exact ⟨before, [], rfl, accepting⟩

theorem waiting_of_arrival {operation : Operation α} {stream : Nat} {signal : Signal}
    (found : operation.arrival stream = .signal signal) : operation.Waiting stream signal := by
  unfold arrival at found
  cases held : operation.streams[stream]? with
  | none => simp [held] at found
  | some listed =>
    refine ⟨listed, held, ?_⟩
    simp only [held, SignalStream.arrival] at found
    split at found
    · simp_all
    · split at found <;> cases found

/-- Every id that a subscription holds, or has released, was sent in an acknowledgment of one
of its attempts. -/
theorem sent_of_holds (plan : Plan α) (candidates : Candidates) (moves : List Move) {id : String}
    (held : ((make plan candidates).run moves).Holds id ∨
      id ∈ ((make plan candidates).run moves).released) :
    ∃ attempt, (make plan candidates).Sent moves attempt (.started id) := by
  induction moves using List.reverseRecOn with
  | nil => simp [run, make, Holds, Phase.subscriptionId?, Stage.id?] at held
  | append_singleton before move ih =>
    have turned := transition_apply ((make plan candidates).run before) move
    have earlier {former : Prop} (heldBefore : former)
        (known : former → ∃ attempt, (make plan candidates).Sent before attempt (.started id)) :
        ∃ attempt, (make plan candidates).Sent (before ++ [move]) attempt (.started id) := by
      obtain ⟨attempt, sent⟩ := known heldBefore
      exact ⟨attempt, sent.append [move]⟩
    rw [run_concat] at held
    rcases held with holds | listed
    · rcases turned.holds holds with former | ⟨stream, _, taken⟩
      · exact earlier (.inl former) ih
      · have found := (readBy_eq_some taken).2.1
        exact ⟨stream, (sent_of_waiting plan candidates before (waiting_of_arrival found)).append _⟩
    · exact earlier (turned.released (coherent_run plan candidates before) listed).symm ih

end Operation

end ModelSync
