import ModelSync.Proofs.Subscription.Moves

/-! All that a move can do to a subscription. `transition_apply` is the only place where the
steps of the loop are opened: a property of every run is shown once for each kind of
change, and `run_induction` carries it along the run. -/
namespace ModelSync

variable {α : Type}

/-- The error reports a wrong use and not what became of the subscription. -/
def SubscriptionError.isUsage : SubscriptionError → Bool
  | .usage _ => true
  | _ => false

/-- What the subscriber is told of the endpoint's answer to a release. -/
def releaseReport : Except EndpointError Unit → List (Event α)
  | .ok () => []
  | .error error => [.error (.endpoint error)]

/-- What a step of the loop makes of the streams, with what it takes from them and the stream
that it holds afterwards. It reads a signal, drops its stream or leaves all as they are. -/
inductive Handles (operation : Operation α) :
    Option Read → Option Nat → List SignalStream → Prop where
  | keep {held : Option Nat} (same : operation.stage.stream? = held) :
      Handles operation none held operation.streams
  | read {stream : Nat} {signal : Signal} (held : operation.stage.stream? = some stream) :
      Handles operation (some ⟨stream, .signal signal, operation.phase⟩) (some stream)
        (operation.streams.modify stream SignalStream.afterRead)
  | drop {stream : Nat} {read : Option Read} (held : operation.stage.stream? = some stream) :
      Handles operation read none (operation.streams.modify stream SignalStream.drop)

/-- A step of the loop on its way to the next call, with the number of decorations after it. -/
inductive Prepares (operation : Operation α) : Nat → Stage → Prop where
  | check {search : Search} (stage : operation.stage = .checking search)
      (phase : operation.phase = .starting) :
      Prepares operation operation.decorations (.taking search)
  | take {search : Search} {attempt : Attempt} (stage : operation.stage = .taking search)
      (found : search.cursor.current? = some (.ok attempt)) :
      Prepares operation operation.decorations
        (.lookingAhead ⟨search.cursor.advance, search.tried + 1⟩ attempt)
  | pass {search : Search} {attempt : Attempt}
      (stage : operation.stage = .lookingAhead search attempt) (plain : attempt.decorate = false) :
      Prepares operation operation.decorations
        (.calling { search with cursor := search.cursor.lookAhead }
          ⟨operation.plan.request, attempt.type⟩ search.cursor.hasNext)
  | hand {search : Search} {attempt : Attempt}
      (stage : operation.stage = .lookingAhead search attempt) (owner : attempt.decorate = true) :
      Prepares operation operation.decorations
        (.decorating { search with cursor := search.cursor.lookAhead } attempt
          search.cursor.hasNext)
  | decorate {search : Search} {attempt : Attempt} {more : Bool} {request : Request}
      (stage : operation.stage = .decorating search attempt more)
      (answer : operation.plan.decorator operation.decorations operation.plan.request attempt.type =
        .ok request) :
      Prepares operation (operation.decorations + 1) (.calling search ⟨request, attempt.type⟩ more)
  | skip {search : Search} {attempt : Attempt} {error : DecorationError}
      (stage : operation.stage = .decorating search attempt true)
      (answer : operation.plan.decorator operation.decorations operation.plan.request attempt.type =
        .error error) :
      Prepares operation (operation.decorations + 1) (.checking search)

/-- Why a search fails, with what was read last and the number of decorations after it. -/
inductive Fails (operation : Operation α) : Option Read → Nat → SubscriptionError → Prop where
  | source {search : Search} {error : CandidateError} (stage : operation.stage = .taking search)
      (found : search.cursor.current? = some (.error error)) :
      Fails operation none operation.decorations (.candidateSource error)
  | empty {search : Search} (stage : operation.stage = .taking search)
      (found : search.cursor.current? = none) (untried : search.tried = 0) :
      Fails operation none operation.decorations .authExhausted
  | decoration {search : Search} {attempt : Attempt} {error : DecorationError}
      (stage : operation.stage = .decorating search attempt false)
      (answer : operation.plan.decorator operation.decorations operation.plan.request attempt.type =
        .error error) :
      Fails operation none (operation.decorations + 1) (.decoration error)
  | endpoint {search : Search} {stream : Nat} {arrival : Arrival} {error : EndpointError}
      (stage : operation.stage = .awaiting search false stream)
      (rejected : arrival.answer? = some (.rejected error)) :
      Fails operation (some ⟨stream, arrival, operation.phase⟩) operation.decorations
        (.endpoint error)

/-- Everything a move can do, with what it takes from a stream. -/
inductive Transition (operation : Operation α) : Move → Option Read → Operation α → Prop where
  /-- A call of `start` begins the loop. -/
  | begin {candidates : Candidates} (phase : operation.phase = .idle)
      (source : operation.source = some candidates) :
      Transition operation .start none
        { operation with
          phase := .starting, source := none, stage := .checking ⟨⟨candidates, 0, false⟩, 0⟩ }
  /-- A call of `start` is no use. -/
  | misuse (fault : UsageFault) (late : operation.phase = .idle → operation.source = none) :
      Transition operation .start none
        { operation with
          source := none, events := operation.events ++ [.error (.usage fault)] }
  /-- A cancellation before the start. -/
  | abandon (phase : operation.phase = .idle) :
      Transition operation .beginCancel none
        { operation with source := none, phase := .canceled none }
  /-- A cancellation during the search. -/
  | forsake (phase : operation.phase = .starting) :
      Transition operation .beginCancel none { operation with phase := .canceled none }
  /-- A cancellation of an acknowledged subscription. -/
  | cancel {id : String} (phase : operation.phase = .active id) :
      Transition operation .beginCancel none
        { operation with phase := .canceled (some id), canceling := some id }
  | cancelAgain (ended : operation.state.isTerminal = true) :
      Transition operation .beginCancel none operation
  | finishCancel {id : String} (answer : Except EndpointError Unit)
      (canceling : operation.canceling = some id) :
      Transition operation (.finishCancel answer) none
        { operation with
          canceling := none
          released := operation.released ++ [id]
          events := operation.events ++ releaseReport answer }
  | finishNothing (answer : Except EndpointError Unit) (canceling : operation.canceling = none) :
      Transition operation (.finishCancel answer) none operation
  | deliver (attempt : Nat) (signal : Signal) :
      Transition operation (.deliver attempt signal) none
        { operation with streams := operation.streams.modify attempt (·.deliver signal) }
  | hangUp (attempt : Nat) :
      Transition operation (.hangUp attempt) none
        { operation with streams := operation.streams.modify attempt SignalStream.hangUp }
  /-- A step of a loop that waits, or is not there. -/
  | wait {now : Nat} (unready : operation.isReady now = false) :
      Transition operation (.step now) none operation
  /-- No window of time is over. -/
  | hold (now : Nat) : Transition operation (.expire now) none operation
  /-- An item before the acknowledgment is dropped. -/
  | drop {now stream : Nat} {item : Json} (pending : operation.stage.pending? = some stream)
      (found : operation.arrival stream = .signal (.next item)) :
      Transition operation (.step now) (some ⟨stream, .signal (.next item), operation.phase⟩)
        { operation with streams := operation.streams.modify stream SignalStream.afterRead }
  | prepare {now decorations : Nat} {stage : Stage}
      (prepared : Prepares operation decorations stage) :
      Transition operation (.step now) none { operation with stage, decorations }
  /-- A call of the endpoint. -/
  | call {now : Nat} {search : Search} {call : Call} {more : Bool}
      (stage : operation.stage = .calling search call more) :
      Transition operation (.step now) none
        { operation with
          calls := operation.calls ++ [call]
          streams := operation.streams ++ [{}]
          stage := .awaiting search more operation.streams.length }
  /-- A rejection after which the next candidate is tried. -/
  | retry {now stream : Nat} {search : Search} {arrival : Arrival} {error : EndpointError}
      {streams : List SignalStream} (stage : operation.stage = .awaiting search true stream)
      (rejected : arrival.answer? = some (.rejected error))
      (kept : Handles operation (some ⟨stream, arrival, operation.phase⟩) none streams) :
      Transition operation (.step now) (some ⟨stream, arrival, operation.phase⟩)
        { operation with streams, stage := .checking search }
  /-- The search fails. -/
  | fail {now decorations : Nat} {error : SubscriptionError} {read : Option Read}
      {streams : List SignalStream} (phase : operation.phase = .starting)
      (cause : Fails operation read decorations error)
      (kept : Handles operation read none streams) :
      Transition operation (.step now) read
        { operation with
          phase := .failed none
          stage := .returned
          decorations
          streams
          events := operation.events ++ [.error error] }
  /-- The search ends, for a reason that no longer matters. -/
  | quit {now decorations : Nat} {read : Option Read} {streams : List SignalStream}
      (phase : operation.phase ≠ .starting) (stage : operation.stage.isSearching = true)
      (rejected : ∀ taken ∈ read, ∃ error, taken.arrival.answer? = some (.rejected error))
      (kept : Handles operation read none streams) :
      Transition operation (.step now) read
        { operation with stage := .returned, decorations, streams }
  /-- The source ends although there was a candidate. -/
  | exhaust {now : Nat} {search : Search} (stage : operation.stage = .taking search)
      (found : search.cursor.current? = none) (tried : search.tried ≠ 0) :
      Transition operation (.step now) none { operation with stage := .returned }
  /-- An acknowledgment is read. -/
  | hear {now stream : Nat} {search : Search} {more : Bool} {id : String}
      {streams : List SignalStream} (stage : operation.stage = .awaiting search more stream)
      (phase : operation.phase.isCanceled = false)
      (kept : Handles operation (some ⟨stream, .signal (.started id), operation.phase⟩) (some stream)
        streams) :
      Transition operation (.step now) (some ⟨stream, .signal (.started id), operation.phase⟩)
        { operation with streams, stage := .accepting id stream }
  /-- A cancellation is noticed while an attempt is open. -/
  | notice {now stream : Nat} {search : Search} {more : Bool}
      (stage : operation.stage = .awaiting search more stream)
      (phase : operation.phase.isCanceled = true) :
      Transition operation (.step now) none
        { operation with stage := .draining (now + lateAckWindow) stream }
  /-- An acknowledgment is accepted. -/
  | activate {now stream : Nat} {id : String} (stage : operation.stage = .accepting id stream)
      (phase : operation.phase = .starting) (accepted : operation.accepted = false) :
      Transition operation (.step now) none
        { operation with
          phase := .active id
          accepted := true
          stage := .forwarding stream
          events := operation.events ++ [.started id] }
  /-- An acknowledgment comes too late. -/
  | refuse {now stream : Nat} {id : String} (stage : operation.stage = .accepting id stream)
      (late : operation.phase = .starting → operation.accepted = true) :
      Transition operation (.step now) none { operation with stage := .releasing id stream }
  /-- An item is forwarded. -/
  | forward {now stream : Nat} {id : String} {item : Json} {response : Response α}
      {streams : List SignalStream} (stage : operation.stage = .forwarding stream)
      (phase : operation.phase = .active id) (decoded : operation.plan.decode item = .ok response)
      (kept : Handles operation (some ⟨stream, .signal (.next item), operation.phase⟩) (some stream)
        streams) :
      Transition operation (.step now) (some ⟨stream, .signal (.next item), operation.phase⟩)
        { operation with streams, events := operation.events ++ [.next response] }
  /-- A repeated acknowledgment is ignored. -/
  | repeated {now stream : Nat} {id other : String} {streams : List SignalStream}
      (stage : operation.stage = .forwarding stream) (phase : operation.phase = .active id)
      (kept : Handles operation (some ⟨stream, .signal (.started other), operation.phase⟩) (some stream)
        streams) :
      Transition operation (.step now) (some ⟨stream, .signal (.started other), operation.phase⟩)
        { operation with streams }
  /-- An item cannot be decoded. -/
  | spoil {now stream : Nat} {id : String} {item : Json} {error : DecodeError}
      {streams : List SignalStream} (stage : operation.stage = .forwarding stream)
      (phase : operation.phase = .active id)
      (undecodable : operation.plan.decode item = .error error)
      (kept : Handles operation (some ⟨stream, .signal (.next item), operation.phase⟩) (some stream)
        streams) :
      Transition operation (.step now) (some ⟨stream, .signal (.next item), operation.phase⟩)
        { operation with
          phase := .failed (some id)
          stage := .releasing id stream
          streams
          events := operation.events ++ [.error (.decode error)] }
  /-- The endpoint fails an active subscription or ends its stream. -/
  | breakOff {now stream : Nat} {id : String} {arrival : Arrival} {error : EndpointError}
      {streams : List SignalStream} (stage : operation.stage = .forwarding stream)
      (phase : operation.phase = .active id)
      (ended : arrival = .signal (.error error) ∨ arrival = .ended ∧ error = .closed)
      (kept : Handles operation (some ⟨stream, arrival, operation.phase⟩) none streams) :
      Transition operation (.step now) (some ⟨stream, arrival, operation.phase⟩)
        { operation with
          phase := .failed (some id)
          stage := .returned
          streams
          events := operation.events ++ [.error (.endpoint error)] }
  /-- The endpoint completes an active subscription. -/
  | complete {now stream : Nat} {id : String} {streams : List SignalStream}
      (stage : operation.stage = .forwarding stream) (phase : operation.phase = .active id)
      (kept : Handles operation (some ⟨stream, .signal .completed, operation.phase⟩) none streams) :
      Transition operation (.step now) (some ⟨stream, .signal .completed, operation.phase⟩)
        { operation with
          phase := .completed id
          stage := .returned
          streams
          events := operation.events ++ [.completed] }
  /-- The loop finds that the subscription is no longer active. -/
  | leave {now stream : Nat} {streams : List SignalStream}
      (stage : operation.stage = .forwarding stream) (inactive : operation.phase.activeId? = none)
      (kept : Handles operation none none streams) :
      Transition operation (.step now) none { operation with stage := .returned, streams }
  /-- The loop releases an acknowledged subscription. -/
  | release {now stream : Nat} {id : String} {streams : List SignalStream}
      (stage : operation.stage = .releasing id stream)
      (kept : Handles operation none none streams) :
      Transition operation (.step now) none
        { operation with
          stage := .returned, streams, released := operation.released ++ [id] }
  /-- An acknowledgment is read after the cancellation. -/
  | hearLate {now deadline stream : Nat} {id : String} {streams : List SignalStream}
      (stage : operation.stage = .draining deadline stream)
      (kept : Handles operation (some ⟨stream, .signal (.started id), operation.phase⟩) (some stream)
        streams) :
      Transition operation (.step now) (some ⟨stream, .signal (.started id), operation.phase⟩)
        { operation with streams, stage := .releasing id stream }
  /-- No acknowledgment comes after the cancellation. -/
  | giveUp {move : Move} {deadline stream : Nat} {read : Option Read}
      {streams : List SignalStream} (loop : move.isLoop = true)
      (stage : operation.stage = .draining deadline stream)
      (rejected : ∀ taken ∈ read, ∃ error, taken.arrival.answer? = some (.rejected error))
      (kept : Handles operation read none streams) :
      Transition operation move read { operation with stage := .returned, streams }

namespace Fails

variable {operation : Operation α} {read : Option Read} {decorations : Nat}
  {error : SubscriptionError}

theorem isSearching (fails : Fails operation read decorations error) :
    operation.stage.isSearching = true := by
  cases fails <;> simp [*, Stage.isSearching]

theorem isUsage (fails : Fails operation read decorations error) : error.isUsage = false := by
  cases fails <;> rfl

theorem rejected (fails : Fails operation read decorations error) :
    ∀ taken ∈ read, ∃ error, taken.arrival.answer? = some (.rejected error) := by
  cases fails with
  | endpoint stage rejected => simpa using ⟨_, rejected⟩
  | _ => simp

end Fails

private theorem SignalStream.arrival_eq_nothing_iff (stream : SignalStream) :
    stream.arrival = .nothing ↔ stream.hasArrival = false := by
  unfold arrival hasArrival
  cases stream.unread <;> cases stream.sending <;> simp

namespace Operation

variable {operation : Operation α} {now stream : Nat}

/-- What was read of a stream that is dropped does not matter. -/
theorem dropStream_afterRead (operation : Operation α) (stream : Nat) :
    (operation.afterRead stream).dropStream stream = operation.dropStream stream := by
  simp only [dropStream, afterRead, List.modify_modify_eq]
  rfl

private theorem arrival_eq_nothing_iff (operation : Operation α) (stream : Nat) :
    operation.arrival stream = .nothing ↔ operation.hasArrival stream = false := by
  unfold arrival hasArrival
  cases operation.streams[stream]? with
  | none => simp
  | some held => simpa using held.arrival_eq_nothing_iff

private theorem reading?_eq_none (nothing : operation.takesArrival = false) :
    operation.reading? = none := by
  simp [reading?, nothing]

private theorem reading?_of_arrival (takes : operation.takesArrival = operation.hasArrival stream)
    (held : operation.stage.stream? = some stream) (found : operation.arrival stream ≠ .nothing) :
    operation.reading? = some ⟨stream, operation.arrival stream, operation.phase⟩ := by
  have arrived : operation.hasArrival stream = true := by
    simpa [arrival_eq_nothing_iff] using found
  simp [reading?, takes, arrived, held]

/-! ### What one step does, stage by stage -/

private theorem transition_check {search : Search} (stage : operation.stage = .checking search) :
    Transition operation (.step now) none (operation.check search) := by
  unfold check
  cases phase : operation.phase with
  | starting => exact .prepare (.check stage phase)
  | _ =>
    exact .quit (by simp [phase]) (by simp [stage, Stage.isSearching]) (by simp)
      (.keep (by simp [stage, Stage.stream?]))

/-- A search that was given up meanwhile ends as one that fails, but tells nothing. -/
theorem fail_cases (operation : Operation α) (error : SubscriptionError) :
    operation.phase = .starting ∧ operation.fail error =
        { operation with phase := .failed none, events := operation.events ++ [.error error] } ∨
      operation.phase ≠ .starting ∧ operation.fail error = operation := by
  unfold fail
  cases phase : operation.phase with
  | starting => exact .inl ⟨rfl, rfl⟩
  | _ => exact .inr ⟨nofun, rfl⟩

private theorem transition_take {search : Search} (stage : operation.stage = .taking search) :
    Transition operation (.step now) none (operation.take search) := by
  have searching : operation.stage.isSearching = true := by simp [stage, Stage.isSearching]
  have loose : operation.stage.stream? = none := by simp [stage, Stage.stream?]
  have failing {error : SubscriptionError}
      (cause : Fails operation none operation.decorations error) :
      Transition operation (.step now) none ((operation.fail error).goTo .returned) := by
    obtain ⟨phase, failed⟩ | ⟨phase, failed⟩ := operation.fail_cases error
    · rw [failed]
      exact .fail phase cause (.keep loose)
    · rw [failed]
      exact .quit phase searching (by simp) (.keep loose)
  unfold take
  cases found : search.cursor.current? with
  | none =>
    by_cases tried : search.tried = 0
    · simpa only [tried, ↓reduceIte] using failing (.empty stage found tried)
    · simp only [tried, ↓reduceIte]
      exact .exhaust stage found tried
  | some item =>
    cases item with
    | error error => exact failing (.source stage found)
    | ok attempt => exact .prepare (.take stage found)

private theorem transition_lookAhead {search : Search} {attempt : Attempt}
    (stage : operation.stage = .lookingAhead search attempt) :
    Transition operation (.step now) none (operation.lookAhead search attempt) := by
  unfold lookAhead
  cases owner : attempt.decorate with
  | true => exact .prepare (.hand stage owner)
  | false => exact .prepare (.pass stage owner)

private theorem transition_decorate {search : Search} {attempt : Attempt} {more : Bool}
    (stage : operation.stage = .decorating search attempt more) :
    Transition operation (.step now) none (operation.decorate search attempt more) := by
  have searching : operation.stage.isSearching = true := by simp [stage, Stage.isSearching]
  have loose : operation.stage.stream? = none := by simp [stage, Stage.stream?]
  unfold decorate
  cases answer : operation.plan.decorator operation.decorations operation.plan.request
      attempt.type with
  | ok request =>
    simp only [answer]
    exact .prepare (.decorate stage answer)
  | error error =>
    simp only [answer]
    cases more with
    | true => exact .prepare (.skip stage answer)
    | false =>
      simp only [Bool.false_eq_true, ↓reduceIte]
      obtain ⟨phase, failed⟩ | ⟨phase, failed⟩ :=
        { operation with decorations := operation.decorations + 1 }.fail_cases (.decoration error)
      · rw [failed]
        exact .fail phase (.decoration stage answer) (.keep loose)
      · rw [failed]
        exact .quit phase searching (by simp) (.keep loose)

private theorem transition_reject {search : Search} {more : Bool} {arrival : Arrival}
    {error : EndpointError} {streams : List SignalStream}
    (stage : operation.stage = .awaiting search more stream)
    (rejected : arrival.answer? = some (.rejected error))
    (same : { operation with streams }.dropStream stream = operation.dropStream stream) :
    Transition operation (.step now) (some ⟨stream, arrival, operation.phase⟩)
      ({ operation with streams }.reject search more stream error) := by
  have searching : operation.stage.isSearching = true := by simp [stage, Stage.isSearching]
  have dropped : Handles operation (some ⟨stream, arrival, operation.phase⟩) none
      ({ operation with streams }.dropStream stream).streams := by
    rw [same]
    exact .drop (by simp [stage, Stage.stream?])
  unfold reject
  cases more with
  | true => exact .retry stage rejected dropped
  | false =>
    simp only [Bool.false_eq_true, ↓reduceIte]
    obtain ⟨phase, failed⟩ | ⟨phase, failed⟩ :=
      { operation with streams }.fail_cases (.endpoint error)
    · rw [failed]
      exact .fail phase (.endpoint stage rejected) dropped
    · rw [failed]
      exact .quit phase searching (by simpa using ⟨error, rejected⟩) dropped

private theorem transition_await {search : Search} {more : Bool}
    (stage : operation.stage = .awaiting search more stream) :
    Transition operation (.step now) operation.reading? (operation.await now search more stream) := by
  unfold await
  cases phase : operation.phase.isCanceled with
  | true =>
    rw [reading?_eq_none (by simp [takesArrival, stage, phase])]
    exact .notice stage phase
  | false =>
    simp only [Bool.false_eq_true, ↓reduceIte]
    have takes : operation.takesArrival = operation.hasArrival stream := by
      simp [takesArrival, stage, phase]
    cases found : operation.arrival stream with
    | nothing =>
      have unready := (operation.arrival_eq_nothing_iff stream).1 found
      rw [reading?_eq_none (takes.trans unready)]
      exact .wait (by simp [isReady, stage, phase, unready])
    | ended =>
      rw [reading?_of_arrival takes (by simp [stage, Stage.stream?]) (by simp [found]), found]
      exact transition_reject stage rfl rfl
    | signal signal =>
      rw [reading?_of_arrival takes (by simp [stage, Stage.stream?]) (by simp [found]), found]
      have dropped := operation.dropStream_afterRead stream
      cases signal with
      | started id => exact .hear stage phase (.read (by simp [stage, Stage.stream?]))
      | next item => exact .drop (by simp [stage, Stage.pending?]) found
      | error error => exact transition_reject stage rfl dropped
      | completed => exact transition_reject stage rfl dropped

private theorem transition_accept {id : String} (stage : operation.stage = .accepting id stream) :
    Transition operation (.step now) none (operation.accept id stream) := by
  unfold accept
  cases phase : operation.phase with
  | starting =>
    cases accepted : operation.accepted with
    | false => exact .activate stage phase accepted
    | true => exact .refuse stage fun _ => accepted
  | _ => exact .refuse stage (by simp [phase])

private theorem transition_forward (stage : operation.stage = .forwarding stream) :
    Transition operation (.step now) operation.reading? (operation.forward stream) := by
  have held : operation.stage.stream? = some stream := by simp [stage, Stage.stream?]
  unfold forward
  cases phase : operation.phase with
  | active id =>
    have takes : operation.takesArrival = operation.hasArrival stream := by
      simp [takesArrival, stage, phase, Phase.activeId?]
    cases found : operation.arrival stream with
    | nothing =>
      have unready := (operation.arrival_eq_nothing_iff stream).1 found
      rw [reading?_eq_none (takes.trans unready)]
      exact .wait (by simp [isReady, stage, phase, unready, Phase.activeId?])
    | ended =>
      rw [reading?_of_arrival takes held (by simp [found]), found]
      exact .breakOff stage phase (.inr ⟨rfl, rfl⟩) (.drop held)
    | signal signal =>
      rw [reading?_of_arrival takes held (by simp [found]), found]
      have dropped {read : Option Read} :
          Handles operation read none ((operation.afterRead stream).dropStream stream).streams := by
        rw [dropStream_afterRead]
        exact .drop held
      cases signal with
      | started other => exact .repeated stage phase (.read held)
      | error error => exact .breakOff stage phase (.inl rfl) dropped
      | completed => exact .complete stage phase dropped
      | next item =>
        simp only [forwardItem]
        cases decoded : operation.plan.decode item with
        | ok response =>
          simp only [afterRead, decoded]
          exact .forward stage phase decoded (.read held)
        | error error =>
          simp only [afterRead, decoded]
          exact .spoil stage phase decoded (.read held)
  | _ =>
    rw [reading?_eq_none (by simp [takesArrival, stage, phase, Phase.activeId?])]
    exact .leave stage (by simp [phase, Phase.activeId?]) (.drop held)

private theorem transition_drain {deadline : Nat} (stage : operation.stage = .draining deadline stream) :
    Transition operation (.step now) operation.reading? (operation.drain now deadline stream) := by
  have takes : operation.takesArrival = operation.hasArrival stream := by
    simp [takesArrival, stage]
  have held : operation.stage.stream? = some stream := by simp [stage, Stage.stream?]
  unfold drain
  cases found : operation.arrival stream with
  | nothing =>
    have unready := (operation.arrival_eq_nothing_iff stream).1 found
    rw [reading?_eq_none (takes.trans unready)]
    by_cases past : deadline ≤ now
    · simp only [past, ↓reduceIte]
      exact .giveUp rfl stage (by simp) (.drop held)
    · simp only [past, ↓reduceIte]
      exact .wait (by simp [isReady, stage, unready, past])
  | ended =>
    rw [reading?_of_arrival takes held (by simp [found]), found]
    exact .giveUp rfl stage (by simp [Arrival.answer?]) (.drop held)
  | signal signal =>
    rw [reading?_of_arrival takes held (by simp [found]), found]
    cases signal with
    | started id => exact .hearLate stage (.read held)
    | next item => exact .drop (by simp [stage, Stage.pending?]) found
    | error error => exact .giveUp rfl stage (by simp [Arrival.answer?]) (.drop held)
    | completed => exact .giveUp rfl stage (by simp [Arrival.answer?]) (.drop held)

private theorem transition_step (operation : Operation α) (now : Nat) :
    Transition operation (.step now) operation.reading? (operation.step now) := by
  have unread (nothing : operation.takesArrival = false) {next : Operation α}
      (turned : Transition operation (.step now) none next) :
      Transition operation (.step now) operation.reading? next := by
    rwa [reading?_eq_none nothing]
  unfold step
  cases stage : operation.stage with
  | unbegun => exact unread (by simp [takesArrival, stage]) (.wait (by simp [isReady, stage]))
  | checking search => exact unread (by simp [takesArrival, stage]) (transition_check stage)
  | taking search => exact unread (by simp [takesArrival, stage]) (transition_take stage)
  | lookingAhead search attempt =>
    exact unread (by simp [takesArrival, stage]) (transition_lookAhead stage)
  | decorating search attempt more =>
    exact unread (by simp [takesArrival, stage]) (transition_decorate stage)
  | calling search call more => exact unread (by simp [takesArrival, stage]) (.call stage)
  | awaiting search more stream => exact transition_await stage
  | accepting id stream => exact unread (by simp [takesArrival, stage]) (transition_accept stage)
  | forwarding stream => exact transition_forward stage
  | releasing id stream =>
    exact unread (by simp [takesArrival, stage])
      (.release stage (.drop (by simp [stage, Stage.stream?])))
  | draining deadline stream => exact transition_drain stage
  | returned => exact unread (by simp [takesArrival, stage]) (.wait (by simp [isReady, stage]))

private theorem transition_start (operation : Operation α) :
    Transition operation .start none operation.start := by
  unfold start
  split
  case h_1 phase source => exact .begin phase source
  case h_2 phase => exact .misuse _ (by simp [phase])
  case h_3 unheld =>
    refine .misuse _ fun idle => Option.eq_none_iff_forall_ne_some.2 ?_
    intro candidates source
    exact unheld candidates idle source

private theorem transition_beginCancel (operation : Operation α) :
    Transition operation .beginCancel none operation.beginCancel := by
  unfold beginCancel
  cases phase : operation.phase with
  | idle => exact .abandon phase
  | starting => exact .forsake phase
  | active id => exact .cancel phase
  | _ => exact .cancelAgain (by simp [state, phase, Phase.state, SubscriptionState.isTerminal])

private theorem transition_finishCancel (operation : Operation α) (answer : Except EndpointError Unit) :
    Transition operation (.finishCancel answer) none (operation.finishCancel answer) := by
  unfold finishCancel
  cases canceling : operation.canceling with
  | none => exact .finishNothing answer canceling
  | some id =>
    cases answer with
    | ok _ => simpa [releaseReport] using Transition.finishCancel (.ok ()) canceling
    | error error => exact .finishCancel (.error error) canceling

private theorem transition_expire (operation : Operation α) (now : Nat) :
    Transition operation (.expire now) none (operation.expire now) := by
  unfold expire
  cases stage : operation.stage with
  | draining deadline stream =>
    by_cases past : deadline ≤ now
    · simp only [past, ↓reduceIte]
      exact .giveUp rfl stage (by simp) (.drop (by simp [stage, Stage.stream?]))
    · simp only [past, ↓reduceIte]
      exact .hold now
  | _ => exact .hold now

/-- Every move is one of the listed changes. -/
theorem transition_apply (operation : Operation α) (move : Move) :
    Transition operation move (operation.readBy move) (operation.apply move) := by
  cases move with
  | start => exact transition_start operation
  | beginCancel => exact transition_beginCancel operation
  | finishCancel answer => exact transition_finishCancel operation answer
  | deliver attempt signal => exact .deliver attempt signal
  | hangUp attempt => exact .hangUp attempt
  | step now => exact transition_step operation now
  | expire now => exact transition_expire operation now

/-- What every change keeps holds along a run. -/
theorem run_induction {motive : Operation α → Prop}
    (kept : ∀ {operation move read next}, Transition operation move read next → motive operation →
      motive next) (initial : motive operation) (moves : List Move) :
    motive (operation.run moves) := by
  induction moves generalizing operation with
  | nil => exact initial
  | cons move rest ih => exact ih (kept (operation.transition_apply move) initial)

end Operation

end ModelSync
