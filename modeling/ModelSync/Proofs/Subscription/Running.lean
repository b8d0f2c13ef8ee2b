import ModelSync.Proofs.Subscription.Answers
import ModelSync.Proofs.Subscription.Streams

/-! No subscription gets stuck. While it is starting or active its loop is there, and either goes
on or waits on the open stream of the latest attempt, where whatever the endpoint does next sets it
going again. A loop that has returned leaves a terminal state behind. -/
namespace ModelSync

variable {α : Type}

/-- The loop has something to do, and its next step does it. -/
def Operation.GoesOn (operation : Operation α) (now : Nat) : Prop :=
  operation.isReady now = true ∧ operation.step now ≠ operation

/-- A signal that is read is gone from its stream. -/
theorem Operation.afterRead_ne {operation : Operation α} {stream : Nat} {signal : Signal}
    (found : operation.arrival stream = .signal signal) :
    operation.streams.modify stream SignalStream.afterRead ≠ operation.streams := by
  intro same
  obtain ⟨held, listed, unread⟩ := Operation.waiting_of_arrival found
  have there := congrArg (·[stream]?) same
  simp only [List.getElem?_modify, listed, Option.map_eq_map, Option.map_some, ↓reduceIte,
    Option.some.injEq] at there
  have length := congrArg (·.unread.length) there
  have unempty := List.length_pos_of_mem unread
  simp only [SignalStream.afterRead, List.length_tail] at length
  omega

/-- A step of a loop that is ready is not in vain. -/
theorem Transition.ne_of_ready {operation next : Operation α} {now : Nat} {read : Option Read}
    (turned : Transition operation (.step now) read next)
    (moved : operation.readBy (.step now) = read) (ready : operation.isReady now = true) :
    next ≠ operation := by
  intro same
  have stage := congrArg Operation.stage same
  have streams := congrArg Operation.streams same
  have events := congrArg Operation.events same
  cases turned with
  | wait unready => simp [unready] at ready
  | drop pending found => exact Operation.afterRead_ne found streams
  | repeated forwarding phase kept =>
    cases kept with
    | read => exact Operation.afterRead_ne (Operation.readBy_eq_some moved).2.1 streams
  | forward => simp at events
  | prepare prepared => cases prepared <;> simp_all
  | quit phase searching =>
    rw [← stage] at searching
    cases searching
  | _ => simp_all

private theorem Operation.goesOn_of_ready {operation : Operation α} {now : Nat}
    (ready : operation.isReady now = true) : operation.GoesOn now :=
  ⟨ready, (operation.transition_apply (.step now)).ne_of_ready rfl ready⟩

/-- The loop waits on the stream of the latest attempt. Both ends are held, and nothing is there
to be read. -/
structure Operation.Waits (operation : Operation α) (stream : Nat) : Prop where
  reads : operation.stage.stream? = some stream ∧ operation.isReading = true
  latest : stream + 1 = operation.calls.length
  quiet : operation.streams[stream]? = some ⟨[], true, true⟩

namespace Operation.Waits

variable {operation : Operation α} {stream : Nat}

/-- A loop that could read if there were something to read is ready once there is. -/
theorem isReady_of_hasArrival {now : Nat} (held : operation.stage.stream? = some stream)
    (reads : operation.isReading = true) (arrived : operation.hasArrival stream = true) :
    operation.isReady now = true := by
  cases stage : operation.stage <;> simp_all [isReading, isReady, Stage.stream?]

private theorem goesOn_deliver (waits : operation.Waits stream) (signal : Signal) (now : Nat) :
    (operation.deliver stream signal).GoesOn now := by
  apply goesOn_of_ready
  refine isReady_of_hasArrival waits.reads.1 waits.reads.2 ?_
  simp [hasArrival, deliver, waits.quiet, SignalStream.deliver, SignalStream.accepts,
    SignalStream.hasArrival]

private theorem goesOn_hangUp (waits : operation.Waits stream) (now : Nat) :
    (operation.hangUp stream).GoesOn now := by
  apply goesOn_of_ready
  refine isReady_of_hasArrival waits.reads.1 waits.reads.2 ?_
  simp [hasArrival, hangUp, waits.quiet, SignalStream.hangUp, SignalStream.hasArrival]

end Operation.Waits

/-- A stream on which nothing arrives is empty, and the endpoint holds its end. -/
theorem SignalStream.quiet_of_hasArrival {stream : SignalStream}
    (nothing : stream.hasArrival = false) (listening : stream.listening = true) :
    stream = ⟨[], true, true⟩ := by
  obtain ⟨unread, sending, heard⟩ := stream
  simp_all [hasArrival]

namespace Operation

/-- Where the loop holds a stream on which nothing arrives, it waits. -/
theorem waits_of_quiet (plan : Plan α) (candidates : Candidates) (moves : List Move) {stream : Nat}
    (held : ((make plan candidates).run moves).stage.stream? = some stream)
    (reads : ((make plan candidates).run moves).isReading = true)
    (nothing : ((make plan candidates).run moves).hasArrival stream = false) :
    ((make plan candidates).run moves).Waits stream := by
  have latest := (heard_run plan candidates moves).latest stream held
  obtain ⟨left, found⟩ : ∃ left, ((make plan candidates).run moves).streams[stream]? = some left :=
    ⟨_, List.getElem?_eq_getElem (by omega)⟩
  have listening := (attended_run plan candidates moves stream left found).2 held
  have silent : left.hasArrival = false := by simpa [hasArrival, found] using nothing
  rw [SignalStream.quiet_of_hasArrival silent listening] at found
  exact ⟨⟨held, reads⟩, by rw [calls_length, latest], found⟩

end Operation

/-- The loop of a subscription that is not over has begun and has not returned. -/
theorem Coherent.isRunning {operation : Operation α} (coherent : Coherent operation)
    (alive : operation.state = .starting ∨ operation.state = .active) :
    operation.isRunning = true := by
  have suited := coherent.suited
  unfold Operation.state at alive
  cases stage : operation.stage with
  | unbegun =>
    rw [stage] at suited
    rcases suited with idle | canceled
    · simp [idle, Phase.state] at alive
    · simp [canceled, Phase.state] at alive
  | returned =>
    rw [stage] at suited
    have ended : operation.phase.state.isTerminal = true := suited
    rcases alive with starting | active
    · simp [starting, SubscriptionState.isTerminal] at ended
    · simp [active, SubscriptionState.isTerminal] at ended
  | _ => simp [Operation.isRunning, stage]

namespace Operation

/-- A loop that is not ready has a stream to read on which nothing arrives. -/
theorem reads_of_unready {operation : Operation α} {now : Nat} (coherent : Coherent operation)
    (alive : operation.state = .starting ∨ operation.state = .active)
    (unready : operation.isReady now = false) :
    ∃ stream, operation.stage.stream? = some stream ∧ operation.isReading = true ∧
      operation.hasArrival stream = false := by
  have suited := coherent.suited
  have running := coherent.isRunning alive
  cases stage : operation.stage with
  | awaiting search more stream =>
    have quiet : operation.hasArrival stream = false := by simp_all [isReady]
    exact ⟨stream, rfl, by simp [isReading, stage], quiet⟩
  | forwarding stream =>
    have active : operation.phase.activeId?.isSome = true := by
      cases active : operation.phase.activeId? <;> simp_all [isReady]
    have quiet : operation.hasArrival stream = false := by simp_all [isReady]
    exact ⟨stream, rfl, by simpa [isReading, stage] using active, quiet⟩
  | draining deadline stream =>
    rw [stage] at suited
    have canceled : operation.phase = .canceled none := suited
    simp [state, canceled, Phase.state] at alive
  | unbegun | returned => simp [isRunning, stage] at running
  | _ => simp [isReady, stage] at unready

/-- A subscription that is starting or active has a loop, which goes on with its next step or waits
on the stream of the latest attempt, and then goes on as soon as the endpoint sends anything there or
ends it. A loop that has returned leaves a terminal state. The loop only finds its source
exhausted if there never was a candidate. -/
theorem loop_goes_on (plan : Plan α) (candidates : Candidates) (moves : List Move) :
    let operation := (make plan candidates).run moves
    (operation.state = .starting ∨ operation.state = .active →
      operation.isRunning = true ∧
        ((∀ now, operation.GoesOn now) ∨
          ∃ stream, operation.Waits stream ∧
            ∀ now, (operation.hangUp stream).GoesOn now ∧
              ∀ signal, (operation.deliver stream signal).GoesOn now)) ∧
      (operation.stage = .returned → operation.state.isTerminal = true) ∧
      ∀ search, operation.stage = .taking search → search.cursor.current? = none →
        search.tried = 0 := by
  intro operation
  have coherent : Coherent operation := coherent_run plan candidates moves
  refine ⟨fun alive => ⟨coherent.isRunning alive, ?_⟩, fun returned => ?_, ?_⟩
  · by_cases ready : ∀ now, operation.isReady now = true
    · exact .inl fun now => goesOn_of_ready (ready now)
    · obtain ⟨now, unready⟩ := not_forall.1 ready
      obtain ⟨stream, held, reads, nothing⟩ :=
        reads_of_unready coherent alive (Bool.eq_false_iff.2 unready)
      have waits := waits_of_quiet plan candidates moves held reads nothing
      exact .inr ⟨stream, waits, fun later => ⟨waits.goesOn_hangUp later,
        fun signal => waits.goesOn_deliver signal later⟩⟩
  · have suited := coherent.suited
    rw [returned] at suited
    exact suited
  · intro search taking exhausted
    have ahead := coherent.ahead
    rw [taking] at ahead
    refine Classical.byContradiction fun tried => ?_
    have another := ahead tried
    simp [Cursor.hasNext, exhausted] at another

/-- The moves of a subscription whose first candidate is rejected, until the loop has called the
endpoint for its second one. -/
def secondAttempt : List Move :=
  [.start, .step 0, .step 0, .step 0, .step 0, .hangUp 0, .step 0, .step 0, .step 0, .step 0, .step 0]

theorem waits_for_second :
    let source := Candidates.ofList [.ok ⟨.apiKey, .anyone⟩, .ok ⟨.awsIam, .signedIn⟩]
    let operation := (make samplePlan source).run secondAttempt
    operation.state = .starting ∧ operation.isReady 0 = false ∧
      ∃ stream, operation.Waits stream ∧
        ∀ now, (operation.hangUp stream).GoesOn now ∧
          ∀ signal, (operation.deliver stream signal).GoesOn now := by
  intro source operation
  have starting : operation.state = .starting := by decide
  have unready : operation.isReady 0 = false := by decide
  obtain ⟨_, ready | waits⟩ := (loop_goes_on samplePlan source secondAttempt).1 (.inl starting)
  · exact absurd (ready 0).1 (Bool.eq_false_iff.1 unready)
  · exact ⟨starting, unready, waits⟩

end Operation

end ModelSync
