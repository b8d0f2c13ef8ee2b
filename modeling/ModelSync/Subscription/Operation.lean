import ModelSync.Response
import ModelSync.Subscription.Phase
import ModelSync.Subscription.Stream

/-! A subscription as a state machine. The candidate loop tries candidates in order until
the endpoint acknowledges one, then forwards items until the subscription completes, fails
or is canceled. Calls of the caller (`start`, `cancel`), signals of the endpoint
(`deliver`, `hangUp`) and steps of the loop may interleave in any order; each of them is
one function on the state.

Canceling during an attempt does not drop it: the endpoint may still acknowledge it within
a window of time, and that late subscription is released. -/
namespace ModelSync

variable {α : Type}

/-- How long a canceled attempt waits for a late acknowledgment, in milliseconds. -/
def lateAckWindow : Nat := 30000

/-- What a subscription is built from. -/
structure Plan (α : Type) where
  request : Request
  decorator : Decorator
  decode : Decoder (Response α)

/-- An event told to the subscriber. -/
inductive Event (α : Type) where
  | started (id : String)
  | next (response : Response α)
  | error (error : SubscriptionError)
  | completed

/-- A call that asks the endpoint for a subscription. -/
structure Call where
  request : Request
  type : AuthType

/-- How far the candidate loop has come in its source. -/
structure Search where
  cursor : Cursor
  /-- How many attempts were taken from the source. -/
  tried : Nat := 0

/-- Where the candidate loop is. -/
inductive Stage where
  /-- The loop was never begun. -/
  | unbegun
  /-- About to check that the subscription is still starting. -/
  | checking (search : Search)
  /-- About to take the next candidate. -/
  | taking (search : Search)
  /-- About to look whether another candidate remains. -/
  | lookingAhead (search : Search) (attempt : Attempt)
  | decorating (search : Search) (attempt : Attempt) (more : Bool)
  /-- About to call the endpoint. -/
  | calling (search : Search) (call : Call) (more : Bool)
  /-- Waiting for an answer on the attempt's stream. -/
  | awaiting (search : Search) (more : Bool) (stream : Nat)
  /-- An acknowledgment was read and is about to be accepted. -/
  | accepting (id : String) (stream : Nat)
  | forwarding (stream : Nat)
  /-- About to release an acknowledged subscription. -/
  | releasing (id : String) (stream : Nat)
  /-- Waiting for a late acknowledgment. -/
  | draining (deadline : Nat) (stream : Nat)
  | returned

/-- The state of a subscription, with the history of what it told the subscriber and asked
of the endpoint. -/
structure Operation (α : Type) where
  plan : Plan α
  phase : Phase := .idle
  /-- The candidates, until `start` hands them to the loop. -/
  source : Option Candidates
  /-- An acknowledgment was accepted. -/
  accepted : Bool := false
  stage : Stage := .unbegun
  /-- How many requests were handed to the decorator. -/
  decorations : Nat := 0
  /-- The streams of the attempts, in the order of the calls. -/
  streams : List SignalStream := []
  /-- An id that a call of `cancel` is about to release. -/
  canceling : Option String := none
  events : List (Event α) := []
  calls : List Call := []
  released : List String := []

namespace Operation

/-- A subscription that was not started. -/
def make (plan : Plan α) (candidates : Candidates) : Operation α :=
  { plan, source := some candidates }

def emit (operation : Operation α) (event : Event α) : Operation α :=
  { operation with events := operation.events ++ [event] }

def state (operation : Operation α) : SubscriptionState := operation.phase.state

def subscriptionId? (operation : Operation α) : Option String := operation.phase.subscriptionId?

/-! ## Calls of the caller -/

/-- Begin trying candidates. They are taken in any case, but outside the idle phase this only
reports a wrong use. -/
def start (operation : Operation α) : Operation α :=
  match operation.phase, operation.source with
  | .idle, some candidates =>
    { operation with
      phase := .starting
      source := none
      stage := .checking ⟨⟨candidates, 0, false⟩, 0⟩ }
  | .canceled _, _ =>
    { operation with source := none }.emit (.error (.usage .canceledBeforeStart))
  | _, _ => { operation with source := none }.emit (.error (.usage .alreadyStarted))

/-- Stop the subscription. Where it was acknowledged, its release is left to
`finishCancel`; where it was starting, the loop stays to drain its attempt. -/
def beginCancel (operation : Operation α) : Operation α :=
  match operation.phase with
  | .idle => { operation with source := none, phase := .canceled none }
  | .starting => { operation with phase := .canceled none }
  | .active id => { operation with phase := .canceled (some id), canceling := some id }
  | .completed _ | .canceled _ | .failed _ => operation

/-- Release what a call of `cancel` left to release. The subscriber is told of a failed
release. -/
def finishCancel (operation : Operation α) (answer : Except EndpointError Unit) : Operation α :=
  match operation.canceling with
  | none => operation
  | some id =>
    let done := { operation with canceling := none, released := operation.released ++ [id] }
    match answer with
    | .ok () => done
    | .error error => done.emit (.error (.endpoint error))

/-- Stop the subscription, with the endpoint's answer to a release. -/
def cancel (operation : Operation α) (answer : Except EndpointError Unit) : Operation α :=
  operation.beginCancel.finishCancel answer

/-! ## Signals of the endpoint -/

/-- A signal sent now on the stream of an attempt would be taken. -/
def accepts (operation : Operation α) (attempt : Nat) : Bool :=
  (operation.streams[attempt]?).any SignalStream.accepts

/-- A signal on the stream of an attempt. -/
def deliver (operation : Operation α) (attempt : Nat) (signal : Signal) : Operation α :=
  { operation with streams := operation.streams.modify attempt (·.deliver signal) }

/-- The endpoint ends the stream of an attempt. -/
def hangUp (operation : Operation α) (attempt : Nat) : Operation α :=
  { operation with streams := operation.streams.modify attempt SignalStream.hangUp }

/-! ## Steps of the loop -/

/-- What the loop finds on a stream. -/
def arrival (operation : Operation α) (stream : Nat) : Arrival :=
  match operation.streams[stream]? with
  | some held => held.arrival
  | none => .ended

/-- The loop reads the oldest signal of a stream. -/
def afterRead (operation : Operation α) (stream : Nat) : Operation α :=
  { operation with streams := operation.streams.modify stream SignalStream.afterRead }

/-- The loop stops listening to a stream. -/
def dropStream (operation : Operation α) (stream : Nat) : Operation α :=
  { operation with streams := operation.streams.modify stream SignalStream.drop }

def goTo (operation : Operation α) (stage : Stage) : Operation α := { operation with stage }

/-- The loop ends and drops its stream. -/
def finish (operation : Operation α) (stream : Nat) : Operation α :=
  (operation.dropStream stream).goTo .returned

/-- A subscription that is still starting fails. -/
def fail (operation : Operation α) (error : SubscriptionError) : Operation α :=
  match operation.phase with
  | .starting => { operation with phase := .failed none }.emit (.error error)
  | _ => operation

/-- Check that the subscription is still starting. -/
def check (operation : Operation α) (search : Search) : Operation α :=
  match operation.phase with
  | .starting => operation.goTo (.taking search)
  | _ => operation.goTo .returned

/-- Take the next candidate. Without any candidate the subscription fails. -/
def take (operation : Operation α) (search : Search) : Operation α :=
  match search.cursor.current? with
  | some (.ok attempt) =>
    operation.goTo (.lookingAhead ⟨search.cursor.advance, search.tried + 1⟩ attempt)
  | some (.error error) => (operation.fail (.candidateSource error)).goTo .returned
  | none =>
    if search.tried = 0 then (operation.fail .authExhausted).goTo .returned
    else operation.goTo .returned

/-- Look whether another candidate remains. -/
def lookAhead (operation : Operation α) (search : Search) (attempt : Attempt) : Operation α :=
  let ahead := { search with cursor := search.cursor.lookAhead }
  let more := search.cursor.hasNext
  if attempt.decorate then operation.goTo (.decorating ahead attempt more)
  else operation.goTo (.calling ahead ⟨operation.plan.request, attempt.type⟩ more)

/-- Decorate the request. A candidate that cannot be decorated is skipped while another
one remains. -/
def decorate (operation : Operation α) (search : Search) (attempt : Attempt) (more : Bool) :
    Operation α :=
  let plan := operation.plan
  let asked := { operation with decorations := operation.decorations + 1 }
  match plan.decorator operation.decorations plan.request attempt.type with
  | .ok request => asked.goTo (.calling search ⟨request, attempt.type⟩ more)
  | .error error =>
    if more then asked.goTo (.checking search)
    else (asked.fail (.decoration error)).goTo .returned

/-- Call the endpoint, on a new stream. -/
def call (operation : Operation α) (search : Search) (call : Call) (more : Bool) : Operation α :=
  { operation with
    calls := operation.calls ++ [call]
    streams := operation.streams ++ [{}]
    stage := .awaiting search more operation.streams.length }

/-- An attempt was rejected. The next candidate is tried if one remains. -/
def reject (operation : Operation α) (search : Search) (more : Bool) (stream : Nat)
    (error : EndpointError) : Operation α :=
  if more then (operation.dropStream stream).goTo (.checking search)
  else (operation.fail (.endpoint error)).finish stream

/-- Wait for an answer to an attempt. A cancellation is noticed before any signal; items
before the acknowledgment are dropped. -/
def await (now : Nat) (operation : Operation α) (search : Search) (more : Bool) (stream : Nat) :
    Operation α :=
  if operation.phase.isCanceled then operation.goTo (.draining (now + lateAckWindow) stream)
  else
    match operation.arrival stream with
    | .nothing => operation
    | .ended => operation.reject search more stream .closed
    | .signal (.started id) => (operation.afterRead stream).goTo (.accepting id stream)
    | .signal (.next _) => operation.afterRead stream
    | .signal (.error error) => (operation.afterRead stream).reject search more stream error
    | .signal .completed => (operation.afterRead stream).reject search more stream .closed

/-- Accept an acknowledgment, unless the subscription was canceled in the meantime: then
the fresh id is released. -/
def accept (operation : Operation α) (id : String) (stream : Nat) : Operation α :=
  match operation.phase, operation.accepted with
  | .starting, false =>
    { operation with
      phase := .active id
      accepted := true
      stage := .forwarding stream }.emit (.started id)
  | _, _ => operation.goTo (.releasing id stream)

/-- An active subscription ends with an error of the endpoint. -/
def endWith (operation : Operation α) (id : String) (stream : Nat) (error : EndpointError) :
    Operation α :=
  ({ operation with phase := .failed (some id) }.emit (.error (.endpoint error))).finish stream

/-- Forward an item. One that cannot be decoded ends the subscription, which is then
released. -/
def forwardItem (operation : Operation α) (id : String) (stream : Nat) (item : Json) :
    Operation α :=
  match operation.plan.decode item with
  | .ok response => operation.emit (.next response)
  | .error error =>
    ({ operation with phase := .failed (some id) }.emit (.error (.decode error))).goTo
      (.releasing id stream)

/-- Forward one signal of an active subscription. Repeated acknowledgments are ignored.
Once the subscription is no longer active the loop ends. -/
def forward (operation : Operation α) (stream : Nat) : Operation α :=
  match operation.phase with
  | .active id =>
    match operation.arrival stream with
    | .nothing => operation
    | .ended => operation.endWith id stream .closed
    | .signal (.started _) => operation.afterRead stream
    | .signal (.next item) => (operation.afterRead stream).forwardItem id stream item
    | .signal (.error error) => (operation.afterRead stream).endWith id stream error
    | .signal .completed =>
      ({ operation.afterRead stream with phase := .completed id }.emit .completed).finish stream
  | _ => operation.finish stream

/-- Release an acknowledged subscription. The endpoint's answer does not matter. -/
def release (operation : Operation α) (id : String) (stream : Nat) : Operation α :=
  { operation with released := operation.released ++ [id] }.finish stream

/-- Wait for a late acknowledgment. What has arrived is read before the deadline is
looked at. -/
def drain (now : Nat) (operation : Operation α) (deadline stream : Nat) : Operation α :=
  match operation.arrival stream with
  | .nothing => if deadline ≤ now then operation.finish stream else operation
  | .signal (.started id) => (operation.afterRead stream).goTo (.releasing id stream)
  | .signal (.next _) => operation.afterRead stream
  | .ended | .signal (.error _) | .signal .completed => operation.finish stream

/-- Give up waiting for a late acknowledgment once its time is over, whatever is left to
read. A loop that may not read on for now does this. -/
def expire (now : Nat) (operation : Operation α) : Operation α :=
  match operation.stage with
  | .draining deadline stream => if deadline ≤ now then operation.finish stream else operation
  | _ => operation

/-- One step of the loop at a time. A loop that waits stays as it is. -/
def step (now : Nat) (operation : Operation α) : Operation α :=
  match operation.stage with
  | .unbegun | .returned => operation
  | .checking search => operation.check search
  | .taking search => operation.take search
  | .lookingAhead search attempt => operation.lookAhead search attempt
  | .decorating search attempt more => operation.decorate search attempt more
  | .calling search call more => operation.call search call more
  | .awaiting search more stream => operation.await now search more stream
  | .accepting id stream => operation.accept id stream
  | .forwarding stream => operation.forward stream
  | .releasing id stream => operation.release id stream
  | .draining deadline stream => operation.drain now deadline stream

/-- There is something to read on a stream. -/
def hasArrival (operation : Operation α) (stream : Nat) : Bool :=
  (operation.streams[stream]?).all SignalStream.hasArrival

/-- The loop has something to do at a time. -/
def isReady (now : Nat) (operation : Operation α) : Bool :=
  match operation.stage with
  | .unbegun | .returned => false
  | .awaiting _ _ stream => operation.phase.isCanceled || operation.hasArrival stream
  | .forwarding stream => operation.phase.activeId?.isNone || operation.hasArrival stream
  | .draining deadline stream => decide (deadline ≤ now) || operation.hasArrival stream
  | _ => true

/-- The next step of the loop looks at a stream. -/
def isReading (operation : Operation α) : Bool :=
  match operation.stage with
  | .awaiting _ _ _ | .draining _ _ => true
  | .forwarding _ => operation.phase.activeId?.isSome
  | _ => false

/-- The next step of the loop takes a signal, or the end, from a stream. -/
def takesArrival (operation : Operation α) : Bool :=
  match operation.stage with
  | .awaiting _ _ stream => !operation.phase.isCanceled && operation.hasArrival stream
  | .forwarding stream => operation.phase.activeId?.isSome && operation.hasArrival stream
  | .draining _ stream => operation.hasArrival stream
  | _ => false

/-- A loop exists in the background. -/
def isRunning (operation : Operation α) : Bool :=
  match operation.stage with
  | .unbegun | .returned => false
  | _ => true

/-! ## Building -/

/-- The parts of a subscription as a caller supplies them. Without a decorator requests
are left as they are. -/
structure Parts (α : Type) where
  request : Option Request := none
  candidates : Option Candidates := none
  decorator : Decorator := .unchanged
  hasEndpoint : Bool := false
  hasRuntime : Bool := false
  decode : Decoder (Response α)

/-- A part that has to be there. -/
private def needed {β : Type} (fault : UsageFault) : Option β → Except SubscriptionError β
  | some part => .ok part
  | none => .error (.usage fault)

/-- Build a subscription from its parts. -/
def ofParts (parts : Parts α) : Except SubscriptionError (Operation α) := do
  let request ← needed .missingRequest parts.request
  let candidates ← needed .missingCandidates parts.candidates
  if !parts.hasEndpoint then .error (.usage .missingEndpoint)
  else if !parts.hasRuntime then .error (.usage .missingRuntime)
  else return make ⟨request, parts.decorator, parts.decode⟩ candidates

end Operation

end ModelSync
