import ModelSync.Scenario.Setup

/-! Running a scenario. Loops run in the background only while the world settles: then each
woken loop in turn steps until it waits, or until it has read so much that the others come
first. The clock stands still unless it is moved. -/
namespace ModelSync.Scenario

/-- How much a loop reads before it lets the others run. -/
def readsPerTurn : Nat := 128

/-- What an action gives back. -/
inductive Outcome where
  | nothing
  | count (value : Nat)
  | flag (value : Bool)
  | text (value : String)
  | buildFailed (error : BuildError)
  | failed (error : SubscriptionError)

/-- Points at which the latest subscription is canceled from inside a running loop. -/
structure Hooks where
  /-- At the moment the candidate at a position is produced. -/
  atCandidate : Nat → Bool := fun _ => false
  /-- Before the decoration of a number. -/
  atDecoration : List Nat := []

/-- What a scenario knows of a subscription besides its operation. -/
structure Sub where
  hooks : Hooks
  holdsHandle : Bool := true
  holdsEvents : Bool := true
  /-- How many events were reported. -/
  reported : Nat := 0

/-- The state of a running scenario. -/
structure World where
  client : Client Json
  subs : List Sub := []
  script : List Reaction
  clock : Nat := 0
  /-- Subscriptions whose loop was woken, in the order of waking. The first one runs. -/
  woken : List Nat := []
  /-- How much the running loop has read in its turn. -/
  reads : Nat := 0
  /-- Subscriptions whose loop has read enough for now, the latest one first. They are
  woken when no other loop is. -/
  resting : List Nat := []
  /-- The subscription that hooks cancel. -/
  latest : Option Nat := none
  reportedCalls : Nat := 0
  reportedReleases : Nat := 0

namespace World

/-- Wake every loop that has something to do. -/
def wake (world : World) : World :=
  let ready := (List.range world.client.operations.length).filter fun id =>
    (world.client.operation? id).any (Operation.isReady world.clock) &&
      !world.woken.contains id && !world.resting.contains id
  { world with woken := world.woken ++ ready }

/-- Change the client and wake the loops that this concerns. -/
def change (world : World) (client : Client Json) : World := { world with client }.wake

/-- Cancel the latest subscription, if hooks still reach it. -/
def cancelLatest (world : World) : World :=
  match world.latest with
  | some id => world.change (world.client.cancel id)
  | none => world

/-! ## Settling -/

/-- A hook is due before the next step of a subscription. -/
def hookDue (world : World) (id : Nat) : Bool :=
  match world.subs[id]?, world.client.operation? id with
  | some sub, some operation =>
    match operation.stage with
    | .taking search | .lookingAhead search _ =>
      !search.cursor.produced && sub.hooks.atCandidate search.cursor.position
    | .decorating _ _ _ => sub.hooks.atDecoration.contains operation.decorations
    | _ => false
  | _, _ => false

/-- The endpoint reacts to a call. -/
def react (world : World) (call : EndpointCall) : World :=
  let reaction := world.script.headD {}
  let scripted := { world with script := world.script.tail }
  let sent := scripted.change
    (reaction.signals.foldl (fun client signal => client.deliver call signal) scripted.client)
  let canceled := if reaction.cancels then sent.cancelLatest else sent
  if reaction.hangsUp then canceled.change (canceled.client.hangUp call) else canceled

/-- One step of a loop, with what it sets off. -/
def runStep (world : World) (id : Nat) : World :=
  let hooked := if world.hookDue id then world.cancelLatest else world
  let taken := if (world.client.operation? id).any Operation.takesArrival then 1 else 0
  let stepped := { hooked with reads := hooked.reads + taken }.change
    (hooked.client.step hooked.clock id)
  (stepped.client.endpointCalls.drop hooked.client.endpointCalls.length).foldl react stepped

/-- The running loop has to let the others run before it looks at a stream. -/
def turnIsOver (world : World) (id : Nat) : Bool :=
  readsPerTurn ≤ world.reads && (world.client.operation? id).any Operation.isReading

/-- The first woken loop waits or has ended; the next one gets its turn. -/
def endTurn (world : World) : World := { world with woken := world.woken.tail, reads := 0 }

/-- The first woken loop rests, unless it only waits for a time that is over. -/
def rest (world : World) (id : Nat) : World :=
  let expired := { world with client := world.client.expire world.clock id }.endTurn
  if (expired.client.operation? id).any Operation.isRunning then
    { expired with resting := id :: expired.resting }
  else expired

/-- Run the first woken loop a step further, or let the next one run. -/
def settleStep (world : World) : World :=
  match world.woken with
  | [] => { world with woken := world.resting, resting := [] }
  | id :: _ =>
    if world.turnIsOver id then world.rest id
    else if (world.client.operation? id).any (Operation.isReady world.clock) then world.runStep id
    else world.endTurn

/-- Let all loops run until they wait, for a bounded number of steps. -/
def settle : Nat → World → World
  | 0, world => world
  | bound + 1, world =>
    if world.woken.isEmpty && world.resting.isEmpty then world else settle bound world.settleStep

/-! ## Actions -/

/-- A new subscription is the one that hooks cancel. -/
def withSub (world : World) (client : Client Json) (hooks : Hooks) : World :=
  { world with
    client
    subs := world.subs ++ [{ hooks }]
    latest := some (client.operations.length - 1) }

/-- The handle of a subscription was not dropped. -/
def holdsHandle (world : World) (id : Nat) : Bool := (world.subs[id]?).any Sub.holdsHandle

/-- The call of a number, or the latest one. -/
def call? (world : World) (number : Option Nat) : Option EndpointCall :=
  match number with
  | some number => world.client.endpointCalls[number]?
  | none => world.client.endpointCalls.getLast?

/-- The endpoint still holds its end of a call's stream. -/
def isSending (world : World) (call : EndpointCall) : Bool :=
  ((world.client.operation? call.subscription).bind fun operation =>
    operation.streams[call.attempt]?).any SignalStream.sending

/-- Send a signal several times. Either all are taken or none. -/
def push (world : World) (call : EndpointCall) (signal : Signal) (times : Nat) :
    World × Outcome :=
  if world.client.accepts call then
    (world.change
      ((List.replicate times signal).foldl (fun client sent => client.deliver call sent)
        world.client), .count times)
  else (world, .count 0)

/-- Carry out an action, without letting the background run. `bound` limits the settling
that comes before the clock is moved. -/
def act (bound : Nat) (world : World) : Action → World × Outcome
  | .build schema feed candidates decode cancelsAtDecoration =>
    match schema.subscriptionRequest feed with
    | .error error => (world, .buildFailed error)
    | .ok request =>
      match Operation.ofParts
          { request := some request
            candidates := some candidates.source
            decorator := world.client.decoratorFor schema
            hasEndpoint := true
            hasRuntime := true
            decode } with
      | .error error => (world, .failed error)
      | .ok operation =>
        (world.withSub (world.client.add operation)
          ⟨candidates.cancelsAt, cancelsAtDecoration⟩, .nothing)
  | .subscribe schema feed decode =>
    match world.client.subscribe schema feed decode with
    | .error error => (world, .failed error)
    | .ok client => (world.withSub client {}, .nothing)
  | .start id =>
    if world.holdsHandle id then (world.change (world.client.start id), .nothing)
    else (world, .nothing)
  | .cancel id =>
    if world.holdsHandle id then (world.change (world.client.cancel id), .nothing)
    else (world, .nothing)
  | .dropHandle id =>
    ({ world with
       subs := world.subs.modify id ({ · with holdsHandle := false })
       latest := none }, .nothing)
  | .dropEvents id =>
    ({ world with subs := world.subs.modify id ({ · with holdsEvents := false }) }, .nothing)
  | .push signal number times =>
    match world.call? number with
    | some call => world.push call signal times
    | none => (world, .count 0)
  | .close number =>
    match world.call? number with
    | some call => (world.change (world.client.hangUp call), .flag (world.isSending call))
    | none => (world, .nothing)
  | .advance milliseconds =>
    let settled := settle bound world
    ({ settled with clock := settled.clock + milliseconds }.wake, .nothing)
  | .settle => (world, .nothing)
  | .shutdown =>
    let (client, canceled) := world.client.shutdown
    (world.change client, .count canceled)
  | .prune =>
    let (client, removed) := world.client.prune
    (world.change client, .count removed)
  | .register id =>
    if world.holdsHandle id then ({ world with client := world.client.register id }, .flag true)
    else (world, .flag false)
  | .unregister id =>
    ({ world with client := world.client.unregister id }, .flag (world.client.isRegistered id))
  | .registryState id => (world, registryOutcome id)
  | .unknownRegistryState => (world, registryOutcome world.client.operations.length)
  | .candidatesFor schema => (world, .text (world.client.candidatesFor schema).describe)
where
  /-- The name of a tracked subscription's state. -/
  registryOutcome (id : Nat) : Outcome :=
    match world.client.registeredState? id with
    | some state => .text state.name
    | none => .nothing

end World

end ModelSync.Scenario
