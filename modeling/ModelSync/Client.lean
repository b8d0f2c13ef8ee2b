import ModelSync.Config
import ModelSync.Request.Builders
import ModelSync.Subscription.Operation

/-! A client with all subscriptions it ever opened. A registry names those that are tracked
for shutdown. Every change goes to one subscription, and the client keeps the order of the
calls that its subscriptions make to the endpoint. -/
namespace ModelSync

variable {α : Type}

/-- The endpoint's answer to a release, given the number of releases before it. -/
abbrev ReleaseAnswers := Nat → String → Except EndpointError Unit

/-- A call of the endpoint: which subscription made it, and as which of its attempts. -/
structure EndpointCall where
  subscription : Nat
  attempt : Nat
deriving DecidableEq

/-- A client. Subscriptions are numbered in the order they were opened. -/
structure Client (α : Type) where
  config : Config
  /-- The caller's claims, where owners are to be named. -/
  claims : Option Claims
  answers : ReleaseAnswers
  operations : List (Operation α) := []
  /-- The tracked subscriptions in the order of their registration. -/
  registry : List Nat := []
  endpointCalls : List EndpointCall := []
  released : List String := []

namespace Client

def operation? (client : Client α) (id : Nat) : Option (Operation α) := client.operations[id]?

/-- The calls that a change of a subscription has added. -/
private def callsBetween (id : Nat) (before after : Operation α) : List EndpointCall :=
  ((List.range after.calls.length).drop before.calls.length).map fun attempt => ⟨id, attempt⟩

/-- Change one subscription, and note what it asked of the endpoint. -/
def update (client : Client α) (id : Nat) (change : Operation α → Operation α) : Client α :=
  match client.operations[id]? with
  | none => client
  | some before =>
    let after := change before
    { client with
      operations := client.operations.set id after
      endpointCalls := client.endpointCalls ++ callsBetween id before after
      released := client.released ++ after.released.drop before.released.length }

/-- Open a subscription without tracking it. -/
def add (client : Client α) (operation : Operation α) : Client α :=
  { client with operations := client.operations ++ [operation] }

def start (client : Client α) (id : Nat) : Client α := client.update id Operation.start

/-- Cancel a subscription; the endpoint answers a release by how many came before. -/
def cancel (client : Client α) (id : Nat) : Client α :=
  client.update id fun operation =>
    let begun := operation.beginCancel
    match begun.canceling with
    | some subscription =>
      begun.finishCancel (client.answers client.released.length subscription)
    | none => begun

/-- One step of a subscription's loop. -/
def step (now : Nat) (client : Client α) (id : Nat) : Client α :=
  client.update id (Operation.step now)

/-- A subscription's loop gives up a late acknowledgment whose time is over. -/
def expire (now : Nat) (client : Client α) (id : Nat) : Client α :=
  client.update id (Operation.expire now)

/-- A signal on the stream of a call. -/
def deliver (client : Client α) (call : EndpointCall) (signal : Signal) : Client α :=
  client.update call.subscription fun operation => operation.deliver call.attempt signal

/-- The endpoint ends the stream of a call. -/
def hangUp (client : Client α) (call : EndpointCall) : Client α :=
  client.update call.subscription fun operation => operation.hangUp call.attempt

/-- A signal sent now on the stream of a call would be taken. -/
def accepts (client : Client α) (call : EndpointCall) : Bool :=
  (client.operation? call.subscription).any fun operation => operation.accepts call.attempt

/-! ## Registry -/

def isRegistered (client : Client α) (id : Nat) : Bool := client.registry.contains id

/-- Track a subscription. -/
def register (client : Client α) (id : Nat) : Client α :=
  if client.isRegistered id then client else { client with registry := client.registry ++ [id] }

def unregister (client : Client α) (id : Nat) : Client α :=
  { client with registry := client.registry.filter (· ≠ id) }

/-- The subscription has reached a terminal state. -/
def isTerminal (client : Client α) (id : Nat) : Bool :=
  (client.operation? id).any fun operation => operation.state.isTerminal

/-- Stop tracking subscriptions that reached a terminal state. -/
def pruned (client : Client α) : Client α :=
  { client with registry := client.registry.filter fun id => !client.isTerminal id }

/-- Prune the registry. The number is that of the subscriptions no longer tracked. -/
def prune (client : Client α) : Client α × Nat :=
  (client.pruned, client.registry.length - client.pruned.registry.length)

/-- The state of a tracked subscription. -/
def registeredState? (client : Client α) (id : Nat) : Option SubscriptionState :=
  if client.isRegistered id then (client.operation? id).map Operation.state else none

/-- Cancel every tracked subscription and stop tracking them. The number is that of the
subscriptions that were tracked. -/
def cancelAll (client : Client α) : Client α × Nat :=
  ({ client.registry.foldl cancel client with registry := [] }, client.registry.length)

/-- Cancel every subscription opened by the client. -/
def shutdown (client : Client α) : Client α × Nat := client.cancelAll

/-! ## Opening subscriptions -/

/-- The candidates for a model: from its rules if it has any and the client follows them,
otherwise the configured type. -/
def candidatesFor (client : Client α) (schema : Schema) : Candidates :=
  if client.config.multiAuth && !schema.rules.isEmpty then .ofRules schema.rules
  else .fixed client.config.defaultAuthType

/-- The decorator for a model. -/
def decoratorFor (client : Client α) (schema : Schema) : Decorator :=
  match client.claims with
  | some claims => .owners schema claims
  | none => .unchanged

/-- Open and track a subscription to a change feed. It is idle until started. -/
def subscribe (client : Client α) (schema : Schema) (feed : Feed)
    (decode : Decoder (Response α)) : Except SubscriptionError (Client α) :=
  match schema.subscriptionRequest feed with
  | .error error => .error (.build error)
  | .ok request =>
    let operation :=
      Operation.make ⟨request, client.decoratorFor schema, decode⟩ (client.candidatesFor schema)
    .ok ((client.pruned.add operation).register client.operations.length)

end Client

end ModelSync
