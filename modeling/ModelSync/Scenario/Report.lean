import ModelSync.Scenario.World

/-! What is seen of a scenario: after each step the outcome of its action, what was asked
of the endpoint, and the state and new events of every subscription. -/
namespace ModelSync.Scenario

/-- What is seen of a subscription after a step. -/
structure SubReport where
  /-- Unknown once the handle was dropped. -/
  state : Option SubscriptionState
  id : Option String
  /-- Events since the last report. -/
  events : List (Event Json)
  /-- Whether the events have ended, where the reader can tell. -/
  closed : Option Bool

/-- What is seen after a step. -/
structure Report where
  outcome : Outcome
  /-- Calls of the endpoint since the last report. -/
  calls : List Call
  /-- Ids released since the last report, in ascending order. -/
  released : List String
  tracked : Nat
  subs : List SubReport

namespace World

/-- The call that a subscription made. -/
private def callOf? (world : World) (call : EndpointCall) : Option Call :=
  (world.client.operation? call.subscription).bind fun operation => operation.calls[call.attempt]?

/-- Nothing holds the subscription any more: no handle, no registry, no loop. -/
private def isGone (world : World) (id : Nat) (sub : Sub) (operation : Operation Json) : Bool :=
  !sub.holdsHandle && !world.client.isRegistered id && !operation.isRunning

private def subReport (world : World) (reader : Reader) (id : Nat) (sub : Sub)
    (operation : Operation Json) : SubReport where
  state := if sub.holdsHandle then some operation.state else none
  id := if sub.holdsHandle then operation.subscriptionId? else none
  events := if sub.holdsEvents then operation.events.drop sub.reported else []
  closed :=
    if sub.holdsEvents && reader == .waiting then some (world.isGone id sub operation) else none

/-- What is seen of a world. -/
def report (world : World) (reader : Reader) (outcome : Outcome) : Report where
  outcome
  calls := (world.client.endpointCalls.drop world.reportedCalls).filterMap world.callOf?
  released := (world.client.released.drop world.reportedReleases).mergeSort fun a b => a ≤ b
  tracked := world.client.registry.length
  subs := (world.subs.zip world.client.operations).mapIdx fun id (sub, operation) =>
    world.subReport reader id sub operation

/-- The world once everything in it was reported. -/
def reported (world : World) : World :=
  { world with
    subs := (world.subs.zip world.client.operations).map fun (sub, operation) =>
      { sub with reported := operation.events.length }
    reportedCalls := world.client.endpointCalls.length
    reportedReleases := world.client.released.length }

end World

namespace Setup

/-- The world before the first step. -/
def world (setup : Setup) : World where
  client :=
    { config := setup.config
      claims := setup.claims
      answers := fun number _ =>
        match setup.releases[number]? with
        | some (some error) => .error error
        | _ => .ok () }
  script := setup.script

/-- The reports after each step from a world. -/
def reportsFrom (bound : Nat) (reader : Reader) : World → List Step → List Report
  | _, [] => []
  | world, step :: rest =>
    let (acted, outcome) := world.act bound step.action
    let settled := if step.settles then World.settle bound acted else acted
    settled.report reader outcome :: reportsFrom bound reader settled.reported rest

/-- The reports after each step. -/
def reports (setup : Setup) : List Report :=
  reportsFrom setup.bound setup.reader setup.world setup.steps

end Setup

end ModelSync.Scenario
