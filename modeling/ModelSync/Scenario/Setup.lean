import ModelSync.Client

/-! Scenarios: what happens to the subscriptions of one client, and how the endpoint
behaves, written down in advance. -/
namespace ModelSync.Scenario

/-- What the endpoint does on one call. -/
structure Reaction where
  /-- Signals sent at once. -/
  signals : List Signal := []
  /-- The latest subscription is canceled from inside the call. -/
  cancels : Bool := false
  /-- The stream is ended after the signals. -/
  hangsUp : Bool := false

/-- A listed candidate. Producing it may cancel the latest subscription. -/
structure CandidateEntry where
  item : CandidateItem
  cancels : Bool := false

/-- Where candidates come from. -/
inductive CandidateScript where
  | fixed (type : AuthType)
  | rules (declared : List AuthRule)
  | list (entries : List CandidateEntry) (repeats : Bool)

namespace CandidateScript

/-- The candidates as a subscription takes them. -/
def source : CandidateScript → Candidates
  | .fixed type => .fixed type
  | .rules declared => .ofRules declared
  | .list entries false => .ofList (entries.map CandidateEntry.item)
  | .list entries true => .cycle (entries.map CandidateEntry.item)

/-- Producing the candidate at a position cancels the latest subscription. -/
def cancelsAt : CandidateScript → Nat → Bool
  | .list entries false, position => (entries[position]?).any CandidateEntry.cancels
  | .list entries true, position =>
    (entries[position % entries.length]?).any CandidateEntry.cancels
  | _, _ => false

/-- How many different candidates there are at most. -/
def size : CandidateScript → Nat
  | .fixed _ => 1
  | .rules declared => declared.length
  | .list entries _ => entries.length

end CandidateScript

/-- An action on the client, a subscription or the endpoint. -/
inductive Action where
  /-- Open a subscription without tracking it. Before the decorations of the given
  numbers the latest subscription is canceled. -/
  | build (schema : Schema) (feed : Feed) (candidates : CandidateScript)
      (decode : Decoder (Response Json)) (cancelsAtDecoration : List Nat)
  | subscribe (schema : Schema) (feed : Feed) (decode : Decoder (Response Json))
  | start (sub : Nat)
  | cancel (sub : Nat)
  | dropHandle (sub : Nat)
  | dropEvents (sub : Nat)
  /-- Send a signal a number of times, on the latest call's stream unless one is named. -/
  | push (signal : Signal) (call : Option Nat) (times : Nat)
  | close (call : Option Nat)
  | advance (milliseconds : Nat)
  | settle
  | shutdown
  | prune
  | register (sub : Nat)
  | unregister (sub : Nat)
  | registryState (sub : Nat)
  /-- Ask the registry for an id that was never given. -/
  | unknownRegistryState
  | candidatesFor (schema : Schema)

/-- How much work an action can give to the loops. -/
def Action.size : Action → Nat
  | .build _ _ candidates _ _ => candidates.size + 1
  | .subscribe schema _ _ => schema.rules.length + 2
  | .push _ _ times => times + 1
  | _ => 1

/-- An action, after which the background may be left as it is. -/
structure Step where
  action : Action
  settles : Bool := true

/-- How events are read. Only a waiting reader learns that no more will come. -/
inductive Reader where
  | polling
  | waiting
deriving DecidableEq

/-- A whole scenario. -/
structure Setup where
  config : Config
  claims : Option Claims
  /-- Reactions to the calls, in order. Later calls get no reaction. -/
  script : List Reaction
  /-- Answers to the releases, in order. Later releases succeed. -/
  releases : List (Option EndpointError)
  reader : Reader
  steps : List Step

/-- How much work a scenario gives to the loops. -/
def Setup.size (setup : Setup) : Nat :=
  setup.script.foldl (fun total reaction => total + reaction.signals.length + 1) 0 +
    setup.steps.foldl (fun total step => total + step.action.size) 0

/-- More steps than the loops can take before they wait, unless candidates that cannot be
decorated are repeated without end. An attempt uses up a reaction or a pushed signal, and
is preceded by at most every candidate once. -/
def Setup.bound (setup : Setup) : Nat := 16 * (setup.size + 1) * (setup.size + 1)

end ModelSync.Scenario
