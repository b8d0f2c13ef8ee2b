/-! The lifecycle of a subscription. -/
namespace ModelSync

/-- The state that a caller sees. -/
inductive SubscriptionState where
  /-- Built but not started. -/
  | idle
  /-- Trying candidates. -/
  | starting
  /-- Acknowledged by the endpoint and delivering items. -/
  | active
  /-- Finished by the endpoint. -/
  | completed
  /-- Canceled by the caller. -/
  | canceled
  /-- Ended with an error. -/
  | failed
deriving DecidableEq

namespace SubscriptionState

def name : SubscriptionState → String
  | .idle => "idle"
  | .starting => "starting"
  | .active => "active"
  | .completed => "completed"
  | .canceled => "canceled"
  | .failed => "failed"

/-- States that never change again. -/
def isTerminal : SubscriptionState → Bool
  | .completed | .canceled | .failed => true
  | _ => false

end SubscriptionState

/-- The state with the id that the endpoint assigned. The id appears on activation and is
carried into the phases after it. -/
inductive Phase where
  | idle
  | starting
  | active (id : String)
  | completed (id : String)
  | canceled (id : Option String)
  | failed (id : Option String)
deriving DecidableEq

namespace Phase

def state : Phase → SubscriptionState
  | .idle => .idle
  | .starting => .starting
  | .active _ => .active
  | .completed _ => .completed
  | .canceled _ => .canceled
  | .failed _ => .failed

/-- The id assigned by the endpoint, once it has acknowledged. -/
def subscriptionId? : Phase → Option String
  | .idle | .starting => none
  | .active id | .completed id => some id
  | .canceled id | .failed id => id

/-- The id while items are delivered. -/
def activeId? : Phase → Option String
  | .active id => some id
  | _ => none

def isCanceled : Phase → Bool
  | .canceled _ => true
  | _ => false

end Phase

end ModelSync
