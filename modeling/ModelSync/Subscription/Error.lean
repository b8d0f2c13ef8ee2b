import ModelSync.BuildError
import ModelSync.Decoration
import ModelSync.Json.Decode

/-! What can go wrong with a subscription. -/
namespace ModelSync

/-- A failure reported by the endpoint. -/
inductive EndpointError where
  | connection (reason : String)
  | unauthorized (type : AuthType) (reason : String)
  | rejected (reason : String)
  /-- The stream ended before its time. -/
  | closed
  | unknownSubscription (id : String)
deriving DecidableEq

/-- A call that makes no sense. -/
inductive UsageFault where
  | missingRequest
  | missingCandidates
  | missingEndpoint
  | missingRuntime
  | canceledBeforeStart
  | alreadyStarted
deriving DecidableEq

/-- An error that a subscriber is told. -/
inductive SubscriptionError where
  | usage (fault : UsageFault)
  | decoration (error : DecorationError)
  | endpoint (error : EndpointError)
  | candidateSource (error : CandidateError)
  | decode (error : DecodeError)
  | authExhausted
  | build (error : BuildError)
deriving DecidableEq

def EndpointError.message : EndpointError → String
  | .connection reason => s!"Connection failed: {reason}"
  | .unauthorized type reason => s!"Unauthorized for {type.name}: {reason}"
  | .rejected reason => s!"Subscription rejected: {reason}"
  | .closed => "Endpoint closed the subscription stream"
  | .unknownSubscription id => s!"Unknown subscription: {id}"

def UsageFault.message : UsageFault → String
  | .missingRequest => "a subscription request is required"
  | .missingCandidates => "an auth candidate source is required"
  | .missingEndpoint => "a subscription endpoint is required"
  | .missingRuntime =>
    "no tokio runtime: there is no reactor running, " ++
      "must be called from the context of a Tokio 1.x runtime"
  | .canceledBeforeStart => "subscription was canceled before it was started"
  | .alreadyStarted => "subscription was already started"

def SubscriptionError.message : SubscriptionError → String
  | .usage fault => s!"Usage error: {fault.message}"
  | .decoration error => s!"Decoration error: {error.message}"
  | .endpoint error => s!"Endpoint error: {error.message}"
  | .candidateSource error => s!"Candidate source error: {error.message}"
  | .decode error => s!"Undecodable subscription item: {error.message}"
  | .authExhausted => "No authorization candidate was available"
  | .build error => s!"Engine error: {error.message}"

end ModelSync
