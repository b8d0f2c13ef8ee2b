import ModelSync.Json.Decode
import ModelSync.Schema
import ModelSync.Text.Blank

/-! Authorization types and the candidates a subscription tries. Candidates come from one
configured type or from the rules of a model, most specific rule first. -/
namespace ModelSync

/-- A kind of credentials that the backend accepts. -/
inductive AuthType where
  | apiKey
  | awsIam
  | openidConnect
  | cognitoUserPools
  | awsLambda
  /-- No credentials at all. -/
  | anonymous
deriving DecidableEq

namespace AuthType

/-- The types by their names, in declaration order. -/
def named : List (String × AuthType) :=
  [("API_KEY", .apiKey), ("AWS_IAM", .awsIam), ("OPENID_CONNECT", .openidConnect),
    ("AMAZON_COGNITO_USER_POOLS", .cognitoUserPools), ("AWS_LAMBDA", .awsLambda),
    ("NONE", .anonymous)]

/-- The name of a type. -/
def name : AuthType → String
  | .apiKey => "API_KEY"
  | .awsIam => "AWS_IAM"
  | .openidConnect => "OPENID_CONNECT"
  | .cognitoUserPools => "AMAZON_COGNITO_USER_POOLS"
  | .awsLambda => "AWS_LAMBDA"
  | .anonymous => "NONE"

/-- Read a name in either case, ignoring white space around it. Only ASCII letters have a
case. -/
def ofText? (text : String) : Option AuthType := named.lookup (Text.trim text).toUpper

def encode (type : AuthType) : Json := .str type.name

/-- The JSON form is the name, in exactly this spelling. -/
def decode : Decoder AuthType := Decode.oneOf named

/-- Requests of this type carry the caller's identity. -/
def hasIdentity : AuthType → Bool
  | .cognitoUserPools | .openidConnect => true
  | _ => false

/-- The type of a provider's credentials. -/
def ofProvider : AuthProvider → AuthType
  | .userPools => .cognitoUserPools
  | .oidc => .openidConnect
  | .iam => .awsIam
  | .apiKey => .apiKey
  | .function => .awsLambda

/-- The type that satisfies a strategy whose provider is left open. -/
def ofStrategy : AuthStrategy → AuthType
  | .owner | .group | .signedIn => .cognitoUserPools
  | .anyone => .apiKey
  | .custom => .awsLambda

/-- The type that satisfies a rule. -/
def forRule (rule : AuthRule) : AuthType :=
  match rule.provider with
  | some provider => ofProvider provider
  | none => ofStrategy rule.strategy

end AuthType

/-- The message for a text that names no authorization type. -/
def unknownAuthTypeMessage (text : String) : String := s!"unknown authorization type: {text}"

/-- A candidate derived from a rule. -/
structure AuthCandidate where
  type : AuthType
  strategy : AuthStrategy
deriving DecidableEq

def AuthCandidate.isOwner (candidate : AuthCandidate) : Bool := candidate.strategy == .owner

/-- The candidates could not be enumerated. -/
structure CandidateError where
  reason : String
deriving DecidableEq

def CandidateError.message (error : CandidateError) : String :=
  s!"Error while iterating through auth rules: {error.reason}"

/-- How specific a strategy is; the most specific comes first. -/
def AuthStrategy.rank : AuthStrategy → Nat
  | .owner => 0
  | .group => 1
  | .signedIn => 2
  | .anyone => 3
  | .custom => 4

/-- Each candidate of the rules once, most specific strategies first, within one strategy
in the order of the first rules that give them. -/
def AuthCandidate.ofRules (rules : List AuthRule) : List AuthCandidate :=
  let ordered := rules.mergeSort fun a b => a.strategy.rank ≤ b.strategy.rank
  ordered.foldl
    (fun kept rule =>
      let candidate : AuthCandidate := ⟨AuthType.forRule rule, rule.strategy⟩
      if candidate ∈ kept then kept else kept ++ [candidate])
    []

/-- An item of a candidate source. -/
abbrev CandidateItem := Except CandidateError AuthCandidate

/-- Where a subscription takes its candidates from. A sequence gives the item at each
position up to its end, and need not end. -/
inductive Candidates where
  /-- One configured type, which is always decorated. -/
  | fixed (type : AuthType)
  /-- Candidates of rules, of which only those for owners are decorated. -/
  | sequence (item? : Nat → Option CandidateItem)

/-- What the next attempt uses. -/
structure Attempt where
  type : AuthType
  decorate : Bool
deriving DecidableEq

namespace Candidates

/-- A finite sequence. -/
def ofList (items : List CandidateItem) : Candidates := .sequence fun position => items[position]?

/-- A sequence that starts over at its end. -/
def cycle (items : List CandidateItem) : Candidates :=
  .sequence fun position => items[position % items.length]?

/-- The candidates of a model's rules. -/
def ofRules (rules : List AuthRule) : Candidates :=
  ofList ((AuthCandidate.ofRules rules).map .ok)

/-- How a source is named. -/
def describe : Candidates → String
  | .fixed type => "[" ++ type.name ++ "]"
  | .sequence _ => "[rule-derived]"

/-- The items of a sequence from a position on, a limited number of them, with the end if
it is reached. A fixed type is no sequence. -/
def itemsFrom : Candidates → Nat → Nat → List (Option CandidateItem)
  | .fixed _, _, _ => []
  | .sequence _, _, 0 => []
  | .sequence item?, position, limit + 1 =>
    match item? position with
    | none => [none]
    | some item => some item :: itemsFrom (.sequence item?) (position + 1) limit

/-- The attempt at a position. -/
def attempt? : Candidates → Nat → Option (Except CandidateError Attempt)
  | .fixed type, 0 => some (.ok ⟨type, true⟩)
  | .fixed _, _ + 1 => none
  | .sequence item?, position =>
    (item? position).map fun item => item.map fun candidate => ⟨candidate.type, candidate.isOwner⟩

end Candidates

/-- A position in a candidate source. Looking ahead produces the item at the position
without consuming it. -/
structure Cursor where
  source : Candidates
  position : Nat := 0
  /-- The item at the position has been produced. -/
  produced : Bool := false

namespace Cursor

/-- The item at the position. -/
def current? (cursor : Cursor) : Option (Except CandidateError Attempt) :=
  cursor.source.attempt? cursor.position

/-- Consume the item at the position. -/
def advance (cursor : Cursor) : Cursor :=
  { cursor with position := cursor.position + 1, produced := false }

/-- Produce the item at the position. -/
def lookAhead (cursor : Cursor) : Cursor := { cursor with produced := true }

/-- Another item remains. -/
def hasNext (cursor : Cursor) : Bool := cursor.current?.isSome

end Cursor

end ModelSync
