import ModelSync.Authorization
import ModelSync.Request

/-! Decorating requests with the caller's identity. A model protected by owner rules only
tells the owner about changes, so a subscription has to name the owner, whose name is a
claim of the caller's token. Members of a group that sees every record are exempt. -/
namespace ModelSync

/-- Why a request could not be decorated. -/
inductive DecorationError where
  | missingClaim (type : AuthType) (claim : String)
  | claimsUnavailable (reason : String)
deriving DecidableEq

def DecorationError.message : DecorationError → String
  | .missingClaim type claim => s!"Identity claim '{claim}' is not available for {type.name}"
  | .claimsUnavailable reason => s!"Identity claims unavailable: {reason}"

/-- The claims of the tokens for each authorization type. -/
abbrev Claims := AuthType → String → Except DecorationError (Option Json)

/-- Claims given as tables: some cannot be looked up, some belong to one type, the others
are common to all. -/
def Claims.ofTables (common : List (String × Json))
    (byType : List (AuthType × List (String × Json))) (unavailable : List (String × String)) :
    Claims := fun type name =>
  match unavailable.lookup name with
  | some reason => .error (.claimsUnavailable reason)
  | none =>
    let own := (byType.lookup type).bind fun table => table.lookup name
    .ok (own <|> common.lookup name)

/-- Attaches what an authorization type needs to a request. A decorator may answer
differently from call to call, so it is given the number of calls before. -/
abbrev Decorator := Nat → Request → AuthType → Except DecorationError Request

namespace Decorator

/-- Leaves every request as it is. -/
def unchanged : Decorator := fun _ request _ => .ok request

end Decorator

/-- The groups that a claim lists: the strings of a list, or the words of a text. -/
def claimedGroups : Json → List String
  | .arr items => items.filterMap Json.asString?
  | .str text => Text.words text
  | _ => []

/-- The caller is in a group of one of the rules. Rules are tried in order, and a claim
that cannot be looked up ends the search. -/
def inGroupOf (claims : Claims) (type : AuthType) : List AuthRule → Except DecorationError Bool
  | [] => .ok false
  | rule :: rest => do
    match ← claims type rule.groupClaim with
    | none => inGroupOf claims type rest
    | some claim =>
      if (claimedGroups claim).any rule.groups.contains then return true
      else inGroupOf claims type rest

/-- The owner that a rule's identity claim names. -/
def ownerOf (claims : Claims) (type : AuthType) (rule : AuthRule) :
    Except DecorationError String := do
  match ← claims type rule.identityClaim with
  | some (.str owner) =>
    if owner.isEmpty then .error (.missingClaim type rule.identityClaim) else return owner
  | _ => .error (.missingClaim type rule.identityClaim)

/-- Bind the owner of each rule in order. -/
def bindOwners (claims : Claims) (type : AuthType) (request : Request) :
    List AuthRule → Except DecorationError Request
  | [] => .ok request
  | rule :: rest => do
    let owner ← ownerOf claims type rule
    bindOwners claims type (request.bind rule.ownerField "String!" (.str owner)) rest

/-- Group rules in declaration order. -/
def Schema.groupRules (schema : Schema) : List AuthRule :=
  schema.rules.filter fun rule => rule.strategy == .group

/-- Only subscriptions to owner-protected models with a user identity name owners. -/
def Schema.needsOwner (schema : Schema) (request : Request) (type : AuthType) : Bool :=
  request.kind == .subscription && type.hasIdentity && schema.hasOwnerRule

/-- Name the owners of a schema in a request. -/
def Schema.decorate (schema : Schema) (claims : Claims) (request : Request) (type : AuthType) :
    Except DecorationError Request := do
  if schema.needsOwner request type then
    if ← inGroupOf claims type schema.groupRules then return request
    else bindOwners claims type request schema.ownerRules
  else return request

/-- Names the owners of a schema from the caller's claims. -/
def Decorator.owners (schema : Schema) (claims : Claims) : Decorator :=
  fun _ request type => schema.decorate claims request type

end ModelSync
