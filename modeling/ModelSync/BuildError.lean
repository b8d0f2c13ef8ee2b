/-! What can keep a document from being built. -/
namespace ModelSync

/-- A schema that no document can be built from. -/
inductive SchemaFault where
  | invalidName (name : String)
  | unknownCustomType (name : String)
  | recursiveCustomType (name : String)
deriving DecidableEq

/-- A predicate without a filter. -/
inductive PredicateFault where
  /-- The predicate that matches everything stands inside a group. -/
  | nestedAll
  | negationArity (children : Nat)
deriving DecidableEq

/-- A record whose fields cannot be read or sent. -/
inductive FieldFault where
  | payloadNotObject
  | missingId
  | wrongModel (id model : String)
  | notList
  | referenceWithoutId
  | notReference
  /-- The record itself refuses to give the value. -/
  | unreadable (reason : String)
deriving DecidableEq

/-- Why a document was not built. -/
inductive BuildError where
  | predicate (fault : PredicateFault)
  | schema (model : String) (fault : SchemaFault)
  | field (model name : String) (fault : FieldFault)
deriving DecidableEq

def SchemaFault.message : SchemaFault → String
  | .invalidName name => s!"'{name}' is not a valid GraphQL name"
  | .unknownCustomType name => s!"unknown custom type '{name}'"
  | .recursiveCustomType name => s!"custom type '{name}' contains itself"

def PredicateFault.message : PredicateFault → String
  | .nestedAll => "match-all predicate cannot be nested inside a group"
  | .negationArity children => s!"not requires exactly one child, got {children}"

def FieldFault.message : FieldFault → String
  | .payloadNotObject => "payload must be an object"
  | .missingId => "missing string id"
  | .wrongModel id model => s!"record '{id}' is a '{model}'"
  | .notList => "expected a list"
  | .referenceWithoutId => "referenced model has no id"
  | .notReference => "expected a model reference"
  | .unreadable reason => reason

/-- The message of a failure. -/
def BuildError.message : BuildError → String
  | .predicate fault => s!"invalid predicate: {fault.message}"
  | .schema model fault => s!"schema introspection failed for '{model}': {fault.message}"
  | .field model name fault => s!"cannot read field '{name}' of model '{model}': {fault.message}"

end ModelSync
