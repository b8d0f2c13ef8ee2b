import ModelSync.KeyMap

/-! The description of one model: its fields, the custom types those fields reach, and
its ordered authorization rules. Names that may stand in a document are described here too. -/
namespace ModelSync

/-- A character that may begin a name. Only ASCII letters count. -/
def isNameStart (char : Char) : Bool := char == '_' || char.isAlpha

/-- A character that may follow in a name. -/
def isNamePart (char : Char) : Bool := char == '_' || char.isAlphanum

/-- A name is `[_A-Za-z][_0-9A-Za-z]*`. -/
def isName (text : String) : Bool :=
  match text.toList with
  | [] => false
  | first :: rest => isNameStart first && rest.all isNamePart

/-- The primary key that every model carries. -/
def idField : String := "id"

/-- Built-in types whose values have no selectable parts. -/
inductive Scalar where
  | id
  | string
  | int
  | float
  | boolean
  | awsDate
  | awsTime
  | awsDateTime
  | awsTimestamp
  | awsEmail
  | awsJson
  | awsUrl
  | awsPhone
  | awsIpAddress
deriving DecidableEq

/-- The type of a field. -/
inductive FieldType where
  | scalar (kind : Scalar)
  /-- An enumeration, sent as the name of its symbol. -/
  | enumeration (name : String)
  /-- A type that is no model, expanded inline in selections. -/
  | custom (name : String)
  /-- Another model, selected by its identifier only. -/
  | model (name : String)
deriving DecidableEq

/-- The name of a scalar in documents. -/
def Scalar.name : Scalar → String
  | .id => "ID"
  | .string => "String"
  | .int => "Int"
  | .float => "Float"
  | .boolean => "Boolean"
  | .awsDate => "AWSDate"
  | .awsTime => "AWSTime"
  | .awsDateTime => "AWSDateTime"
  | .awsTimestamp => "AWSTimestamp"
  | .awsEmail => "AWSEmail"
  | .awsJson => "AWSJSON"
  | .awsUrl => "AWSURL"
  | .awsPhone => "AWSPhone"
  | .awsIpAddress => "AWSIPAddress"

/-- The name of a type in documents. -/
def FieldType.name : FieldType → String
  | .scalar kind => kind.name
  | .enumeration name | .custom name | .model name => name

/-- How a field relates its model to another one. -/
inductive Association where
  /-- This model holds the other one's key, under the target name. -/
  | belongsTo (targetName : String)
  /-- The other model holds the key. Such a field is never selected and never sent. -/
  | hasMany
deriving DecidableEq

/-- A field of a model or custom type. -/
structure ModelField where
  name : String
  type : FieldType
  isRequired : Bool
  isArray : Bool := false
  /-- Managed by the backend, so never sent as input. -/
  isReadOnly : Bool := false
  association : Option Association := none
deriving DecidableEq

namespace ModelField

def required (name : String) (type : FieldType) : ModelField := ⟨name, type, true, false, false, none⟩

def optional (name : String) (type : FieldType) : ModelField := ⟨name, type, false, false, false, none⟩

/-- A reference to another model whose key lives on this one. -/
def belongsTo (name model targetName : String) : ModelField :=
  { optional name (.model model) with association := some (.belongsTo targetName) }

/-- A list of records of another model that holds the key. -/
def hasMany (name model : String) : ModelField :=
  { optional name (.model model) with isArray := true, association := some .hasMany }

/-- The same field as a list. -/
def array (field : ModelField) : ModelField := { field with isArray := true }

/-- The same field, managed by the backend. -/
def readOnly (field : ModelField) : ModelField := { field with isReadOnly := true }

def isHasMany (field : ModelField) : Bool := field.association == some .hasMany

/-- The key under which a reference is held on this model. -/
def targetName? (field : ModelField) : Option String :=
  match field.association with
  | some (.belongsTo targetName) => some targetName
  | _ => none

end ModelField

/-- A type that is no model, nested inside models. -/
structure CustomType where
  name : String
  fields : List ModelField
deriving DecidableEq

/-- Who a rule grants access to. -/
inductive AuthStrategy where
  /-- Callers whose identity claim matches a field of the record. -/
  | owner
  /-- Members of named groups. -/
  | group
  /-- Any signed-in caller. -/
  | signedIn
  /-- Anyone. -/
  | anyone
  /-- Whoever a custom authorizer admits. -/
  | custom
deriving DecidableEq

/-- The credentials that back a rule. -/
inductive AuthProvider where
  | userPools
  | oidc
  | iam
  | apiKey
  | function
deriving DecidableEq

/-- An authorization rule of a model. -/
structure AuthRule where
  strategy : AuthStrategy
  provider : Option AuthProvider := none
  /-- The field compared with the identity claim, for owner rules. -/
  ownerField : String := "owner"
  /-- The claim that holds the caller's identity, for owner rules. -/
  identityClaim : String := "username"
  /-- The claim that holds the caller's groups, for group rules. -/
  groupClaim : String := "cognito:groups"
  /-- The groups granted access, for group rules. -/
  groups : List String := []
deriving DecidableEq

def AuthRule.isOwner (rule : AuthRule) : Bool := rule.strategy == .owner

/-- The description of one model. -/
structure Schema where
  name : String
  /-- The plural used by list operations, if it is not the name followed by `s`. -/
  pluralName : Option String := none
  /-- In declaration order. -/
  fields : List ModelField
  customTypes : KeyMap CustomType := .empty
  /-- In declaration order. -/
  rules : List AuthRule := []
deriving DecidableEq

namespace Schema

def withPlural (schema : Schema) (plural : String) : Schema :=
  { schema with pluralName := some plural }

/-- Add a custom type under its own name, replacing one of that name. -/
def withCustomType (schema : Schema) (custom : CustomType) : Schema :=
  { schema with customTypes := schema.customTypes.insert custom.name custom }

def withRule (schema : Schema) (rule : AuthRule) : Schema :=
  { schema with rules := schema.rules ++ [rule] }

/-- The plural form of the model's name. -/
def plural (schema : Schema) : String := schema.pluralName.getD (schema.name ++ "s")

/-- The first field of a name. -/
def field? (schema : Schema) (name : String) : Option ModelField :=
  schema.fields.find? (·.name == name)

/-- Owner rules in declaration order. -/
def ownerRules (schema : Schema) : List AuthRule := schema.rules.filter AuthRule.isOwner

def hasOwnerRule (schema : Schema) : Bool := !schema.ownerRules.isEmpty

end Schema

end ModelSync
