import ModelSync.Json.Decode
import ModelSync.Schema

/-! The JSON form of schemas. Absent options are not written; fields with a documented
default may be left out when reading. -/
namespace ModelSync

open Decode

/-- Alternatives written as their bare names. -/
private def bareName {α : Type} [BEq α] (known : List (String × α)) (value : α) : Json :=
  .str (((known.find? fun entry => entry.2 == value).map Prod.fst).getD "")

namespace Scalar

/-- The scalars by their JSON names, in declaration order. -/
def named : List (String × Scalar) :=
  [("id", .id), ("string", .string), ("int", .int), ("float", .float),
    ("boolean", .boolean), ("awsDate", .awsDate), ("awsTime", .awsTime),
    ("awsDateTime", .awsDateTime), ("awsTimestamp", .awsTimestamp), ("awsEmail", .awsEmail),
    ("awsJson", .awsJson), ("awsUrl", .awsUrl), ("awsPhone", .awsPhone),
    ("awsIpAddress", .awsIpAddress)]

end Scalar

namespace FieldType

def encode : FieldType → Json
  | .scalar kind => bareName Scalar.named kind
  | .enumeration name => .ofMembers [("enum", .str name)]
  | .custom name => .ofMembers [("customType", .str name)]
  | .model name => .ofMembers [("model", .str name)]

def decode : Decoder FieldType := fun json => do
  let (name, content) ← tagged json
  match Scalar.named.lookup name with
  | some kind => noPayload (.scalar kind) content
  | none =>
    match name with
    | "enum" => .enumeration <$> payload text content
    | "customType" => .custom <$> payload text content
    | "model" => .model <$> payload text content
    | _ =>
      .error (.unknownVariant name
        (Scalar.named.map Prod.fst ++ ["enum", "customType", "model"]))

end FieldType

namespace Association

def encode : Association → Json
  | .belongsTo targetName =>
    .ofMembers [("belongsTo", .ofMembers [("target_name", .str targetName)])]
  | .hasMany => .str "hasMany"

/-- The target name comes as the one field of an object. -/
def belongsToPayload : Option Json → Except DecodeError Association
  | none => .error (.wrongType .bareName .structPayload)
  | some (.obj members) => do
    let targetName ← field members "target_name" text
    return .belongsTo (← present "target_name" targetName)
  | some other => mismatch other .structPayload

def decode : Decoder Association := fun json => do
  let (name, content) ← tagged json
  match name with
  | "belongsTo" => belongsToPayload content
  | "hasMany" => noPayload .hasMany content
  | _ => .error (.unknownVariant name ["belongsTo", "hasMany"])

end Association

/-- A member that is written only when there is a value. -/
def optionalMember {α : Type} (name : String) (encode : α → Json) :
    Option α → List (String × Json)
  | some value => [(name, encode value)]
  | none => []

namespace ModelField

def encode (field : ModelField) : Json :=
  .ofMembers ([("name", .str field.name), ("fieldType", field.type.encode),
    ("required", .bool field.isRequired), ("isArray", .bool field.isArray),
    ("readOnly", .bool field.isReadOnly)] ++
    optionalMember "association" Association.encode field.association)

private def shape : Shape := ⟨"ModelField", 6⟩

def ofMembers (members : List (String × Json)) : Except DecodeError ModelField := do
  let association ← Decode.field members "association" (Decode.optional Association.decode)
  let type ← Decode.field members "fieldType" FieldType.decode
  let isArray ← Decode.field members "isArray" boolean
  let name ← Decode.field members "name" text
  let isReadOnly ← Decode.field members "readOnly" boolean
  let isRequired ← Decode.field members "required" boolean
  let name ← present "name" name
  let type ← present "fieldType" type
  let isRequired ← present "required" isRequired
  return ⟨name, type, isRequired, isArray.getD false, isReadOnly.getD false, association.join⟩

private def ofElements (elements : List Json) : Except DecodeError ModelField := do
  let name ← requiredElement shape elements 0 text
  let type ← requiredElement shape elements 1 FieldType.decode
  let isRequired ← requiredElement shape elements 2 boolean
  let isArray ← element elements 3 boolean
  let isReadOnly ← element elements 4 boolean
  let association ← element elements 5 (Decode.optional Association.decode)
  return ⟨name, type, isRequired, isArray.getD false, isReadOnly.getD false, association.join⟩

def decode : Decoder ModelField := struct shape ofMembers ofElements

end ModelField

namespace CustomType

def encode (custom : CustomType) : Json :=
  .ofMembers [("name", .str custom.name), ("fields", .arr (custom.fields.map ModelField.encode))]

private def shape : Shape := ⟨"CustomTypeSchema", 2⟩

def ofMembers (members : List (String × Json)) : Except DecodeError CustomType := do
  let fields ← field members "fields" (list ModelField.decode)
  let name ← field members "name" text
  let name ← present "name" name
  let fields ← present "fields" fields
  return ⟨name, fields⟩

private def ofElements (elements : List Json) : Except DecodeError CustomType := do
  let name ← requiredElement shape elements 0 text
  let fields ← requiredElement shape elements 1 (list ModelField.decode)
  return ⟨name, fields⟩

def decode : Decoder CustomType := struct shape ofMembers ofElements

end CustomType

namespace AuthStrategy

/-- The strategies by their JSON names, in declaration order. -/
def named : List (String × AuthStrategy) :=
  [("owner", .owner), ("group", .group), ("private", .signedIn), ("public", .anyone),
    ("custom", .custom)]

def encode (strategy : AuthStrategy) : Json := bareName named strategy

def decode : Decoder AuthStrategy := oneOf named

end AuthStrategy

namespace AuthProvider

/-- The providers by their JSON names, in declaration order. -/
def named : List (String × AuthProvider) :=
  [("userPools", .userPools), ("oidc", .oidc), ("iam", .iam), ("apiKey", .apiKey),
    ("function", .function)]

def encode (provider : AuthProvider) : Json := bareName named provider

def decode : Decoder AuthProvider := oneOf named

end AuthProvider

namespace AuthRule

def encode (rule : AuthRule) : Json :=
  .ofMembers ([("strategy", rule.strategy.encode), ("ownerField", .str rule.ownerField),
    ("identityClaim", .str rule.identityClaim), ("groupClaim", .str rule.groupClaim),
    ("groups", .arr (rule.groups.map .str))] ++
    optionalMember "provider" AuthProvider.encode rule.provider)

private def shape : Shape := ⟨"AuthRule", 6⟩

/-- A rule of which the given parts were read; the others take their defaults. -/
def ofParts (strategy : AuthStrategy) (provider : Option (Option AuthProvider))
    (ownerField identityClaim groupClaim : Option String) (groups : Option (List String)) :
    AuthRule :=
  let plain : AuthRule := { strategy, provider := provider.join }
  { plain with
    ownerField := ownerField.getD plain.ownerField
    identityClaim := identityClaim.getD plain.identityClaim
    groupClaim := groupClaim.getD plain.groupClaim
    groups := groups.getD plain.groups }

def ofMembers (members : List (String × Json)) : Except DecodeError AuthRule := do
  let groupClaim ← field members "groupClaim" text
  let groups ← field members "groups" (list text)
  let identityClaim ← field members "identityClaim" text
  let ownerField ← field members "ownerField" text
  let provider ← field members "provider" (Decode.optional AuthProvider.decode)
  let strategy ← field members "strategy" AuthStrategy.decode
  let strategy ← present "strategy" strategy
  return ofParts strategy provider ownerField identityClaim groupClaim groups

private def ofElements (elements : List Json) : Except DecodeError AuthRule := do
  let strategy ← requiredElement shape elements 0 AuthStrategy.decode
  let provider ← element elements 1 (Decode.optional AuthProvider.decode)
  let ownerField ← element elements 2 text
  let identityClaim ← element elements 3 text
  let groupClaim ← element elements 4 text
  let groups ← element elements 5 (list text)
  return ofParts strategy provider ownerField identityClaim groupClaim groups

def decode : Decoder AuthRule := struct shape ofMembers ofElements

end AuthRule

namespace Schema

def encode (schema : Schema) : Json :=
  .ofMembers ([("name", .str schema.name),
    ("fields", .arr (schema.fields.map ModelField.encode)),
    ("customTypes",
      .obj (schema.customTypes.entries.map fun entry => (entry.1, entry.2.encode))),
    ("authRules", .arr (schema.rules.map AuthRule.encode))] ++
    optionalMember "pluralName" Json.str schema.pluralName)

private def shape : Shape := ⟨"ModelSchema", 5⟩

def ofMembers (members : List (String × Json)) : Except DecodeError Schema := do
  let rules ← field members "authRules" (list AuthRule.decode)
  let customTypes ← field members "customTypes" (map CustomType.decode)
  let fields ← field members "fields" (list ModelField.decode)
  let name ← field members "name" text
  let pluralName ← field members "pluralName" (Decode.optional text)
  let name ← present "name" name
  let fields ← present "fields" fields
  return ⟨name, pluralName.join, fields, customTypes.getD .empty, rules.getD []⟩

private def ofElements (elements : List Json) : Except DecodeError Schema := do
  let name ← requiredElement shape elements 0 text
  let pluralName ← element elements 1 (Decode.optional text)
  let fields ← requiredElement shape elements 2 (list ModelField.decode)
  let customTypes ← element elements 3 (map CustomType.decode)
  let rules ← element elements 4 (list AuthRule.decode)
  return ⟨name, pluralName.join, fields, customTypes.getD .empty, rules.getD []⟩

def decode : Decoder Schema := struct shape ofMembers ofElements

end Schema

end ModelSync
