import ModelSync.Json.Decode
import ModelSync.Predicate

/-! The JSON form of predicates. A predicate is an object that names its kind under
`type`, or the list of that kind and its fields. The rest of the object is set aside
while the kind is looked for, and values read from there differ in small ways from
values read directly; `buffered` tells the two apart. -/
namespace ModelSync

open Decode

namespace Operator

def encode : Operator → Json
  | .compare comparison operand => .obj [(comparison.name, operand)]
  | .between low high => .obj [("between", .arr [low, high])]

/-- The name in failures. -/
private def betweenName : String := "QueryOperator::Between"

/-- Both ends of a range. Set aside, a list's excess is counted against what was read;
read directly, an empty list stands for no value at all. -/
private def betweenPayload (buffered : Bool) : Option Json → Except DecodeError Operator
  | none => .error (.wrongType .bareName .tuplePayload)
  | some (.arr []) =>
    if buffered then .error (.wrongLength 0 (.tupleOfSize betweenName 2))
    else .error (.wrongType .null (.tuple betweenName))
  | some (.arr [_]) => .error (.wrongLength 1 (.tupleOfSize betweenName 2))
  | some (.arr [low, high]) => .ok (.between low high)
  | some (.arr elements) =>
    .error (.wrongLength elements.length (if buffered then .elements 2 else .fewerElements))
  | some other => mismatch other .tuplePayload

def decode (buffered : Bool) : Decoder Operator := fun json => do
  let (name, content) ← tagged json
  match Comparison.named.lookup name with
  | some comparison => .compare comparison <$> payload value content
  | none =>
    if name = "between" then betweenPayload buffered content
    else .error (.unknownVariant name (Comparison.named.map Prod.fst ++ ["between"]))

end Operator

namespace GroupKind

def encode (kind : GroupKind) : Json := .str kind.name

/-- Set aside, an empty object is as good as no payload. -/
private def emptyPayload (buffered : Bool) (kind : GroupKind) :
    Option Json → Except DecodeError GroupKind
  | some (.obj []) => if buffered then .ok kind else mismatch (.obj []) .noPayload
  | content => noPayload kind content

def decode (buffered : Bool) : Decoder GroupKind := fun json => do
  let (name, content) ← tagged json
  match named.lookup name with
  | some kind => emptyPayload buffered kind content
  | none => .error (.unknownVariant name (named.map Prod.fst))

end GroupKind

namespace Predicate

mutual

def encode : Predicate → Json
  | .all => .ofMembers [("type", .str "all")]
  | .leaf field operator =>
    .ofMembers [("type", .str "operation"), ("field", .str field), ("operator", operator.encode)]
  | .group kind children =>
    .ofMembers [("type", .str "group"), ("group", kind.encode),
      ("predicates", .arr (encodeChildren children))]

def encodeChildren : List Predicate → List Json
  | [] => []
  | child :: rest => encode child :: encodeChildren rest

end

/-- The kinds of predicate. -/
inductive Kind where
  | all
  | operation
  | group

namespace Kind

/-- The kinds by their names, in declaration order. -/
def named : List (String × Kind) := [("all", .all), ("operation", .operation), ("group", .group)]

/-- The name of a kind with fields, in failures. -/
private def description : Kind → String
  | .all => "QueryPredicate::All"
  | .operation => "QueryPredicate::Operation"
  | .group => "QueryPredicate::Group"

/-- A kind given by name. Set aside, it may also be given by its number. -/
def decode (buffered : Bool) : Decoder Kind
  | .str name =>
    match named.lookup name with
    | some kind => .ok kind
    | none => .error (.unknownVariant name (named.map Prod.fst))
  | .num (.integer number bounded) =>
    let json := Json.num (.integer number bounded)
    if buffered && decide (0 ≤ number) then
      match named[number.toNat]? with
      | some (_, kind) => .ok kind
      | none => .error (.wrongValue (found json) (.variantIndex named.length))
    else mismatch json .variantName
  | other => mismatch other .variantName

end Kind

/-- A field of a kind given as a list, by its position after the kind. -/
private def listed {α : Type} (kind : Kind) (elements : List Json) (index : Nat)
    (decode : Decoder α) : Except DecodeError α := do
  match ← element elements index decode with
  | some value => return value
  | none => .error (.wrongLength index (.taggedOfSize kind.description 2))

/-- Elements after the last field. -/
private def noExcess (elements : List Json) (fields : Nat) : Except DecodeError Unit :=
  if elements.length ≤ fields then .ok ()
  else .error (.wrongLength elements.length (.elements fields))

def leafOfMembers (members : List (String × Json)) : Except DecodeError Predicate := do
  let field ← Decode.field members "field" text
  let operator ← Decode.field members "operator" (Operator.decode true)
  let field ← present "field" field
  let operator ← present "operator" operator
  return .leaf field operator

private def leafOfElements (elements : List Json) : Except DecodeError Predicate := do
  let field ← listed .operation elements 0 text
  let operator ← listed .operation elements 1 (Operator.decode true)
  noExcess elements 2
  return .leaf field operator

mutual

/-- Decode a predicate, given directly or set aside. -/
def decodeFrom (buffered : Bool) : Json → Except DecodeError Predicate
  | .obj members => do
    let kind ← field members "type" (Kind.decode buffered)
    match ← present "type" kind with
    | .all => return .all
    | .operation => leafOfMembers members
    | .group =>
      let kind ← field members "group" (GroupKind.decode true)
      let children ← childrenMember members
      let kind ← present "group" kind
      let children ← present "predicates" children
      return .group kind children
  | .arr [] => .error (.missingField "type")
  | .arr (first :: elements) => do
    match ← Kind.decode buffered first with
    | .all =>
      noExcess elements 0
      return .all
    | .operation => leafOfElements elements
    | .group =>
      let kind ← listed .group elements 0 (GroupKind.decode true)
      let children ← childrenElement elements
      noExcess elements 2
      return .group kind children
  | other => mismatch other (.tagged "QueryPredicate")

/-- The children of a group given as an object, if it has them. -/
def childrenMember : List (String × Json) → Except DecodeError (Option (List Predicate))
  | [] => .ok none
  | (key, json) :: rest =>
    if key = "predicates" then some <$> decodeChildren json else childrenMember rest

/-- The children of a group given as a list. -/
def childrenElement : List Json → Except DecodeError (List Predicate)
  | _ :: json :: _ => decodeChildren json
  | _ => .error (.wrongLength 1 (.taggedOfSize Kind.group.description 2))

def decodeChildren : Json → Except DecodeError (List Predicate)
  | .arr items => decodeItems items
  | other => mismatch other .sequence

/-- Children are decoded in order; the first failure is reported. -/
def decodeItems : List Json → Except DecodeError (List Predicate)
  | [] => .ok []
  | item :: rest => do
    let first ← decodeFrom true item
    let others ← decodeItems rest
    return first :: others

end

def decode : Decoder Predicate := decodeFrom false

end Predicate

end ModelSync
