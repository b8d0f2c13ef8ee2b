import ModelSync.Json.Value
import ModelSync.Text.Quoted

/-! Decoding JSON into typed values. A failure names what was found and what was
expected. A structure may be given as an object or as the list of its fields in
declaration order; an alternative is given by its name, or by an object whose one key is
its name and whose value is the payload. -/
namespace ModelSync

/-- What was found in a place where something else was expected. -/
inductive Found where
  | null
  | boolean (value : Bool)
  | integer (value : Int)
  | floating (value : Double)
  | string (value : String)
  | sequence
  | map
  /-- The bare name of an alternative. -/
  | bareName
deriving DecidableEq

/-- What was expected. -/
inductive Expected where
  | text
  | boolean
  | sequence
  | map
  /-- A whole number of at most so many unsigned bits. -/
  | unsigned (bits : Nat)
  /-- A count or a position. -/
  | cardinal
  | struct (name : String)
  | structOfSize (name : String) (size : Nat)
  /-- An alternative, by name or by an object. -/
  | alternative
  | singleKey
  | noPayload
  | payload
  | tuplePayload
  | structPayload
  | tuple (name : String)
  | tupleOfSize (name : String) (size : Nat)
  | fewerElements
  | elements (count : Nat)
  | tagged (name : String)
  | taggedOfSize (name : String) (size : Nat)
  | variantName
  | variantIndex (count : Nat)
deriving DecidableEq

/-- Why a value could not be decoded. -/
inductive DecodeError where
  | wrongType (found : Found) (expected : Expected)
  | wrongValue (found : Found) (expected : Expected)
  | wrongLength (length : Nat) (expected : Expected)
  | unknownVariant (name : String) (known : List String)
  | missingField (name : String)
  | noAlternativeFits (name : String)
deriving DecidableEq

/-- How a found value is named. -/
def Found.describe : Found → String
  | .null => "null"
  | .boolean value => s!"boolean `{value}`"
  | .integer value => s!"integer `{value}`"
  | .floating value => "floating point `" ++ value.text ++ "`"
  | .string value => "string " ++ Text.quoted value
  | .sequence => "sequence"
  | .map => "map"
  | .bareName => "unit variant"

private def counted (count : Nat) (noun : String) : String :=
  s!"{count} {noun}" ++ (if count = 1 then "" else "s")

/-- How an expectation is named. -/
def Expected.describe : Expected → String
  | .text => "a string"
  | .boolean => "a boolean"
  | .sequence => "a sequence"
  | .map => "a map"
  | .unsigned bits => s!"u{bits}"
  | .cardinal => "usize"
  | .struct name => s!"struct {name}"
  | .structOfSize name size => s!"struct {name} with " ++ counted size "element"
  | .alternative => "string or map"
  | .singleKey => "map with a single key"
  | .noPayload => "unit"
  | .payload => "newtype variant"
  | .tuplePayload => "tuple variant"
  | .structPayload => "struct variant"
  | .tuple name => s!"tuple variant {name}"
  | .tupleOfSize name size => s!"tuple variant {name} with " ++ counted size "element"
  | .fewerElements => "fewer elements in array"
  | .elements count => counted count "element" ++ " in sequence"
  | .tagged name => s!"internally tagged enum {name}"
  | .taggedOfSize name size => s!"struct variant {name} with " ++ counted size "element"
  | .variantName => "variant identifier"
  | .variantIndex count => s!"variant index 0 <= i < {count}"

private def backticked (name : String) : String := "`" ++ name ++ "`"

/-- The alternatives that a name could have been. -/
private def expectedNames : List String → String
  | [] => "there are no variants"
  | [only] => "expected " ++ backticked only
  | [first, second] => "expected " ++ backticked first ++ " or " ++ backticked second
  | many => "expected one of " ++ String.intercalate ", " (many.map backticked)

/-- The message of a failure. -/
def DecodeError.message : DecodeError → String
  | .wrongType found expected => s!"invalid type: {found.describe}, expected {expected.describe}"
  | .wrongValue found expected => s!"invalid value: {found.describe}, expected {expected.describe}"
  | .wrongLength length expected => s!"invalid length {length}, expected {expected.describe}"
  | .unknownVariant name known => s!"unknown variant `{name}`, " ++ expectedNames known
  | .missingField name => s!"missing field `{name}`"
  | .noAlternativeFits name => s!"data did not match any variant of untagged enum {name}"

/-- A way to read a value of a type from JSON. -/
abbrev Decoder (α : Type) := Json → Except DecodeError α

namespace Decode

/-- What a JSON value is named as. -/
def found : Json → Found
  | .null => .null
  | .bool value => .boolean value
  | .num (.integer value _) => .integer value
  | .num (.double value) => .floating value
  | .str value => .string value
  | .arr _ => .sequence
  | .obj _ => .map

/-- The value is of the wrong type. -/
def mismatch {α : Type} (json : Json) (expected : Expected) : Except DecodeError α :=
  .error (.wrongType (found json) expected)

def value : Decoder Json := .ok

def text : Decoder String
  | .str value => .ok value
  | other => mismatch other .text

def boolean : Decoder Bool
  | .bool value => .ok value
  | other => mismatch other .boolean

/-- A natural number below a bound. -/
def natural (bound : Nat) (expected : Expected) : Decoder Nat
  | .num (.integer value bounded) =>
    if 0 ≤ value ∧ value.toNat < bound then .ok value.toNat
    else .error (.wrongValue (found (.num (.integer value bounded))) expected)
  | other => mismatch other expected

/-- A whole number of 8 unsigned bits. -/
def unsigned8 : Decoder UInt8 := fun json =>
  .ofNat <$> natural UInt8.size (.unsigned 8) json

/-- A whole number of 32 unsigned bits. -/
def unsigned32 : Decoder UInt32 := fun json =>
  .ofNat <$> natural UInt32.size (.unsigned 32) json

/-- A whole number of 64 unsigned bits. -/
def unsigned64 : Decoder UInt64 := fun json =>
  .ofNat <$> natural UInt64.size (.unsigned 64) json

/-- A count or a position. -/
def cardinal : Decoder Nat := natural UInt64.size .cardinal

variable {α : Type}

/-- Null stands for nothing. -/
def optional (decode : Decoder α) : Decoder (Option α)
  | .null => .ok none
  | other => some <$> decode other

/-- Items are decoded in order; the first failure is reported. -/
def items (decode : Decoder α) : List Json → Except DecodeError (List α)
  | [] => .ok []
  | item :: rest => do
    let first ← decode item
    let others ← items decode rest
    return first :: others

def list (decode : Decoder α) : Decoder (List α)
  | .arr elements => items decode elements
  | other => mismatch other .sequence

/-- Members are decoded in key order; the first failure is reported. -/
def members (decode : Decoder α) : List (String × Json) → Except DecodeError (KeyMap α)
  | [] => .ok .empty
  | (key, json) :: rest => do
    let first ← decode json
    let others ← members decode rest
    return others.insert key first

def map (decode : Decoder α) : Decoder (KeyMap α)
  | .obj entries => members decode entries
  | other => mismatch other .map

/-! ## Structures -/

/-- A field of a structure given as an object, if the object has it. -/
def field (entries : List (String × Json)) (name : String) (decode : Decoder α) :
    Except DecodeError (Option α) :=
  match Entries.get? entries name with
  | none => .ok none
  | some json => some <$> decode json

/-- The field has to be there. -/
def present (name : String) : Option α → Except DecodeError α
  | some value => .ok value
  | none => .error (.missingField name)

/-- A field of a structure given as a list, if the list is long enough. -/
def element (elements : List Json) (index : Nat) (decode : Decoder α) :
    Except DecodeError (Option α) :=
  match elements[index]? with
  | none => .ok none
  | some json => some <$> decode json

/-- A structure's name and number of fields. -/
structure Shape where
  name : String
  size : Nat

/-- A field without a default that a list has to contain. -/
def requiredElement (shape : Shape) (elements : List Json) (index : Nat) (decode : Decoder α) :
    Except DecodeError α := do
  match ← element elements index decode with
  | some value => return value
  | none => .error (.wrongLength index (.structOfSize shape.name shape.size))

/-- A structure given as an object or as a list. A list has no more elements than the
structure has fields. -/
def struct (shape : Shape) (ofMembers : List (String × Json) → Except DecodeError α)
    (ofElements : List Json → Except DecodeError α) : Decoder α
  | .obj entries => ofMembers entries
  | .arr elements => do
    let result ← ofElements elements
    if elements.length ≤ shape.size then return result
    else .error (.wrongLength elements.length .fewerElements)
  | other => mismatch other (.struct shape.name)

/-! ## Alternatives -/

/-- The name of an alternative and its payload, if one is given. -/
def tagged : Decoder (String × Option Json)
  | .str name => .ok (name, none)
  | .obj [(name, payload)] => .ok (name, some payload)
  | .obj entries => .error (.wrongValue (found (.obj entries)) .singleKey)
  | other => mismatch other .alternative

/-- An alternative without payload; an explicit null is allowed. -/
def noPayload (result : α) : Option Json → Except DecodeError α
  | none | some .null => .ok result
  | some other => mismatch other .noPayload

/-- An alternative with one value as payload. -/
def payload (decode : Decoder α) : Option Json → Except DecodeError α
  | none => .error (.wrongType .bareName .payload)
  | some json => decode json

/-- One of several alternatives without payload, listed in declaration order. -/
def oneOf (known : List (String × α)) : Decoder α := fun json => do
  let (name, content) ← tagged json
  match known.lookup name with
  | some result => noPayload result content
  | none => .error (.unknownVariant name (known.map Prod.fst))

end Decode

end ModelSync
