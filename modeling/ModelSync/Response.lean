import ModelSync.Json.Decode

/-! Responses: the data of an operation next to the errors reported for it. -/
namespace ModelSync

/-- Where in the document an error occurred. -/
structure ErrorLocation where
  line : UInt32
  column : UInt32
deriving DecidableEq

/-- A step on the way into the data. -/
inductive PathSegment where
  | key (name : String)
  | index (position : Int64)
deriving DecidableEq

/-- An error reported next to the data or instead of it. -/
structure ResponseError where
  message : String
  locations : List ErrorLocation := []
  path : List PathSegment := []
  /-- Details of the backend. -/
  extensions : Option Json := none

/-- A response with data of a type. -/
structure Response (α : Type) where
  data : Option α := none
  errors : List ResponseError := []

/-- No errors were reported. -/
def Response.isOk {α : Type} (response : Response α) : Bool := response.errors.isEmpty

open Decode

namespace ErrorLocation

def encode (location : ErrorLocation) : Json :=
  .ofMembers [("line", .ofUInt32 location.line), ("column", .ofUInt32 location.column)]

def shape : Shape := ⟨"ErrorLocation", 2⟩

def ofMembers (members : List (String × Json)) : Except DecodeError ErrorLocation := do
  let column ← field members "column" unsigned32
  let line ← field members "line" unsigned32
  let line ← present "line" line
  let column ← present "column" column
  return ⟨line, column⟩

def ofElements (elements : List Json) : Except DecodeError ErrorLocation := do
  let line ← requiredElement shape elements 0 unsigned32
  let column ← requiredElement shape elements 1 unsigned32
  return ⟨line, column⟩

def decode : Decoder ErrorLocation := struct shape ofMembers ofElements

end ErrorLocation

namespace PathSegment

def encode : PathSegment → Json
  | .key name => .str name
  | .index position => .num (.ofInt64 position)

/-- The largest position, of 64 signed bits. -/
def greatestIndex : Int := 9223372036854775807

/-- A string, or a whole number of 64 signed bits. -/
def decode : Decoder PathSegment
  | .str name => .ok (.key name)
  | .num (.integer value _) =>
    if value ≤ greatestIndex then .ok (.index (.ofInt value))
    else .error (.noAlternativeFits "PathSegment")
  | _ => .error (.noAlternativeFits "PathSegment")

end PathSegment

namespace ResponseError

def encode (error : ResponseError) : Json :=
  .ofMembers ([("message", .str error.message),
    ("locations", .arr (error.locations.map ErrorLocation.encode)),
    ("path", .arr (error.path.map PathSegment.encode))] ++
    match error.extensions with
    | some details => [("extensions", details)]
    | none => [])

def shape : Shape := ⟨"GraphQLResponseError", 4⟩

def ofMembers (members : List (String × Json)) : Except DecodeError ResponseError := do
  let extensions ← field members "extensions" (optional value)
  let locations ← field members "locations" (list ErrorLocation.decode)
  let message ← field members "message" text
  let path ← field members "path" (list PathSegment.decode)
  let message ← present "message" message
  return ⟨message, locations.getD [], path.getD [], extensions.join⟩

def ofElements (elements : List Json) : Except DecodeError ResponseError := do
  let message ← requiredElement shape elements 0 text
  let locations ← element elements 1 (list ErrorLocation.decode)
  let path ← element elements 2 (list PathSegment.decode)
  let extensions ← element elements 3 (optional value)
  return ⟨message, locations.getD [], path.getD [], extensions.join⟩

def decode : Decoder ResponseError := struct shape ofMembers ofElements

end ResponseError

namespace Response

variable {α : Type}

/-- Missing data is written as null. -/
def encode (encodeData : α → Json) (response : Response α) : Json :=
  .ofMembers [("data", (response.data.map encodeData).getD .null),
    ("errors", .arr (response.errors.map ResponseError.encode))]

def shape : Shape := ⟨"GraphQLResponse", 2⟩

def ofMembers (decodeData : Decoder α) (members : List (String × Json)) :
    Except DecodeError (Response α) := do
  let data ← field members "data" (optional decodeData)
  let errors ← field members "errors" (list ResponseError.decode)
  return ⟨data.join, errors.getD []⟩

def ofElements (decodeData : Decoder α) (elements : List Json) :
    Except DecodeError (Response α) := do
  let data ← element elements 0 (optional decodeData)
  let errors ← element elements 1 (list ResponseError.decode)
  return ⟨data.join, errors.getD []⟩

/-- Decode a response whose data has the given form. -/
def decode (decodeData : Decoder α) : Decoder (Response α) :=
  struct shape (ofMembers decodeData) (ofElements decodeData)

end Response

end ModelSync
