import ModelSync.BuildError
import ModelSync.Json.Value
import ModelSync.Schema

/-! Records handed to mutations. A mutation only needs read access to the fields of a
record; records held as JSON objects give that access. -/
namespace ModelSync

/-- Read access to a record. A field may be absent, which differs from null, and reading
it may fail. -/
structure RecordView where
  model : String
  id : String
  value : String → Except BuildError (Option Json)

/-- A view of given values, in which some fields cannot be read. -/
def RecordView.ofFields (model id : String) (fields : List (String × Json))
    (unreadable : List (String × String)) : RecordView where
  model
  id
  value name :=
    match unreadable.lookup name with
    | some reason => .error (.field model name (.unreadable reason))
    | none => .ok (Entries.get? fields name)

/-- A record held as a JSON object with a string under the primary key. -/
structure Record where
  model : String
  id : String
  fields : List (String × Json)

/-- Why a value has no JSON form. -/
inductive EncodeFault where
  | keyNotText
deriving DecidableEq

def EncodeFault.message : EncodeFault → String
  | .keyNotText => "key must be a string"

namespace Record

/-- A record from its JSON payload. -/
def ofJson (model : String) : Json → Except BuildError Record
  | .obj fields =>
    match Entries.get? fields idField with
    | some (.str id) => .ok ⟨model, id, fields⟩
    | _ => .error (.field model idField .missingId)
  | _ => .error (.field model idField .payloadNotObject)

/-- A record from a value that was encoded as JSON, if it could be. -/
def ofEncoded (model : String) : Except EncodeFault Json → Except BuildError Record
  | .ok payload => ofJson model payload
  | .error fault => .error (.field model "*" (.unreadable fault.message))

def value? (record : Record) (name : String) : Option Json := Entries.get? record.fields name

def view (record : Record) : RecordView where
  model := record.model
  id := record.id
  value name := .ok (record.value? name)

end Record

end ModelSync
