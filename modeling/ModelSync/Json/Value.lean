import ModelSync.Json.Number
import ModelSync.KeyMap

/-! JSON values. The members of an object are entries in ascending key order, which
every function of the library that builds an object keeps. -/
namespace ModelSync

/-- A JSON value. -/
inductive Json where
  | null
  | bool (value : Bool)
  | num (value : Number)
  | str (value : String)
  | arr (items : List Json)
  | obj (members : List (String × Json))

namespace Json

instance : Inhabited Json := ⟨.null⟩

/-- An object of the given members; of several for one key the last is kept. -/
def ofMembers (members : List (String × Json)) : Json := .obj (Entries.ofList members)

def ofUInt64 (value : UInt64) : Json := .num (.ofUInt64 value)

def ofUInt32 (value : UInt32) : Json := .num (.ofUInt32 value)

/-- The text of a string value. -/
def asString? : Json → Option String
  | .str value => some value
  | _ => none

/-- The member of an object under a key. -/
def member? : Json → String → Option Json
  | .obj members, key => Entries.get? members key
  | _, _ => none

mutual

/-- Equal as JSON. Numbers are compared as numbers, so the two zeros are equal; all
else has to agree exactly. -/
def same : Json → Json → Bool
  | .null, .null => true
  | .bool a, .bool b => a == b
  | .num a, .num b => a.sameNumber b
  | .str a, .str b => a == b
  | .arr a, .arr b => sameItems a b
  | .obj a, .obj b => sameMembers a b
  | _, _ => false

/-- Two lists agree item by item. -/
def sameItems : List Json → List Json → Bool
  | [], [] => true
  | a :: restA, b :: restB => same a b && sameItems restA restB
  | _, _ => false

/-- Two objects agree member by member. -/
def sameMembers : List (String × Json) → List (String × Json) → Bool
  | [], [] => true
  | (keyA, a) :: restA, (keyB, b) :: restB => keyA == keyB && same a b && sameMembers restA restB
  | _, _ => false

end

end Json

end ModelSync
