import ModelSync.Json.Value

/-! Query predicates: immutable trees whose leaves compare a field with a literal and
whose groups combine children. One distinguished predicate matches everything. -/
namespace ModelSync

/-- A comparison with one operand. -/
inductive Comparison where
  | eq
  | ne
  | gt
  | ge
  | lt
  | le
  | contains
  | notContains
  | beginsWith
deriving DecidableEq

/-- The comparisons by their names in filters, in declaration order. -/
def Comparison.named : List (String × Comparison) :=
  [("eq", .eq), ("ne", .ne), ("gt", .gt), ("ge", .ge), ("lt", .lt), ("le", .le),
    ("contains", .contains), ("notContains", .notContains), ("beginsWith", .beginsWith)]

/-- The name of a comparison in filters. -/
def Comparison.name : Comparison → String
  | .eq => "eq"
  | .ne => "ne"
  | .gt => "gt"
  | .ge => "ge"
  | .lt => "lt"
  | .le => "le"
  | .contains => "contains"
  | .notContains => "notContains"
  | .beginsWith => "beginsWith"

/-- What is asked of a single field. -/
inductive Operator where
  | compare (comparison : Comparison) (operand : Json)
  | between (low high : Json)

/-- The name of an operator in filters. -/
def Operator.name : Operator → String
  | .compare comparison _ => comparison.name
  | .between _ _ => "between"

/-- How a group combines its children. -/
inductive GroupKind where
  | and
  | or
  | not
deriving DecidableEq

/-- The kinds of group by their names, in declaration order. -/
def GroupKind.named : List (String × GroupKind) := [("and", .and), ("or", .or), ("not", .not)]

/-- The name of a kind of group in filters. -/
def GroupKind.name : GroupKind → String
  | .and => "and"
  | .or => "or"
  | .not => "not"

/-- A predicate. -/
inductive Predicate where
  /-- Matches everything. -/
  | all
  | leaf (field : String) (operator : Operator)
  | group (kind : GroupKind) (children : List Predicate)

namespace Predicate

instance : Inhabited Predicate := ⟨.all⟩

def isAll : Predicate → Bool
  | .all => true
  | _ => false

/-- A comparison of a field with a literal. -/
def comparing (field : String) (comparison : Comparison) (operand : Json) : Predicate :=
  .leaf field (.compare comparison operand)

/-- The field lies between two literals. -/
def between (field : String) (low high : Json) : Predicate := .leaf field (.between low high)

/-- Append to a group of this kind, or make a group of both. Only the receiver is ever
taken apart. -/
def combine (kind : GroupKind) (receiver other : Predicate) : Predicate :=
  match receiver with
  | .group held children =>
    if held = kind then .group kind (children ++ [other]) else .group kind [receiver, other]
  | _ => .group kind [receiver, other]

protected def and (receiver other : Predicate) : Predicate := combine .and receiver other

protected def or (receiver other : Predicate) : Predicate := combine .or receiver other

protected def not (predicate : Predicate) : Predicate := .group .not [predicate]

end Predicate

/-- Equal as operators, with literals compared as JSON. -/
def Operator.same : Operator → Operator → Bool
  | .compare a operandA, .compare b operandB => a == b && operandA.same operandB
  | .between lowA highA, .between lowB highB => lowA.same lowB && highA.same highB
  | _, _ => false

mutual

/-- Equal as predicates, with literals compared as JSON. -/
def Predicate.same : Predicate → Predicate → Bool
  | .all, .all => true
  | .leaf fieldA a, .leaf fieldB b => fieldA == fieldB && a.same b
  | .group kindA a, .group kindB b => kindA == kindB && Predicate.sameChildren a b
  | _, _ => false

/-- Two lists of predicates agree one by one. -/
def Predicate.sameChildren : List Predicate → List Predicate → Bool
  | [], [] => true
  | a :: restA, b :: restB => a.same b && Predicate.sameChildren restA restB
  | _, _ => false

end

end ModelSync
