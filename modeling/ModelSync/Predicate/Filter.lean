import ModelSync.BuildError
import ModelSync.Predicate

/-! Compiling predicates into the backend's filters: a leaf becomes
`field: operator: literal`, a conjunction or disjunction lists its children in order,
a negation holds its one child, and the predicate that matches everything has no filter.
Literals pass through untouched. -/
namespace ModelSync

/-- A filter expression: an object with a single member. -/
abbrev Filter := List (String × Json)

/-- What an operator compares with. A range is a list of its two ends. -/
def Operator.operand : Operator → Json
  | .compare _ operand => operand
  | .between low high => .arr [low, high]

namespace Predicate

variable {α : Type}

private def fault (fault : PredicateFault) : Except BuildError α := .error (.predicate fault)

mutual

/-- Compile a predicate that may stand inside a group. -/
def compileNode : Predicate → Except BuildError Filter
  | .all => fault .nestedAll
  | .leaf field operator => .ok [(field, .obj [(operator.name, operator.operand)])]
  | .group kind children =>
    match kind, children with
    | .not, [child] => do return [("not", .obj (← compileNode child))]
    | .not, children => fault (.negationArity children.length)
    | kind, children => do return [(kind.name, .arr (← compileNodes children))]

/-- Compile children in order; the first failure is reported. -/
def compileNodes : List Predicate → Except BuildError (List Json)
  | [] => .ok []
  | child :: rest => do
    let first ← compileNode child
    let others ← compileNodes rest
    return .obj first :: others

end

/-- The filter of a predicate, or nothing for the one that matches everything. -/
def compile : Predicate → Except BuildError (Option Filter)
  | .all => .ok none
  | predicate => some <$> predicate.compileNode

end Predicate

end ModelSync
