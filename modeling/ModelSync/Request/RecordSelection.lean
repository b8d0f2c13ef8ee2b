import ModelSync.Request
import ModelSync.Schema.Expansion

/-! What a document selects of a record: the fields in name order with custom types
expanded, references reduced to their key, lists of other models left out, and the
metadata that the backend maintains. -/
namespace ModelSync

/-- The marker of a deleted record. -/
def deletedField : String := "_deleted"

/-- The time of the last change. -/
def lastChangedAtField : String := "_lastChangedAt"

/-- The version that updates and deletions are checked against. -/
def versionField : String := "_version"

/-- Entries in name order. Those of one name keep their order. -/
def Selection.sorted (entries : List Selection) : List Selection :=
  entries.mergeSort fun a b => a.name ≤ b.name

mutual

/-- The entry of a field, unless another model holds the key. -/
def FieldTree.selection? : FieldTree → Option Selection
  | .plain field =>
    if field.isHasMany then none
    else
      match field.type with
      | .model _ => some (.node field.name [.leaf idField])
      | _ => some (.leaf field.name)
  | .nested field children =>
    if field.isHasMany then none
    else some (.node field.name (Selection.sorted (FieldTree.selections children)))

/-- The entries of several fields, in declaration order. -/
def FieldTree.selections : List FieldTree → List Selection
  | [] => []
  | tree :: rest => (FieldTree.selection? tree).toList ++ FieldTree.selections rest

end

/-- What is selected of every record besides the fields of its model. -/
def metadataSelection : List Selection :=
  [.leaf deletedField, .leaf lastChangedAtField, .leaf versionField]

/-- What is selected of a record of the schema. -/
def Schema.recordSelection (schema : Schema) : Except BuildError (List Selection) := do
  let trees ← schema.expand
  return Selection.sorted (FieldTree.selections trees ++ metadataSelection)

end ModelSync
