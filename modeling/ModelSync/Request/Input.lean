import ModelSync.Record
import ModelSync.Schema.Expansion

/-! The input of mutations. Each sendable field of the record contributes one entry. The
backend fills an owner field that the input leaves out but rejects a null there, so null
owner fields are dropped. -/
namespace ModelSync

namespace Schema

/-- Drop every owner field whose value is null. -/
def withoutNullOwners (schema : Schema) (input : Entries Json) : Entries Json :=
  schema.ownerRules.foldl
    (fun input rule =>
      match input.get? rule.ownerField with
      | some .null => input.erase rule.ownerField
      | _ => input)
    input

/-- A failure on a field of this schema. -/
def fieldFault {α : Type} (schema : Schema) (name : String) (fault : FieldFault) :
    Except BuildError α :=
  .error (.field schema.name name fault)

/-- The key that a reference contributes: null, the key itself, or the key of the
referenced record. -/
def referenceKey (schema : Schema) (field : ModelField) (value : Json) : Except BuildError Json :=
  match value with
  | .null => .ok .null
  | .str key => .ok (.str key)
  | .obj members =>
    match Entries.get? members idField with
    | some (.str key) => .ok (.str key)
    | _ => schema.fieldFault field.name .referenceWithoutId
  | _ => schema.fieldFault field.name .notReference

/-- A list field holds a list or null. -/
def checkList (schema : Schema) (field : ModelField) (value : Json) : Except BuildError Unit :=
  match field.isArray, value with
  | false, _ | true, .arr _ | true, .null => .ok ()
  | true, _ => schema.fieldFault field.name .notList

/-- The entry of a field for a value of the record: a reference goes under its target
name, anything else under its own. -/
def inputEntry (schema : Schema) (field : ModelField) (value : Json) :
    Except BuildError (String × Json) :=
  match field.targetName? with
  | some targetName => do return (targetName, ← schema.referenceKey field value)
  | none => do
    schema.checkList field value
    return (field.name, value)

/-- The entries of the fields that are sent, in declaration order. -/
def inputEntries (schema : Schema) (record : RecordView) :
    List ModelField → Except BuildError (List (String × Json))
  | [] => .ok []
  | field :: rest =>
    if field.isReadOnly || field.isHasMany then schema.inputEntries record rest
    else do
      match ← record.value field.name with
      | none => schema.inputEntries record rest
      | some value =>
        let entry ← schema.inputEntry field value
        let entries ← schema.inputEntries record rest
        return entry :: entries

/-- The input that creates a record. Of two fields with one key the later one is sent. -/
def mutationInput (schema : Schema) (record : RecordView) : Except BuildError (Entries Json) := do
  schema.validate
  if record.model ≠ schema.name then
    schema.fieldFault idField (.wrongModel record.id record.model)
  else
    let entries ← schema.inputEntries record schema.fields
    return schema.withoutNullOwners (Entries.ofList entries)

end Schema

end ModelSync
