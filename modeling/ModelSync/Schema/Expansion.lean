import ModelSync.BuildError
import ModelSync.Schema

/-! Expanding the custom types of a schema. Each field is followed into its custom type;
the result is a tree, which exists exactly when every name is fit for a document, every
custom type is known, and none contains itself. -/
namespace ModelSync

/-- A field with the fields of its custom type, if it has one. -/
inductive FieldTree where
  | plain (field : ModelField)
  | nested (field : ModelField) (children : List FieldTree)

namespace Schema

variable {α : Type}

/-- A failure of this schema. -/
def fault (schema : Schema) (fault : SchemaFault) : Except BuildError α :=
  .error (.schema schema.name fault)

def checkName (schema : Schema) (name : String) : Except BuildError Unit :=
  if isName name then .ok () else schema.fault (.invalidName name)

def checkNames (schema : Schema) : List String → Except BuildError Unit
  | [] => .ok ()
  | name :: rest => do
    schema.checkName name
    schema.checkNames rest

/-- The custom types that a path has not entered. -/
def unentered (schema : Schema) (path : List String) : List String :=
  schema.customTypes.keys.filter fun name => !path.contains name

private theorem filter_length_lt {p q : String → Bool} {names : List String} {name : String}
    (member : name ∈ names) (kept : p name = true) (dropped : q name = false)
    (included : ∀ other, q other = true → p other = true) :
    (names.filter q).length < (names.filter p).length := by
  induction names with
  | nil => cases member
  | cons head rest ih =>
    have weaker : (rest.filter q).length ≤ (rest.filter p).length := by
      clear ih member
      induction rest with
      | nil => simp
      | cons other others ih =>
        by_cases taken : q other = true
        · simp [taken, included other taken, ih]
        · by_cases seen : p other = true
          · simp [taken, seen]; omega
          · simp [taken, seen, ih]
    rcases List.mem_cons.1 member with same | later
    · subst same
      simp [kept, dropped]
      omega
    · have shorter := ih later
      by_cases taken : q head = true
      · simp [taken, included head taken, shorter]
      · by_cases seen : p head = true
        · simp [taken, seen]; omega
        · simp [taken, seen, shorter]

/-- Entering a custom type leaves fewer to enter. -/
theorem unentered_cons_lt (schema : Schema) {path : List String} {name : String}
    {custom : CustomType} (fresh : name ∉ path)
    (found : schema.customTypes.get? name = some custom) :
    (schema.unentered (name :: path)).length < (schema.unentered path).length := by
  refine filter_length_lt (Entries.mem_keys_iff.2 ⟨custom, found⟩) ?_ ?_ ?_
  · simpa using fresh
  · simp
  · intro other outside
    simp only [List.contains_cons, Bool.not_or, Bool.and_eq_true] at outside
    exact outside.2

mutual

/-- Expand a field below the custom types on the path. Its names are checked before its
type is followed. -/
def expandField (schema : Schema) (path : List String) (field : ModelField) :
    Except BuildError FieldTree := do
  schema.checkNames (field.name :: field.targetName?.toList)
  match field.type with
  | .custom name =>
    if entered : name ∈ path then schema.fault (.recursiveCustomType name)
    else
      match found : schema.customTypes.get? name with
      | none => schema.fault (.unknownCustomType name)
      | some custom =>
        have := schema.unentered_cons_lt entered found
        .nested field <$> schema.expandFields (name :: path) custom.fields
  | _ => return .plain field
termination_by ((schema.unentered path).length, 0)

/-- Expand fields in declaration order; the first fault is reported. -/
def expandFields (schema : Schema) (path : List String) :
    List ModelField → Except BuildError (List FieldTree)
  | [] => .ok []
  | field :: rest => do
    let tree ← schema.expandField path field
    let trees ← schema.expandFields path rest
    return tree :: trees
termination_by fields => ((schema.unentered path).length, fields.length)

end

/-- The names that the whole model contributes: its own two, and a field for each owner
rule. -/
def ownNames (schema : Schema) : List String :=
  schema.name :: schema.plural :: schema.ownerRules.map AuthRule.ownerField

/-- The fields of the model with all custom types expanded. -/
def expand (schema : Schema) : Except BuildError (List FieldTree) := do
  schema.checkNames schema.ownNames
  schema.expandFields [] schema.fields

/-- The schema is fit for documents. -/
def validate (schema : Schema) : Except BuildError Unit := do
  let _trees ← schema.expand
  return ()

end Schema

end ModelSync
