import ModelSync.Proofs.Except
import ModelSync.Request.RecordSelection

/-! What the expansion of a schema finds. Fields are met by following custom types from the
model. An expansion fails only for a fault that a name of the model or a field met has; where it
succeeds, the types may as well be followed without a look at the types above, and no deeper than
there are types. -/
namespace ModelSync

/-- The names of a field that stand in documents. -/
def ModelField.names (field : ModelField) : List String := field.name :: field.targetName?.toList

namespace Schema

/-- The fields met when custom types are followed from the model, with the types entered on the
way, the innermost first. -/
inductive Meets (schema : Schema) : List String → ModelField → Prop where
  | top {field : ModelField} (listed : field ∈ schema.fields) : schema.Meets [] field
  | inside {path : List String} {outer inner : ModelField} {name : String} {custom : CustomType}
      (met : schema.Meets path outer) (type : outer.type = .custom name)
      (found : schema.customTypes.get? name = some custom) (listed : inner ∈ custom.fields) :
      schema.Meets (name :: path) inner

/-- A fault that keeps documents from being built. -/
inductive HasFault (schema : Schema) : SchemaFault → Prop where
  | ownName {name : String} (listed : name ∈ schema.ownNames) (unfit : isName name = false) :
      schema.HasFault (.invalidName name)
  | fieldName {path : List String} {field : ModelField} {name : String}
      (met : schema.Meets path field) (listed : name ∈ field.names) (unfit : isName name = false) :
      schema.HasFault (.invalidName name)
  | unknown {path : List String} {field : ModelField} {name : String}
      (met : schema.Meets path field) (type : field.type = .custom name)
      (missing : schema.customTypes.get? name = none) : schema.HasFault (.unknownCustomType name)
  /-- A type is met again inside of itself. -/
  | recursive {path : List String} {field : ModelField} {name : String}
      (met : schema.Meets path field) (type : field.type = .custom name) (entered : name ∈ path) :
      schema.HasFault (.recursiveCustomType name)

/-- What fields expand to below the types of a path. -/
inductive Expanded (schema : Schema) : List String → List ModelField → List FieldTree → Prop where
  | nil {path : List String} : schema.Expanded path [] []
  | plain {path : List String} {field : ModelField} {rest : List ModelField}
      {trees : List FieldTree} (named : ∀ name ∈ field.names, isName name = true)
      (type : ∀ name, field.type ≠ .custom name) (later : schema.Expanded path rest trees) :
      schema.Expanded path (field :: rest) (.plain field :: trees)
  | nested {path : List String} {field : ModelField} {rest : List ModelField} {name : String}
      {custom : CustomType} {children trees : List FieldTree}
      (named : ∀ name ∈ field.names, isName name = true) (type : field.type = .custom name)
      (fresh : name ∉ path) (found : schema.customTypes.get? name = some custom)
      (inner : schema.Expanded (name :: path) custom.fields children)
      (later : schema.Expanded path rest trees) :
      schema.Expanded path (field :: rest) (.nested field children :: trees)

variable {schema : Schema} {path : List String} {field : ModelField} {fields : List ModelField}
  {trees : List FieldTree} {failure : BuildError}

/-! ## Names -/

theorem checkNames_eq_ok_iff {names : List String} :
    schema.checkNames names = .ok () ↔ ∀ name ∈ names, isName name = true := by
  induction names with
  | nil => simp [checkNames]
  | cons name rest ih =>
    by_cases fit : isName name = true
    · have passed : schema.checkNames (name :: rest) = schema.checkNames rest := by
        simp [checkNames, checkName, fit, Bind.bind, Except.bind]
      rw [passed, ih]
      simp [fit]
    · simp [checkNames, checkName, fit, fault, Bind.bind, Except.bind]

private theorem unfit_of_checkNames {names : List String}
    (failed : schema.checkNames names = .error failure) :
    ∃ name ∈ names, isName name = false ∧ failure = .schema schema.name (.invalidName name) := by
  induction names with
  | nil => cases failed
  | cons name rest ih =>
    rcases Except.bind_eq_error_iff.1 failed with unfit | ⟨_, _, later⟩
    · simp only [checkName, fault] at unfit
      split at unfit
      case isTrue => cases unfit
      case isFalse refused =>
        cases unfit
        exact ⟨name, List.mem_cons_self, by simpa using refused, rfl⟩
    · obtain ⟨other, listed, found⟩ := ih later
      exact ⟨other, List.mem_cons_of_mem _ listed, found⟩

/-! ## Expanding -/

/-- The steps of expanding a field, without the proofs that it ends. -/
theorem expandField_eq (schema : Schema) (path : List String) (field : ModelField) :
    schema.expandField path field = (do
      schema.checkNames field.names
      match field.type with
      | .custom name =>
        if name ∈ path then schema.fault (.recursiveCustomType name)
        else
          match schema.customTypes.get? name with
          | none => schema.fault (.unknownCustomType name)
          | some custom => .nested field <$> schema.expandFields (name :: path) custom.fields
      | _ => return .plain field) := by
  rw [expandField]
  congr 1
  funext _
  cases field.type with
  | custom name =>
    simp only
    split
    · rfl
    · split <;> simp_all
  | _ => rfl

/-- A field expands to itself, or to itself and the fields of its custom type. -/
theorem cases_of_expandField {tree : FieldTree} (done : schema.expandField path field = .ok tree) :
    (∀ name ∈ field.names, isName name = true) ∧
      (tree = .plain field ∧ (∀ name, field.type ≠ .custom name) ∨
        ∃ name custom children, tree = .nested field children ∧ field.type = .custom name ∧
          name ∉ path ∧ schema.customTypes.get? name = some custom ∧
          schema.expandFields (name :: path) custom.fields = .ok children) := by
  rw [expandField_eq] at done
  obtain ⟨_, checked, done⟩ := Except.exists_of_bind_ok done
  refine ⟨checkNames_eq_ok_iff.1 checked, ?_⟩
  cases type : field.type with
  | custom name =>
    simp only [type] at done
    split at done
    case isTrue => cases done
    case isFalse fresh =>
      split at done
      case h_1 => cases done
      case h_2 custom found =>
        obtain ⟨children, inner, same⟩ := Except.map_eq_ok_iff.1 done
        exact .inr ⟨name, custom, children, same.symm, rfl, fresh, found, inner⟩
  | _ =>
    simp only [type] at done
    cases done
    exact .inl ⟨rfl, nofun⟩

theorem expanded_of_expandFields {path : List String} {fields : List ModelField}
    {trees : List FieldTree} (done : schema.expandFields path fields = .ok trees) :
    schema.Expanded path fields trees := by
  match fields with
  | [] =>
    rw [expandFields] at done
    cases done
    exact .nil
  | field :: rest =>
    rw [expandFields] at done
    obtain ⟨tree, first, done⟩ := Except.exists_of_bind_ok done
    obtain ⟨others, after, done⟩ := Except.exists_of_bind_ok done
    cases done
    have later := expanded_of_expandFields after
    obtain ⟨named, ⟨rfl, type⟩ | ⟨name, custom, children, rfl, type, fresh, found, inner⟩⟩ :=
      cases_of_expandField first
    · exact .plain named type later
    · have := schema.unentered_cons_lt fresh found
      exact .nested named type fresh found (expanded_of_expandFields inner) later
termination_by ((schema.unentered path).length, fields.length)

/-- A field that cannot be expanded has a fault, or a field of its type has. -/
theorem cases_of_expandField_error (failed : schema.expandField path field = .error failure) :
    (∃ name ∈ field.names, isName name = false ∧
        failure = .schema schema.name (.invalidName name)) ∨
      ∃ name, field.type = .custom name ∧
        (name ∈ path ∧ failure = .schema schema.name (.recursiveCustomType name) ∨
          schema.customTypes.get? name = none ∧
            failure = .schema schema.name (.unknownCustomType name) ∨
          ∃ custom, name ∉ path ∧ schema.customTypes.get? name = some custom ∧
            schema.expandFields (name :: path) custom.fields = .error failure) := by
  rw [expandField_eq] at failed
  rcases Except.bind_eq_error_iff.1 failed with unfit | ⟨_, _, failed⟩
  · exact .inl (unfit_of_checkNames unfit)
  · cases type : field.type with
    | custom name =>
      refine .inr ⟨name, rfl, ?_⟩
      simp only [type] at failed
      split at failed
      case isTrue entered =>
        cases failed
        exact .inl ⟨entered, rfl⟩
      case isFalse fresh =>
        split at failed
        case h_1 missing =>
          cases failed
          exact .inr (.inl ⟨missing, rfl⟩)
        case h_2 custom found =>
          exact .inr (.inr ⟨custom, fresh, found, Except.map_eq_error_iff.1 failed⟩)
    | _ =>
      simp only [type] at failed
      cases failed

/-- An expansion of fields that are met fails for a fault of the schema. -/
theorem fault_of_expandFields {path : List String} {fields : List ModelField}
    (met : ∀ field ∈ fields, schema.Meets path field)
    (failed : schema.expandFields path fields = .error failure) :
    ∃ fault, failure = .schema schema.name fault ∧ schema.HasFault fault := by
  match fields with
  | [] =>
    rw [expandFields] at failed
    cases failed
  | field :: rest =>
    have here := met field List.mem_cons_self
    rw [expandFields] at failed
    rcases Except.bind_eq_error_iff.1 failed with first | ⟨tree, _, failed⟩
    · obtain ⟨name, listed, unfit, rfl⟩ |
        ⟨name, type, ⟨entered, rfl⟩ | ⟨missing, rfl⟩ | ⟨custom, fresh, found, inner⟩⟩ :=
        cases_of_expandField_error first
      · exact ⟨_, rfl, .fieldName here listed unfit⟩
      · exact ⟨_, rfl, .recursive here type entered⟩
      · exact ⟨_, rfl, .unknown here type missing⟩
      · have := schema.unentered_cons_lt fresh found
        exact fault_of_expandFields (fun _ listed => .inside here type found listed) inner
    · rcases Except.bind_eq_error_iff.1 failed with later | ⟨_, _, done⟩
      · exact fault_of_expandFields (fun _ listed => met _ (List.mem_cons_of_mem _ listed)) later
      · cases done
termination_by ((schema.unentered path).length, fields.length)

/-- A schema that expands has names of its own, and its fields expand. -/
theorem expanded_of_expand (done : schema.expand = .ok trees) :
    (∀ name ∈ schema.ownNames, isName name = true) ∧ schema.Expanded [] schema.fields trees := by
  obtain ⟨_, checked, done⟩ := Except.exists_of_bind_ok done
  exact ⟨checkNames_eq_ok_iff.1 checked, expanded_of_expandFields done⟩

theorem expandFields_of_expanded (expanded : schema.Expanded path fields trees) :
    schema.expandFields path fields = .ok trees := by
  induction expanded with
  | nil => rw [expandFields]
  | @plain path field rest trees named type later after =>
    have tree : schema.expandField path field = .ok (.plain field) := by
      rw [expandField_eq, checkNames_eq_ok_iff.2 named]
      cases kind : field.type with
      | custom name => exact absurd kind (type name)
      | _ => rfl
    rw [expandFields, tree, after]
    rfl
  | @nested path field rest name custom children trees named type fresh found _ _ below after =>
    have tree : schema.expandField path field = .ok (.nested field children) := by
      rw [expandField_eq, checkNames_eq_ok_iff.2 named]
      simp only [type, fresh, ↓reduceIte, found, below]
      rfl
    rw [expandFields, tree, after]
    rfl

/-- A schema expands exactly if it has names of its own and its fields expand. -/
theorem expand_eq_ok_iff :
    schema.expand = .ok trees ↔
      (∀ name ∈ schema.ownNames, isName name = true) ∧ schema.Expanded [] schema.fields trees := by
  refine ⟨expanded_of_expand, ?_⟩
  rintro ⟨names, expanded⟩
  exact Except.bind_eq_ok_iff.2
    ⟨(), checkNames_eq_ok_iff.2 names, expandFields_of_expanded expanded⟩

private theorem fault_of_expand (failed : schema.expand = .error failure) :
    ∃ fault, failure = .schema schema.name fault ∧ schema.HasFault fault := by
  rcases Except.bind_eq_error_iff.1 failed with unfit | ⟨_, _, failed⟩
  · obtain ⟨name, listed, refused, rfl⟩ := unfit_of_checkNames unfit
    exact ⟨_, rfl, .ownName listed refused⟩
  · exact fault_of_expandFields (fun _ listed => .top listed) failed

theorem validate_eq_ok_iff : schema.validate = .ok () ↔ ∃ trees, schema.expand = .ok trees := by
  constructor
  · intro valid
    obtain ⟨trees, done, _⟩ := Except.exists_of_bind_ok valid
    exact ⟨trees, done⟩
  · rintro ⟨trees, done⟩
    exact Except.bind_eq_ok_iff.2 ⟨trees, done, rfl⟩

theorem validate_eq_error_iff :
    schema.validate = .error failure ↔ schema.expand = .error failure := by
  unfold validate
  rw [Except.bind_eq_error_iff]
  refine ⟨?_, .inl⟩
  rintro (failed | ⟨_, _, done⟩)
  · exact failed
  · cases done

/-- A schema that is refused has the fault that is reported. -/
theorem fault_of_validate (refused : schema.validate = .error failure) :
    ∃ fault, failure = .schema schema.name fault ∧ schema.HasFault fault :=
  fault_of_expand (validate_eq_error_iff.1 refused)

/-- There is a selection of records exactly if the schema is fit for documents. -/
theorem recordSelection_eq_ok_iff :
    (∃ entries, schema.recordSelection = .ok entries) ↔ schema.validate = .ok () := by
  rw [validate_eq_ok_iff]
  constructor
  · rintro ⟨entries, selected⟩
    obtain ⟨trees, expanded, _⟩ := Except.exists_of_bind_ok selected
    exact ⟨trees, expanded⟩
  · rintro ⟨trees, expanded⟩
    exact ⟨_, Except.bind_eq_ok_iff.2 ⟨trees, expanded, rfl⟩⟩

theorem validate_of_recordSelection (failed : schema.recordSelection = .error failure) :
    schema.validate = .error failure := by
  rw [validate_eq_error_iff]
  rcases Except.bind_eq_error_iff.1 failed with unexpanded | ⟨_, _, done⟩
  · exact unexpanded
  · cases done

/-! ## Following types without a look at the path -/

/-- The entries of fields in declaration order, when every custom type is looked up where it is
met and its entries come from below. -/
def entriesFrom (schema : Schema)
    (below : List ModelField → ExceptT BuildError Option (List Selection)) :
    List ModelField → ExceptT BuildError Option (List Selection)
  | [] => return []
  | field :: rest =>
    if field.isHasMany then schema.entriesFrom below rest
    else do
      let children ←
        match field.type with
        | .custom name =>
          match schema.customTypes.get? name with
          | none => throw (.schema schema.name (.unknownCustomType name))
          | some custom => Selection.sorted <$> below custom.fields
        | .model _ => pure [.leaf idField]
        | _ => pure []
      return .node field.name children :: (← schema.entriesFrom below rest)

/-- The entries of fields when types are followed with no record of the types above. Such a
search need not end, so there is no answer where types lie deeper than a bound. -/
def entriesWithin (schema : Schema) :
    Nat → List ModelField → ExceptT BuildError Option (List Selection)
  | 0 => schema.entriesFrom fun _ => .mk none
  | depth + 1 => schema.entriesFrom (schema.entriesWithin depth)

/-- Where fields expand, their entries are those of their trees, if that holds of the types met. -/
theorem entriesFrom_of_expanded
    {below : List ModelField → ExceptT BuildError Option (List Selection)}
    (expanded : schema.Expanded path fields trees)
    (lower : ∀ name custom children, name ∉ path → schema.customTypes.get? name = some custom →
      schema.Expanded (name :: path) custom.fields children →
      below custom.fields = pure (FieldTree.selections children)) :
    schema.entriesFrom below fields = pure (FieldTree.selections trees) := by
  induction expanded with
  | nil => rfl
  | @plain path field rest trees named type later ih =>
    have rest := ih lower
    by_cases many : field.isHasMany = true
    · simp [entriesFrom, FieldTree.selections, FieldTree.selection?, many, rest]
    · cases kind : field.type with
      | custom name => exact absurd kind (type name)
      | _ =>
        simp [entriesFrom, FieldTree.selections, FieldTree.selection?, many, rest, kind,
          Selection.leaf]
  | @nested path field rest name custom children trees named type fresh found inner later _ ih =>
    have rest := ih lower
    have nested := lower name custom children fresh found inner
    by_cases many : field.isHasMany = true
    · simp [entriesFrom, FieldTree.selections, FieldTree.selection?, many, rest]
    · simp [entriesFrom, FieldTree.selections, FieldTree.selection?, many, rest, type, found,
        nested]

/-- What expands is followed to its end without a look at the path, no deeper than there are types
to enter. -/
theorem entriesWithin_of_expanded {depth : Nat} (expanded : schema.Expanded path fields trees)
    (deep : (schema.unentered path).length ≤ depth) :
    schema.entriesWithin depth fields = pure (FieldTree.selections trees) := by
  induction depth generalizing path fields trees with
  | zero =>
    apply entriesFrom_of_expanded expanded
    intro name custom children fresh found _
    have := schema.unentered_cons_lt fresh found
    omega
  | succ depth ih =>
    apply entriesFrom_of_expanded expanded
    intro name custom children fresh found inner
    have := schema.unentered_cons_lt fresh found
    exact ih inner (by omega)

/-! ## A journal -/

/-- The fields of a place. -/
def placeFields : List ModelField :=
  [.optional "city" (.scalar .string), .optional "position" (.custom "Position")]

/-- The fields of a position. -/
def positionFields : List ModelField := [.required "east" (.scalar .float)]

/-- The fields of a journal entry. Two of them contribute the key of the author. -/
def journalFields : List ModelField :=
  [.required idField (.scalar .id), .optional "text" (.scalar .string),
    .optional "place" (.custom "Place"), .belongsTo "author" "Person" "authorId",
    .belongsTo "editor" "Person" "editorId", .optional "authorId" (.scalar .id),
    .hasMany "comments" "Comment",
    (ModelField.optional "createdAt" (.scalar .awsDateTime)).readOnly, .optional "owner" (.scalar .string)]

/-- Journal entries, which have a place, an owner and an editor. There is a type that no field leads
to, and its names are fit for no document. -/
def journal : Schema where
  name := "Entry"
  pluralName := some "Entries"
  fields := journalFields
  customTypes := .ofList [("Place", ⟨"Place", placeFields⟩),
    ("Position", ⟨"Position", positionFields⟩),
    ("Lost", ⟨"Lost", [.optional "city\x7d" (.custom "Lost")]⟩)]
  rules := [{ strategy := .owner },
    { strategy := .owner, ownerField := "editorId", identityClaim := "sub" }]

theorem validate_journal : journal.validate = .ok () := by
  have position : journal.Expanded ["Position", "Place"] positionFields _ :=
    .plain (by decide) nofun .nil
  have place : journal.Expanded ["Place"] placeFields _ :=
    .plain (by decide) nofun (.nested (by decide) rfl (by decide) rfl position .nil)
  have others : journal.Expanded [] (journalFields.drop 3) _ :=
    .plain (by decide) nofun <| .plain (by decide) nofun <| .plain (by decide) nofun <|
    .plain (by decide) nofun <| .plain (by decide) nofun <| .plain (by decide) nofun .nil
  have entry : journal.Expanded [] journalFields _ :=
    .plain (by decide) nofun <| .plain (by decide) nofun <|
    .nested (by decide) rfl (by decide) rfl place others
  exact validate_eq_ok_iff.2 ⟨_, expand_eq_ok_iff.2 ⟨by decide, entry⟩⟩

end Schema

end ModelSync
