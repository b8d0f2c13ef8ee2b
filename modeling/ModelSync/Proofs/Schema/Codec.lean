import ModelSync.Proofs.Json.Loosening
import ModelSync.Schema.Codec

/-! Schemas are read back as they were written, and as they may be written more loosely: without
members that have their defaults, and with members that no structure has. This holds at every depth,
for the fields of the model, for those of its custom types and for the rules. -/
namespace ModelSync

/-! ## Forms -/

/-- A reference is written as a structure of its own. -/
inductive LooseAssociation : Json → Json → Prop where
  | same (json : Json) : LooseAssociation json json
  | payload {old new : Json} (members : Loose [{ key := "target_name" }] old new) :
      LooseAssociation (.obj [("belongsTo", old)]) (.obj [("belongsTo", new)])

def ModelField.forms : List FieldForm :=
  [{ key := "name" }, { key := "fieldType" }, { key := "required" },
    { key := "isArray", default := some (.bool false) },
    { key := "readOnly", default := some (.bool false) },
    { key := "association", inside := LooseAssociation }]

def CustomType.forms : List FieldForm :=
  [{ key := "name" }, { key := "fields", inside := LooseItems (Loose ModelField.forms) }]

def AuthRule.forms : List FieldForm :=
  [{ key := "strategy" }, { key := "provider" },
    { key := "ownerField", default := some (.str "owner") },
    { key := "identityClaim", default := some (.str "username") },
    { key := "groupClaim", default := some (.str "cognito:groups") },
    { key := "groups", default := some (.arr []) }]

def Schema.forms : List FieldForm :=
  [{ key := "name" }, { key := "pluralName" },
    { key := "fields", inside := LooseItems (Loose ModelField.forms) },
    { key := "customTypes", default := some (.obj []),
      inside := LooseValues (Loose CustomType.forms) },
    { key := "authRules", default := some (.arr []), inside := LooseItems (Loose AuthRule.forms) }]

/-! ## Names and alternatives -/

theorem FieldType.decode_encode (type : FieldType) : FieldType.decode type.encode = .ok type := by
  cases type with
  | scalar kind => cases kind <;> rfl
  | enumeration | custom | model => rfl

theorem AuthStrategy.decode_encode (strategy : AuthStrategy) :
    AuthStrategy.decode strategy.encode = .ok strategy := by
  cases strategy <;> rfl

private theorem AuthProvider.optional_decode_encode (provider : AuthProvider) :
    Decode.optional AuthProvider.decode provider.encode = .ok (some provider) := by
  cases provider <;> rfl

/-! ## What is written under a key -/

section written

variable {α : Type} {members : List (String × Json)} {name key : String} {encode : α → Json}
  {value : Option α} {held : Json}

private theorem get?_reverse_optionalMember :
    Entries.get? (optionalMember name encode value).reverse key =
      if name = key then value.map encode else none := by
  cases value <;> simp [optionalMember, Entries.get?]

/-- A member that is always written is not hidden by an optional one. -/
theorem get?_always (differs : name ≠ key)
    (found : Entries.get? members.reverse key = some held) :
    Entries.get? (Entries.ofList (members ++ optionalMember name encode value)) key =
      some held := by
  rw [Entries.get?_ofList_eq, List.reverse_append, Entries.get?_append,
    get?_reverse_optionalMember, if_neg differs, found, Option.none_or]

/-- An optional member is there if there is a value. -/
theorem get?_optionally (absent : Entries.get? members.reverse name = none) :
    Entries.get? (Entries.ofList (members ++ optionalMember name encode value)) name =
      value.map encode := by
  rw [Entries.get?_ofList_eq, List.reverse_append, Entries.get?_append,
    get?_reverse_optionalMember, if_pos rfl, absent, Option.or_none]

private theorem forall_mem_optionalMember {holds : String × Json → Prop}
    (each : ∀ held ∈ value, holds (name, encode held)) :
    ∀ entry ∈ optionalMember name encode value, holds entry := by
  cases value with
  | none => exact List.forall_mem_nil _
  | some held => exact List.forall_mem_singleton.2 (each held rfl)

end written

private theorem decode_texts (texts : List String) :
    Decode.list Decode.text (.arr (texts.map .str)) = .ok texts :=
  have same : LooseItems Eq (.arr (texts.map .str)) (.arr (texts.map .str)) :=
    .list (List.forall₂_refl _)
  list_of_looseItems same fun _ _ same => same ▸ rfl

variable {json : Json}

/-! ## Structures -/

theorem Association.decode_of_loose {association : Association}
    (loose : LooseAssociation association.encode json) :
    Decode.optional Association.decode json = .ok (some association) := by
  -- What is written is not a constructor applied to variables: it needs a name for the cases.
  generalize written : association.encode = old at loose
  cases association with
  | hasMany =>
    subst written
    cases loose
    rfl
  | belongsTo targetName =>
    cases loose with
    | same =>
      subst written
      rfl
    | payload loose =>
      cases written
      obtain ⟨new, rfl, members⟩ := loose.exists_members
      have target : Decode.field new "target_name" Decode.text = .ok (some targetName) :=
        members.field_plain (.str targetName) rfl rfl rfl
      have payload : belongsToPayload (some (.obj new)) = .ok (.belongsTo targetName) := by
        simp only [belongsToPayload, target]
        rfl
      show some <$> belongsToPayload (some (.obj new)) = _
      rw [payload]
      rfl

theorem ModelField.decode_of_loose {field : ModelField}
    (loose : Loose ModelField.forms field.encode json) :
    ModelField.decode json = .ok field := by
  obtain ⟨new, rfl, members⟩ := loose.exists_members
  have name : Decode.field new "name" Decode.text = .ok (some field.name) :=
    members.field_plain (.str field.name) rfl (get?_always (by decide) rfl) rfl
  have type : Decode.field new "fieldType" FieldType.decode = .ok (some field.type) :=
    members.field_plain field.type.encode rfl (get?_always (by decide) rfl)
      field.type.decode_encode
  have required : Decode.field new "required" Decode.boolean = .ok (some field.isRequired) :=
    members.field_plain (.bool field.isRequired) rfl (get?_always (by decide) rfl) rfl
  obtain ⟨isArray, array, isArray_eq⟩ : ∃ read,
      Decode.field new "isArray" Decode.boolean = .ok read ∧ read.getD false = field.isArray :=
    members.field_plainDefaulted (.bool field.isArray) rfl (get?_always (by decide) rfl)
      rfl Json.bool.inj
  obtain ⟨isReadOnly, readOnly, isReadOnly_eq⟩ : ∃ read,
      Decode.field new "readOnly" Decode.boolean = .ok read ∧ read.getD false = field.isReadOnly :=
    members.field_plainDefaulted (.bool field.isReadOnly) rfl (get?_always (by decide) rfl)
      rfl Json.bool.inj
  obtain ⟨related, association, related_eq⟩ : ∃ read,
      Decode.field new "association" (Decode.optional Association.decode) = .ok read ∧
        read.join = field.association :=
    members.field_optional Association.encode rfl (get?_optionally rfl)
      fun _ _ => Association.decode_of_loose
  show ModelField.ofMembers new = .ok field
  simp only [ModelField.ofMembers, name, type, required, array, readOnly, association]
  show Except.ok (ModelField.mk _ _ _ (isArray.getD false) (isReadOnly.getD false) related.join) = _
  rw [isArray_eq, isReadOnly_eq, related_eq]

theorem CustomType.decode_of_loose {custom : CustomType}
    (loose : Loose CustomType.forms custom.encode json) :
    CustomType.decode json = .ok custom := by
  obtain ⟨new, rfl, members⟩ := loose.exists_members
  have name : Decode.field new "name" Decode.text = .ok (some custom.name) :=
    members.field_plain (.str custom.name) rfl (Entries.get?_ofList_eq ..) rfl
  have fields : Decode.field new "fields" (Decode.list ModelField.decode) =
      .ok (some custom.fields) :=
    members.field_required (.arr (custom.fields.map ModelField.encode)) rfl
      (Entries.get?_ofList_eq ..)
      fun _ kept => list_of_looseItems kept fun _ _ => ModelField.decode_of_loose
  show CustomType.ofMembers new = .ok custom
  simp only [CustomType.ofMembers, name, fields]
  rfl

theorem AuthRule.decode_of_loose {rule : AuthRule}
    (loose : Loose AuthRule.forms rule.encode json) : AuthRule.decode json = .ok rule := by
  obtain ⟨new, rfl, members⟩ := loose.exists_members
  have strategy : Decode.field new "strategy" AuthStrategy.decode = .ok (some rule.strategy) :=
    members.field_plain rule.strategy.encode rfl (get?_always (by decide) rfl)
      rule.strategy.decode_encode
  obtain ⟨given, provider, given_eq⟩ : ∃ read,
      Decode.field new "provider" (Decode.optional AuthProvider.decode) = .ok read ∧
        read.join = rule.provider :=
    members.field_optional AuthProvider.encode rfl (get?_optionally rfl)
      fun value _ same => same ▸ value.optional_decode_encode
  obtain ⟨owner, ownerField, owner_eq⟩ : ∃ read,
      Decode.field new "ownerField" Decode.text = .ok read ∧
        read.getD "owner" = rule.ownerField :=
    members.field_plainDefaulted (.str rule.ownerField) rfl (get?_always (by decide) rfl)
      rfl Json.str.inj
  obtain ⟨identity, identityClaim, identity_eq⟩ : ∃ read,
      Decode.field new "identityClaim" Decode.text = .ok read ∧
        read.getD "username" = rule.identityClaim :=
    members.field_plainDefaulted (.str rule.identityClaim) rfl (get?_always (by decide) rfl)
      rfl Json.str.inj
  obtain ⟨group, groupClaim, group_eq⟩ : ∃ read,
      Decode.field new "groupClaim" Decode.text = .ok read ∧
        read.getD "cognito:groups" = rule.groupClaim :=
    members.field_plainDefaulted (.str rule.groupClaim) rfl (get?_always (by decide) rfl)
      rfl Json.str.inj
  obtain ⟨named, groups, named_eq⟩ : ∃ read,
      Decode.field new "groups" (Decode.list Decode.text) = .ok read ∧
        read.getD [] = rule.groups :=
    members.field_plainDefaulted (.arr (rule.groups.map .str)) rfl
      (get?_always (by decide) rfl) (decode_texts rule.groups)
      fun empty => List.map_eq_nil_iff.1 (Json.arr.inj empty)
  show AuthRule.ofMembers new = .ok rule
  simp only [AuthRule.ofMembers, strategy, provider, ownerField, identityClaim, groupClaim, groups]
  show Except.ok (AuthRule.mk _ given.join (owner.getD "owner") (identity.getD "username")
    (group.getD "cognito:groups") (named.getD [])) = _
  rw [given_eq, owner_eq, identity_eq, group_eq, named_eq]

theorem Schema.decode_of_loose {schema : Schema}
    (loose : Loose Schema.forms schema.encode json) : Schema.decode json = .ok schema := by
  obtain ⟨new, rfl, members⟩ := loose.exists_members
  have name : Decode.field new "name" Decode.text = .ok (some schema.name) :=
    members.field_plain (.str schema.name) rfl (get?_always (by decide) rfl) rfl
  obtain ⟨plural, pluralName, plural_eq⟩ : ∃ read,
      Decode.field new "pluralName" (Decode.optional Decode.text) = .ok read ∧
        read.join = schema.pluralName :=
    members.field_optional Json.str rfl (get?_optionally rfl) fun _ _ same => same ▸ rfl
  have fields : Decode.field new "fields" (Decode.list ModelField.decode) =
      .ok (some schema.fields) :=
    members.field_required (.arr (schema.fields.map ModelField.encode)) rfl
      (get?_always (by decide) rfl)
      fun _ kept => list_of_looseItems kept fun _ _ => ModelField.decode_of_loose
  obtain ⟨customs, customTypes, customs_eq⟩ : ∃ read,
      Decode.field new "customTypes" (Decode.map CustomType.decode) = .ok read ∧
        read.getD .empty = schema.customTypes :=
    members.field_defaulted
      (.obj (schema.customTypes.entries.map fun entry => (entry.1, entry.2.encode))) rfl
      (get?_always (by decide) rfl)
      (fun _ kept => map_of_looseValues kept fun _ _ => CustomType.decode_of_loose)
      fun empty => KeyMap.ext (List.map_eq_nil_iff.1 (Json.obj.inj empty))
  obtain ⟨given, rules, given_eq⟩ : ∃ read,
      Decode.field new "authRules" (Decode.list AuthRule.decode) = .ok read ∧
        read.getD [] = schema.rules :=
    members.field_defaulted (.arr (schema.rules.map AuthRule.encode)) rfl
      (get?_always (by decide) rfl)
      (fun _ kept => list_of_looseItems kept fun _ _ => AuthRule.decode_of_loose)
      fun empty => List.map_eq_nil_iff.1 (Json.arr.inj empty)
  show Schema.ofMembers new = .ok schema
  simp only [Schema.ofMembers, name, pluralName, fields, customTypes, rules]
  show Except.ok (Schema.mk _ plural.join _ (customs.getD .empty) (given.getD [])) = _
  rw [plural_eq, customs_eq, given_eq]

/-! ## What is written is one of the ways to write it -/

theorem ModelField.loose_encode (field : ModelField) :
    Loose ModelField.forms field.encode field.encode := by
  refine .object (.ofList_self (List.forall_mem_append.2 ⟨?_, ?_⟩))
  · simp [ModelField.forms, formFor]
  · exact forall_mem_optionalMember fun association _ => ⟨_, rfl, .same association.encode⟩

theorem CustomType.loose_encode (custom : CustomType) :
    Loose CustomType.forms custom.encode custom.encode := by
  refine .object (.ofList_self (List.forall_mem_cons.2 ⟨⟨_, rfl, rfl⟩, ?_⟩))
  exact List.forall_mem_singleton.2 ⟨_, rfl, looseItems_self ModelField.loose_encode _⟩

theorem AuthRule.loose_encode (rule : AuthRule) :
    Loose AuthRule.forms rule.encode rule.encode := by
  refine .object (.ofList_self (List.forall_mem_append.2 ⟨?_, ?_⟩))
  · simp [AuthRule.forms, formFor]
  · exact forall_mem_optionalMember fun _ _ => ⟨_, rfl, rfl⟩

theorem Schema.loose_encode (schema : Schema) :
    Loose Schema.forms schema.encode schema.encode := by
  have fields := looseItems_self ModelField.loose_encode schema.fields
  have rules := looseItems_self AuthRule.loose_encode schema.rules
  have customTypes := looseValues_self CustomType.loose_encode schema.customTypes.entries
  refine .object (.ofList_self (List.forall_mem_append.2 ⟨?_, ?_⟩))
  · simp [Schema.forms, formFor, fields, rules, customTypes]
  · exact forall_mem_optionalMember fun _ _ => ⟨_, rfl, rfl⟩

/-- A schema is read back as it was written, and also when members with their defaults are left out
and members that no structure has are there. -/
theorem Schema.loosened_read_back (schema : Schema) :
    Schema.decode schema.encode = .ok schema ∧
      ∀ json, Loose Schema.forms schema.encode json → Schema.decode json = .ok schema :=
  ⟨Schema.decode_of_loose schema.loose_encode, fun _ => Schema.decode_of_loose⟩

def albumField : ModelField := .belongsTo "album" "Album" "albumId"

def artistRule : AuthRule := { strategy := .owner, ownerField := "artist" }

/-- Tracks of an album, some with a bonus that is of a type of another name. -/
def trackSchema : Schema where
  name := "Track"
  fields := [albumField]
  customTypes := .ofList [("bonus", ⟨"Extra", [albumField]⟩)]
  rules := [artistRule]

/-- A field of which one default is left out, and the reference has a member too many. -/
def looseAlbumField : Json :=
  .obj [("name", .str "album"), ("fieldType", .obj [("model", .str "Album")]),
    ("required", .bool false), ("readOnly", .bool false),
    ("association",
      .obj [("belongsTo", .obj [("since", .str "v2"), ("target_name", .str "albumId")])])]

def looseTrackSchema : Json :=
  .obj [("name", .str "Track"), ("version", .null), ("fields", .arr [looseAlbumField]),
    ("customTypes",
      .obj [("bonus", .obj [("name", .str "Extra"), ("fields", .arr [looseAlbumField])])]),
    ("authRules",
      .arr [.obj [("ownerField", .str "artist"), ("allow", .null), ("strategy", .str "owner")]])]

private theorem albumField_loose : Loose ModelField.forms albumField.encode looseAlbumField := by
  have payload : Loose [{ key := "target_name" }] (.ofMembers [("target_name", .str "albumId")])
      (.obj [("since", .str "v2"), ("target_name", .str "albumId")]) :=
    .object (.of_written (List.forall_mem_singleton.2 (.kept rfl rfl)) (by simp [formFor]))
  refine .object (.of_written ?_ ?_)
  · show ∀ key ∈ ["name", "fieldType", "required", "isArray", "readOnly", "association"], _
    simp only [List.forall_mem_cons]
    exact ⟨.kept rfl rfl, .kept rfl rfl, .kept rfl rfl, .dropped rfl rfl, .kept rfl rfl,
      .kept rfl (.payload payload), List.forall_mem_nil _⟩
  · simp [albumField, ModelField.belongsTo, optionalMember]

private theorem artistRule_loose : Loose AuthRule.forms artistRule.encode
    (.obj [("ownerField", .str "artist"), ("allow", .null), ("strategy", .str "owner")]) := by
  refine .object (.of_written ?_ ?_)
  · show ∀ key ∈ ["strategy", "ownerField", "identityClaim", "groupClaim", "groups"], _
    simp only [List.forall_mem_cons]
    exact ⟨.kept rfl rfl, .kept rfl rfl, .dropped rfl rfl, .dropped rfl rfl, .dropped rfl rfl,
      List.forall_mem_nil _⟩
  · simp [formFor, AuthRule.forms]

theorem trackSchema_read_back :
    Loose Schema.forms trackSchema.encode looseTrackSchema ∧
      Schema.decode looseTrackSchema = .ok trackSchema := by
  have fields : LooseItems (Loose ModelField.forms) (.arr [albumField.encode])
      (.arr [looseAlbumField]) := .list (.cons albumField_loose .nil)
  have bonus : Loose CustomType.forms (CustomType.encode ⟨"Extra", [albumField]⟩)
      (.obj [("name", .str "Extra"), ("fields", .arr [looseAlbumField])]) := by
    refine .object (.of_written ?_ (by simp))
    show ∀ key ∈ ["name", "fields"], _
    simp only [List.forall_mem_cons]
    exact ⟨.kept rfl rfl, .kept rfl fields, List.forall_mem_nil _⟩
  have loose : Loose Schema.forms trackSchema.encode looseTrackSchema := by
    refine .object (.of_written ?_ ?_)
    · show ∀ key ∈ ["name", "fields", "customTypes", "authRules"], _
      simp only [List.forall_mem_cons]
      exact ⟨.kept rfl rfl, .kept rfl fields, .kept rfl (.map (.cons ⟨rfl, bonus⟩ .nil)),
        .kept rfl (.list (.cons artistRule_loose .nil)), List.forall_mem_nil _⟩
    · simp [formFor, Schema.forms]
  exact ⟨loose, trackSchema.loosened_read_back.2 looseTrackSchema loose⟩

end ModelSync
