import ModelSync.Proofs.KeyMap
import ModelSync.Proofs.Request.Names
import ModelSync.Proofs.Request.Selection

/-! Where documents open blocks. An entry is written as a block if there are entries below it, and
as a bare line if there are none. What stands for a scalar or an enumeration is a bare line, what
stands for another model is a block with its key, and what stands for a custom type is a block with
the fields of that type. But lists of records are left out, so a type that holds nothing else leaves
a bare line where a block has to be. -/
namespace ModelSync

/-- The values of the type have parts, of which a document has to select some. -/
def FieldType.hasParts : FieldType → Bool
  | .custom _ | .model _ => true
  | .scalar _ | .enumeration _ => false

/-- The entry is written as a block with something in it. -/
def Selection.OpensBlock (entry : Selection) (depth : Nat) : Prop :=
  ∃ first below, entry.lines depth =
    (indent depth ++ entry.name ++ openBrace) :: first :: below ++ [indent depth ++ closeBrace]

/-- Where a request holds what it selects of a record: right below the root field, or below the
items of a page. -/
inductive Request.Holds (request : Request) : Nat → List Selection → Prop where
  | root {record : List Selection} (same : request.selection = record) : request.Holds 2 record
  | items {record : List Selection}
      (same : request.selection = [.node "items" record, .leaf "nextToken", .leaf "startedAt"]) :
      request.Holds 3 record

namespace Schema

/-- The fields that are selected: those of the model and those of the types of selected fields,
except for lists of records. -/
inductive Shows (schema : Schema) : ModelField → Prop where
  | own {field : ModelField} (listed : field ∈ schema.fields) (single : field.isHasMany = false) :
      schema.Shows field
  | nested {outer field : ModelField} {name : String} {custom : CustomType}
      (above : schema.Shows outer) (type : outer.type = .custom name)
      (found : schema.customTypes.get? name = some custom) (listed : field ∈ custom.fields)
      (single : field.isHasMany = false) : schema.Shows field

/-- The field has a custom type that holds nothing but lists of records. -/
def Barren (schema : Schema) (field : ModelField) : Prop :=
  ∃ name custom, field.type = .custom name ∧ schema.customTypes.get? name = some custom ∧
    ∀ inner ∈ custom.fields, inner.isHasMany = true

/-- An entry stands for a field at a depth of the record: for one of the model at the top, and
below an entry that stands for a field of a custom type, for a field of that type. -/
inductive Places (schema : Schema) (record : List Selection) :
    Nat → ModelField → Selection → Prop where
  | top {field : ModelField} {entry : Selection} (listed : field ∈ schema.fields)
      (single : field.isHasMany = false) (member : entry ∈ record)
      (stands : schema.EntryOf field entry) : schema.Places record 0 field entry
  | inside {depth : Nat} {outer field : ModelField} {above entry : Selection} {name : String}
      {custom : CustomType} (placed : schema.Places record depth outer above)
      (type : outer.type = .custom name) (found : schema.customTypes.get? name = some custom)
      (listed : field ∈ custom.fields) (single : field.isHasMany = false)
      (member : entry ∈ above.children) (stands : schema.EntryOf field entry) :
      schema.Places record (depth + 1) field entry

/-- An entry of a record is metadata, stands for a field, or is the key below a reference. -/
inductive Standing (schema : Schema) (record : List Selection) (entry : Selection) : Prop where
  | metadata (listed : entry ∈ metadataSelection)
  | field {depth : Nat} {field : ModelField} (placed : schema.Places record depth field entry)
  | key {depth : Nat} {field : ModelField} {above : Selection} {model : String}
      (placed : schema.Places record depth field above) (type : field.type = .model model)
      (own : entry = .leaf idField) (member : entry ∈ above.children)

end Schema

/-! ## Lines -/

namespace Selection

variable {depth : Nat} {entry : Selection} {entries : List Selection}

private theorem lines_infix (member : entry ∈ entries) :
    entry.lines depth <:+: linesOfAll depth entries := by
  obtain ⟨before, after, rfl⟩ := List.append_of_mem member
  induction before with
  | nil =>
    rw [List.nil_append, linesOfAll]
    exact (List.prefix_append _ _).isInfix
  | cons first rest ih =>
    rw [List.cons_append, linesOfAll]
    exact (ih (by simp)).trans (List.suffix_append _ _).isInfix

private theorem linesOfAll_ne_nil (filled : entries ≠ []) : linesOfAll depth entries ≠ [] := by
  cases entries with
  | nil => exact absurd rfl filled
  | cons entry rest =>
    obtain ⟨name, children⟩ := entry
    cases children <;> simp [linesOfAll, lines]

private theorem lines_of_bare (bare : entry.children = []) :
    entry.lines depth = [indent depth ++ entry.name] := by
  obtain ⟨name, children⟩ := entry
  obtain rfl : children = [] := bare
  rfl

private theorem lines_of_filled (filled : entry.children ≠ []) :
    entry.lines depth = (indent depth ++ entry.name ++ openBrace) ::
      linesOfAll (depth + 1) entry.children ++ [indent depth ++ closeBrace] := by
  obtain ⟨name, children⟩ := entry
  cases children with
  | nil => exact absurd rfl filled
  | cons first rest => rfl

private theorem opensBlock_of_filled (filled : entry.children ≠ []) (depth : Nat) :
    entry.OpensBlock depth := by
  obtain ⟨first, below, lines⟩ := List.exists_cons_of_ne_nil (linesOfAll_ne_nil filled)
  exact ⟨first, below, by rw [lines_of_filled filled, lines]⟩

/-- What stands in a block is written between the lines that begin and end it. -/
theorem linesOfAll_children_infix (depth : Nat) (entry : Selection) :
    linesOfAll (depth + 1) entry.children <:+: entry.lines depth := by
  by_cases bare : entry.children = []
  · rw [bare, linesOfAll]
    exact List.nil_infix
  · rw [lines_of_filled bare]
    exact ⟨[indent depth ++ entry.name ++ openBrace], [indent depth ++ closeBrace], by simp⟩

end Selection

private theorem Request.Holds.of_same {request other : Request} {base : Nat}
    {record : List Selection}
    (holds : request.Holds base record) (same : other.selection = request.selection) :
    other.Holds base record := by
  cases holds with
  | root selected => exact .root (same.trans selected)
  | items selected => exact .items (same.trans selected)

private theorem Request.Holds.lines_infix {request : Request} {base : Nat} {record : List Selection}
    (holds : request.Holds base record) :
    Selection.linesOfAll base record <:+: request.lines := by
  have selected : Selection.linesOfAll 2 request.selection <:+: request.lines :=
    ⟨_, _, rfl⟩
  cases holds with
  | root same => exact same ▸ selected
  | items same =>
    rw [same] at selected
    have page : Selection.node "items" record ∈
        [.node "items" record, .leaf "nextToken", .leaf "startedAt"] := List.mem_cons_self
    exact (Selection.linesOfAll_children_infix 2 (.node "items" record)).trans
      ((Selection.lines_infix page).trans selected)

namespace Schema

variable {schema : Schema} {depth base : Nat} {field : ModelField} {entry : Selection}
  {fields : List ModelField} {record entries besides : List Selection} {request : Request}

/-! ## What stands for a field -/

/-- Fields leave no entries exactly if all of them are lists of records. -/
theorem EntriesOf.eq_nil_iff (exact : schema.EntriesOf fields [] entries) :
    entries = [] ↔ ∀ inner ∈ fields, inner.isHasMany = true := by
  obtain ⟨each, all, _⟩ := exact
  rw [List.append_nil] at all
  rw [← List.length_eq_zero_iff, all.length_eq, ← each.length_eq, List.length_eq_zero_iff,
    List.filter_eq_nil_iff]
  simp

private theorem Barren.hasParts (barren : schema.Barren field) : field.type.hasParts = true := by
  obtain ⟨name, custom, type, -⟩ := barren
  rw [type]
  rfl

/-- An entry has nothing below it if the values of its field have no parts, or none but lists of
records. -/
theorem EntryOf.children_eq_nil_iff (stands : schema.EntryOf field entry) :
    entry.children = [] ↔ field.type.hasParts = false ∨ schema.Barren field := by
  cases stands with
  | scalar type | enumeration type =>
    simp [type, FieldType.hasParts, Selection.leaf, Selection.children]
  | reference type => simp [type, FieldType.hasParts, Selection.children, Barren]
  | custom type found below =>
    simp [type, FieldType.hasParts, Selection.children, Barren, below.eq_nil_iff, found]

private theorem EntriesOf.exists_of_mem (exact : schema.EntriesOf fields besides entries)
    (listed : field ∈ fields) (single : field.isHasMany = false) :
    ∃ entry ∈ entries, schema.EntryOf field entry := by
  obtain ⟨each, all, _⟩ := exact
  have kept : field ∈ fields.filter fun field => !field.isHasMany :=
    List.mem_filter.2 ⟨listed, by simp [single]⟩
  obtain ⟨position, within, rfl⟩ := List.getElem_of_mem kept
  have bounded := each.length_eq ▸ within
  exact ⟨_, all.mem_iff.2 (List.mem_append_left _ (List.getElem_mem bounded)),
    each.get within bounded⟩

namespace Places

private theorem stands (placed : schema.Places record depth field entry) :
    schema.EntryOf field entry := by
  cases placed <;> assumption

private theorem shows (placed : schema.Places record depth field entry) : schema.Shows field := by
  induction placed with
  | top listed single => exact .own listed single
  | inside _ type found listed single _ _ above => exact .nested above type found listed single

/-- Below an entry for a field of a custom type stand the entries of that type. -/
theorem entries_below {name : String} (placed : schema.Places record depth field entry)
    (type : field.type = .custom name) :
    ∃ custom, schema.customTypes.get? name = some custom ∧
      schema.EntriesOf custom.fields [] entry.children := by
  cases placed.stands with
  | custom kind found below =>
    cases type.symm.trans kind
    exact ⟨_, found, below⟩
  | scalar kind | enumeration kind | reference kind => cases type.symm.trans kind

private theorem lines_infix (placed : schema.Places record depth field entry) (base : Nat) :
    entry.lines (base + depth) <:+: Selection.linesOfAll base record := by
  -- Each level of the way down is a block around the next one, which is indented by one more.
  induction placed with
  | top _ _ member => exact Selection.lines_infix member
  | inside _ _ _ _ _ member _ ih =>
    exact (Selection.lines_infix member).trans ((Selection.linesOfAll_children_infix _ _).trans ih)

end Places

/-- Every field that is selected has an entry. -/
theorem exists_places (exact : schema.EntriesOf schema.fields metadataSelection record)
    (shown : schema.Shows field) : ∃ depth entry, schema.Places record depth field entry := by
  induction shown with
  | own listed single =>
    obtain ⟨entry, member, stands⟩ := exact.exists_of_mem listed single
    exact ⟨0, entry, .top listed single member stands⟩
  | nested _ type found listed single ih =>
    obtain ⟨depth, above, placed⟩ := ih
    obtain ⟨custom, known, below⟩ := placed.entries_below type
    obtain rfl := Option.some.inj (found.symm.trans known)
    obtain ⟨entry, member, stands⟩ := below.exists_of_mem listed single
    exact ⟨depth + 1, entry, .inside placed type found listed single member stands⟩

/-- Below a standing entry all entries are standing. -/
theorem Standing.inside {outer : Selection} (standing : schema.Standing record outer)
    (member : entry ∈ outer.children) : schema.Standing record entry := by
  cases standing with
  | metadata listed => simp [children_of_metadata listed] at member
  | key _ _ own =>
    subst own
    cases member
  | field placed =>
    have stands := placed.stands
    cases stands with
    | scalar | enumeration => cases member
    | reference type => exact .key placed type (List.mem_singleton.1 member) member
    | custom type found below =>
      rcases below.field_of_mem member with extra | ⟨inner, listed, single, stands⟩
      · cases extra
      · exact .field (.inside placed type found listed single member stands)

private theorem standing_of_mem (exact : schema.EntriesOf schema.fields metadataSelection record)
    (member : entry ∈ record) : schema.Standing record entry := by
  rcases exact.field_of_mem member with listed | ⟨field, listed, single, stands⟩
  · exact .metadata listed
  · exact .field (.top listed single member stands)

/-! ## Requests -/

private theorem entriesOf_of_recordSelection (selected : schema.recordSelection = .ok record) :
    schema.EntriesOf schema.fields metadataSelection record := by
  obtain ⟨trees, done, same⟩ := Except.exists_of_bind_ok selected
  cases same
  exact .intro (entries_of_expanded (expanded_of_expand done).2) (Selection.perm_sorted _)
    (Selection.ascending_sorted _)

private theorem selection_of_decorate {decorated : Request} {claims : Claims} {type : AuthType}
    (done : schema.decorate claims request type = .ok decorated) :
    decorated.selection = request.selection := by
  rcases decorated_or_kept done with ⟨_, rfl⟩ | ⟨_, owned⟩
  · rfl
  · rw [owned.kept]

private theorem holds_of_mutationRequest {change : Change} {input : Entries Json}
    {condition : Option Filter}
    (built : schema.mutationRequest change input condition = .ok request) :
    ∃ record, schema.recordSelection = .ok record ∧ request.Holds 2 record := by
  obtain ⟨record, selected, _⟩ := Except.exists_of_bind_ok built
  exact ⟨record, selected, .root (selection_of_mutationRequest selected built)⟩

/-- Whatever is made for a model holds what is selected of its records. -/
theorem holds_of_makes (made : schema.Makes request) :
    ∃ base record, schema.recordSelection = .ok record ∧ request.Holds base record := by
  induction made with
  | sync built =>
    obtain ⟨record, selected, _⟩ := Except.exists_of_bind_ok built
    exact ⟨3, record, selected, .items ((selects_of_recordSelection selected).sync _ _ _ _ built)⟩
  | create built =>
    obtain ⟨_, _, built⟩ := createRequest_iff.1 built
    exact ⟨2, holds_of_mutationRequest built⟩
  | update built =>
    obtain ⟨_, _, _, _, built⟩ := updateRequest_iff.1 built
    exact ⟨2, holds_of_mutationRequest built⟩
  | delete built =>
    obtain ⟨_, _, built⟩ := deleteRequest_iff.1 built
    exact ⟨2, holds_of_mutationRequest built⟩
  | subscription built =>
    obtain ⟨record, selected, done⟩ := Except.exists_of_bind_ok built
    cases done
    exact ⟨2, record, selected, .root rfl⟩
  | nextPage _ token ih =>
    obtain ⟨base, record, selected, holds⟩ := ih
    exact ⟨base, record, selected, holds.of_same rfl⟩
  | decorated _ done ih =>
    obtain ⟨base, record, selected, holds⟩ := ih
    exact ⟨base, record, selected, holds.of_same (selection_of_decorate done)⟩

/-- A client sends documents in which an entry that stands for a field is a block where the values
of the field have parts, and a bare line where they have none. The one exception is a field of a
custom type with nothing but lists of records, which is a bare line as well; so the rule holds
throughout exactly if no field that is selected has such a type. Besides these entries there are
metadata and the keys of references only. -/
theorem blocks_of_parts (made : schema.Makes request) :
    ∃ base record, request.Holds base record ∧
      (∀ entry, Selection.Among entry record → schema.Standing record entry) ∧
      (∀ field, schema.Shows field ↔ ∃ depth entry, schema.Places record depth field entry) ∧
      (∀ depth field entry, schema.Places record depth field entry →
        entry.lines (base + depth) <:+: request.lines ∧
          (entry.children ≠ [] ↔ field.type.hasParts = true ∧ ¬ schema.Barren field) ∧
          (entry.children ≠ [] → entry.OpensBlock (base + depth)) ∧
          (entry.children = [] →
            entry.lines (base + depth) = [indent (base + depth) ++ entry.name])) ∧
      ((∀ depth field entry, schema.Places record depth field entry →
          (entry.children ≠ [] ↔ field.type.hasParts = true)) ↔
        ∀ field, schema.Shows field → ¬ schema.Barren field) := by
  obtain ⟨base, record, selected, holds⟩ := holds_of_makes made
  have exact := entriesOf_of_recordSelection selected
  have filled {depth : Nat} {field : ModelField} {entry : Selection}
      (placed : schema.Places record depth field entry) :
      entry.children ≠ [] ↔ field.type.hasParts = true ∧ ¬ schema.Barren field := by
    rw [Ne, placed.stands.children_eq_nil_iff, not_or, Bool.not_eq_false]
  refine ⟨base, record, holds, fun entry among => ?_, fun field => ⟨exists_places exact, ?_⟩, ?_, ?_⟩
  · exact among.holds (fun _ member => standing_of_mem exact member)
      fun _ standing _ member => standing.inside member
  · rintro ⟨depth, entry, placed⟩
    exact placed.shows
  · intro depth field entry placed
    exact ⟨(placed.lines_infix base).trans holds.lines_infix, filled placed,
      fun parted => Selection.opensBlock_of_filled parted _, Selection.lines_of_bare⟩
  · constructor
    · intro ruled field shown barren
      obtain ⟨depth, entry, placed⟩ := exists_places exact shown
      exact ((filled placed).1 ((ruled depth field entry placed).2 barren.hasParts)).2 barren
    · intro fertile depth field entry placed
      rw [filled placed, and_iff_left (fertile field placed.shows)]

/-- Journal entries have places, and these have positions: every type has a field of its own. -/
theorem journal_in_blocks :
    ∃ request base record, journal.subscriptionRequest .onUpdate = .ok request ∧
      request.Holds base record ∧
      ∀ depth field entry, journal.Places record depth field entry →
        (entry.children ≠ [] ↔ field.type.hasParts = true) := by
  obtain ⟨selection, built⟩ := exists_journalUpdates
  obtain ⟨base, record, holds, _, _, _, ruled⟩ := blocks_of_parts (.subscription built)
  have fertile : ∀ entry ∈ journal.customTypes.entries,
      ∃ inner ∈ entry.2.fields, inner.isHasMany = false := by decide
  refine ⟨_, base, record, built, holds, ruled.2 ?_⟩
  rintro field - ⟨name, custom, -, found, lists⟩
  obtain ⟨inner, listed, single⟩ := fertile _ (Entries.mem_of_get? found)
  simp [lists inner listed] at single

/-- The statistics of a place. -/
def statsField : ModelField := .optional "stats" (.custom "Stats")

/-- Places with statistics that hold a list of visits and nothing else. -/
def visitedPlace : Schema where
  name := "Place"
  fields := [.required idField (.scalar .id), statsField]
  customTypes := .ofList [("Stats", ⟨"Stats", [.hasMany "visits" "Visit"]⟩)]

/-- The statistics are selected without a block, though their type is no scalar. -/
theorem stats_left_bare :
    visitedPlace.validate = .ok () ∧ statsField.type = .custom "Stats" ∧
      ∃ request record entry, visitedPlace.subscriptionRequest .onCreate = .ok request ∧
        request.selection = record ∧ visitedPlace.Places record 0 statsField entry ∧
        entry.children = [] ∧ ["    stats"] <:+: request.lines := by
  have visits : visitedPlace.Expanded ["Stats"] [.hasMany "visits" "Visit"] _ :=
    .plain (by decide) nofun .nil
  have fields : visitedPlace.Expanded [] visitedPlace.fields _ :=
    .plain (by decide) nofun (.nested (by decide) rfl (by decide) rfl visits .nil)
  have valid : visitedPlace.validate = .ok () :=
    validate_eq_ok_iff.2 ⟨_, expand_eq_ok_iff.2 ⟨by decide, fields⟩⟩
  obtain ⟨record, selected⟩ := recordSelection_eq_ok_iff.2 valid
  have built : visitedPlace.subscriptionRequest .onCreate =
      .ok (.make .subscription "OnCreatePlace" "onCreatePlace" "Place" record) :=
    Except.bind_eq_ok_iff.2 ⟨record, selected, rfl⟩
  have listed : statsField ∈ visitedPlace.fields := by decide
  obtain ⟨entry, member, stands⟩ :=
    (entriesOf_of_recordSelection selected).exists_of_mem listed rfl
  have barren : visitedPlace.Barren statsField := ⟨"Stats", _, rfl, rfl, by decide⟩
  have bare : entry.children = [] := stands.children_eq_nil_iff.2 (.inr barren)
  have line : entry.lines 2 = ["    stats"] := by
    rw [Selection.lines_of_bare bare, stands.name_eq]
    decide
  refine ⟨valid, rfl, _, record, entry, built, rfl, .top listed rfl member stands, bare, ?_⟩
  rw [← line]
  have holds : (Request.make .subscription "OnCreatePlace" "onCreatePlace" "Place" record).Holds 2
      record := .root rfl
  exact (Selection.lines_infix member).trans holds.lines_infix

end Schema

end ModelSync
