import Mathlib.Data.List.Perm.Basic
import ModelSync.Proofs.Request.Input
import ModelSync.Proofs.Request.Order
import ModelSync.Proofs.Request.Spelling
import ModelSync.Proofs.Schema.Validation

/-! What requests select of a record. All builders select the same entries: one for each field that
holds no list of records of another model, and the metadata, in name order. A reference is reduced
to its key, and a custom type is expanded to the entries of its own fields, in name order again. The
order in which fields of different names are declared leaves no trace. -/
namespace ModelSync

namespace Schema

mutual

/-- What stands for a field, by its type. -/
inductive EntryOf (schema : Schema) : ModelField → Selection → Prop where
  | scalar {field : ModelField} {kind : Scalar} (type : field.type = .scalar kind) :
      EntryOf schema field (.leaf field.name)
  | enumeration {field : ModelField} {name : String} (type : field.type = .enumeration name) :
      EntryOf schema field (.leaf field.name)
  | reference {field : ModelField} {model : String} (type : field.type = .model model) :
      EntryOf schema field (.node field.name [.leaf idField])
  | custom {field : ModelField} {name : String} {custom : CustomType} {children : List Selection}
      (type : field.type = .custom name) (found : schema.customTypes.get? name = some custom)
      (below : EntriesOf schema custom.fields [] children) :
      EntryOf schema field (.node field.name children)

/-- Entries in name order: one that stands for each field, but for those that hold lists of records
of another model, and some besides. -/
inductive EntriesOf (schema : Schema) :
    List ModelField → List Selection → List Selection → Prop where
  | intro {fields : List ModelField} {besides listed entries : List Selection}
      (each : List.Forall₂ (EntryOf schema) (fields.filter fun field => !field.isHasMany) listed)
      (all : entries.Perm (listed ++ besides)) (ascending : Selection.Ascending entries) :
      EntriesOf schema fields besides entries

end

/-- Where an entry comes from: it is metadata, it stands for a field that holds no list of records,
or it is the key of a record that such a field refers to. -/
inductive Origin (schema : Schema) : Selection → Prop where
  | metadata {entry : Selection} (listed : entry ∈ metadataSelection) : schema.Origin entry
  | field {field : ModelField} {entry : Selection} (declared : schema.Declares field)
      (single : field.isHasMany = false) (stands : schema.EntryOf field entry) :
      schema.Origin entry
  | key {field : ModelField} {model : String} (declared : schema.Declares field)
      (single : field.isHasMany = false) (type : field.type = .model model) :
      schema.Origin (.leaf idField)

/-- The requests of a schema select these entries of a record. -/
structure Selects (schema : Schema) (record : List Selection) : Prop where
  selected : schema.recordSelection = .ok record
  subscription : ∀ feed, ∃ request,
    schema.subscriptionRequest feed = .ok request ∧ request.selection = record
  create : ∀ view request, schema.createRequest view = .ok request → request.selection = record
  update : ∀ view version predicate request,
    schema.updateRequest view version predicate = .ok request → request.selection = record
  delete : ∀ id version predicate request,
    schema.deleteRequest id version predicate = .ok request → request.selection = record
  sync : ∀ lastSync limit predicate request,
    schema.syncRequest lastSync limit predicate = .ok request →
      request.selection = [.node "items" record, .leaf "nextToken", .leaf "startedAt"]

variable {schema other : Schema} {path : List String} {field : ModelField}
  {fields others : List ModelField} {trees : List FieldTree} {entry : Selection}
  {record entries : List Selection}

/-! ## Fields and their entries -/

theorem EntryOf.name_eq (stands : schema.EntryOf field entry) : entry.name = field.name := by
  cases stands <;> rfl

/-- The entries of expanded fields stand for them, in the order that they are declared in. -/
theorem entries_of_expanded (expanded : schema.Expanded path fields trees) :
    List.Forall₂ schema.EntryOf (fields.filter fun field => !field.isHasMany)
      (FieldTree.selections trees) := by
  induction expanded with
  | nil => exact .nil
  | @plain path field rest trees named type later ih =>
    by_cases many : field.isHasMany = true
    · simpa [FieldTree.selections, FieldTree.selection?, many] using ih
    · cases kind : field.type with
      | custom name => exact absurd kind (type name)
      | scalar => simpa [FieldTree.selections, FieldTree.selection?, many, kind] using
          ⟨.scalar kind, ih⟩
      | enumeration => simpa [FieldTree.selections, FieldTree.selection?, many, kind] using
          ⟨.enumeration kind, ih⟩
      | model => simpa [FieldTree.selections, FieldTree.selection?, many, kind] using
          ⟨.reference kind, ih⟩
  | @nested path field rest name custom children trees named type fresh found inner later below ih =>
    by_cases many : field.isHasMany = true
    · simpa [FieldTree.selections, FieldTree.selection?, many] using ih
    · have nested : schema.EntriesOf custom.fields []
          (Selection.sorted (FieldTree.selections children)) :=
        .intro below (by simpa using Selection.perm_sorted _) (Selection.ascending_sorted _)
      simpa [FieldTree.selections, FieldTree.selection?, many] using ⟨.custom type found nested, ih⟩

private theorem names_of_expanded (expanded : schema.Expanded path fields trees) :
    (FieldTree.selections trees).map Selection.name =
      (fields.filter fun field => !field.isHasMany).map ModelField.name := by
  have each := entries_of_expanded expanded
  generalize FieldTree.selections trees = entries at each
  generalize (fields.filter fun field => !field.isHasMany) = kept at each
  induction each with
  | nil => rfl
  | cons stands _ ih => rw [List.map_cons, List.map_cons, stands.name_eq, ih]

private theorem exists_of_mem_entries (listed : List.Forall₂ schema.EntryOf fields entries)
    (member : entry ∈ entries) : ∃ field ∈ fields, schema.EntryOf field entry := by
  induction listed with
  | nil => cases member
  | cons stands _ ih =>
    rcases List.mem_cons.1 member with rfl | later
    · exact ⟨_, List.mem_cons_self, stands⟩
    · obtain ⟨field, among, stands⟩ := ih later
      exact ⟨field, List.mem_cons_of_mem _ among, stands⟩

private theorem Declares.reaches {name : String} (declared : schema.Declares field)
    (type : field.type = .custom name) : schema.Reaches name := by
  cases declared with
  | own listed => exact .first listed type
  | nested reached found listed => exact .further reached ⟨_, found, field, listed, type⟩

/-- Every entry stands for a field, unless it is one of those besides. -/
theorem EntriesOf.field_of_mem {besides : List Selection}
    (exact : schema.EntriesOf fields besides entries) (member : entry ∈ entries) :
    entry ∈ besides ∨
      ∃ field ∈ fields, field.isHasMany = false ∧ schema.EntryOf field entry := by
  obtain ⟨each, all, _⟩ := exact
  rcases List.mem_append.1 (all.mem_iff.1 member) with listed | extra
  · obtain ⟨field, kept, stands⟩ := exists_of_mem_entries each listed
    obtain ⟨declared, single⟩ := List.mem_filter.1 kept
    exact .inr ⟨field, declared, by simpa using single, stands⟩
  · exact .inl extra

private theorem origin_of_entriesOf {besides : List Selection}
    (exact : schema.EntriesOf fields besides entries)
    (declared : ∀ field ∈ fields, schema.Declares field)
    (known : ∀ entry ∈ besides, schema.Origin entry) : ∀ entry ∈ entries, schema.Origin entry := by
  intro entry member
  rcases exact.field_of_mem member with extra | ⟨field, listed, single, stands⟩
  · exact known entry extra
  · exact .field (declared field listed) single stands

theorem children_of_metadata (listed : entry ∈ metadataSelection) : entry.children = [] := by
  have bare : ∀ entry ∈ metadataSelection, entry.children = [] := by
    simp [metadataSelection, Selection.leaf, Selection.children]
  exact bare entry listed

/-- Below an entry with an origin all entries have one. -/
theorem Origin.inside {outer : Selection} (origin : schema.Origin outer) :
    ∀ entry ∈ outer.children, schema.Origin entry := by
  cases origin with
  | metadata listed => simp [children_of_metadata listed]
  | key =>
    intro entry listed
    cases listed
  | field declared single stands =>
    cases stands with
    | scalar | enumeration =>
      intro entry listed
      cases listed
    | reference type =>
      intro entry listed
      obtain rfl := List.mem_singleton.1 listed
      exact .key declared single type
    | custom type found below =>
      refine origin_of_entriesOf below
        (fun inner listed => .nested (declared.reaches type) found listed) ?_
      intro entry listed
      cases listed

private theorem origin_of_among (among : Selection.Among entry entries)
    (known : ∀ outer ∈ entries, schema.Origin outer) : schema.Origin entry :=
  among.holds known fun _ origin => origin.inside

end Schema

/-! ## Fields in another order -/

/-- The same fields: in the order given, or in any other if each has a name of its own. -/
def ModelField.Rearranged (fields others : List ModelField) : Prop :=
  others = fields ∨ others.Perm fields ∧ (fields.map ModelField.name).Nodup

/-- The same type, with its fields in another order. -/
def CustomType.Rearranged (custom other : CustomType) : Prop :=
  other.name = custom.name ∧ ModelField.Rearranged custom.fields other.fields

namespace Schema

/-- The same schema, with the fields of the model and of custom types in other orders. -/
structure Rearranged (schema other : Schema) : Prop where
  kept : other = { schema with fields := other.fields, customTypes := other.customTypes }
  fields : ModelField.Rearranged schema.fields other.fields
  types : ∀ name, Option.Rel CustomType.Rearranged (schema.customTypes.get? name)
    (other.customTypes.get? name)

variable {schema other : Schema} {path : List String} {field : ModelField}
  {fields others : List ModelField} {trees : List FieldTree} {entry : Selection}
  {record entries : List Selection}

private theorem expanded_iff_forall₂ :
    schema.Expanded path fields trees ↔
      List.Forall₂ (fun field tree => schema.expandField path field = .ok tree) fields trees := by
  have steps : schema.Expanded path fields trees ↔ schema.expandFields path fields = .ok trees :=
    ⟨expandFields_of_expanded, expanded_of_expandFields⟩
  rw [steps]
  clear steps
  induction fields generalizing trees with
  | nil => simp [expandFields, eq_comm]
  | cons field rest ih =>
    rw [expandFields, List.forall₂_cons_left_iff]
    simp only [Except.bind_eq_ok_iff, ih]
    constructor
    · rintro ⟨tree, first, later, after, done⟩
      cases done
      exact ⟨tree, later, first, after, rfl⟩
    · rintro ⟨tree, later, first, after, rfl⟩
      exact ⟨tree, first, later, after, rfl⟩

private theorem selections_eq_filterMap (trees : List FieldTree) :
    FieldTree.selections trees = trees.filterMap FieldTree.selection? := by
  induction trees with
  | nil => rfl
  | cons tree rest ih =>
    rw [FieldTree.selections, ih, List.filterMap_cons]
    cases tree.selection? <;> rfl

/-- Rearranged fields expand as the fields do, to the same entries once these are in order. -/
theorem Expanded.rearranged (expanded : schema.Expanded path fields trees)
    (arranged : ModelField.Rearranged fields others) :
    ∃ again, schema.Expanded path others again ∧ ∀ besides,
      Selection.sorted (FieldTree.selections again ++ besides) =
        Selection.sorted (FieldTree.selections trees ++ besides) := by
  rcases arranged with rfl | ⟨perm, distinct⟩
  · exact ⟨trees, expanded, fun _ => rfl⟩
  · obtain ⟨again, each, moved⟩ := List.perm_comp_forall₂ perm (expanded_iff_forall₂.1 expanded)
    refine ⟨again, expanded_iff_forall₂.2 each, fun besides => ?_⟩
    have apart : ((FieldTree.selections trees).map Selection.name).Nodup := by
      rw [names_of_expanded expanded]
      exact distinct.sublist (List.filter_sublist.map _)
    apply Eq.symm
    apply Selection.sorted_append_of_perm ?_ apart
    rw [selections_eq_filterMap, selections_eq_filterMap]
    exact moved.symm.filterMap _

/-- Where the fields of custom types are rearranged, the entries that are selected stay the same. -/
theorem Rearranged.expanded (arranged : schema.Rearranged other)
    (expanded : schema.Expanded path fields trees) :
    ∃ again, other.Expanded path fields again ∧
      FieldTree.selections again = FieldTree.selections trees := by
  induction expanded with
  | nil => exact ⟨[], .nil, rfl⟩
  | plain named type _ ih =>
    obtain ⟨again, later, same⟩ := ih
    exact ⟨_, .plain named type later, by rw [FieldTree.selections, same, FieldTree.selections]⟩
  | @nested path field rest name custom children trees named type fresh found _ _ below ih =>
    obtain ⟨again, later, same⟩ := ih
    obtain ⟨inner, innerExpanded, innerSame⟩ := below
    have alike := arranged.types name
    rw [found] at alike
    generalize moved : other.customTypes.get? name = counterpart at alike
    cases alike with
    | some related =>
      obtain ⟨reordered, expanded, ordered⟩ := innerExpanded.rearranged related.2
      refine ⟨_, .nested named type fresh moved expanded later, ?_⟩
      have nested := ordered []
      rw [List.append_nil, List.append_nil, innerSame] at nested
      simp only [FieldTree.selections, FieldTree.selection?, nested, same]

private theorem Rearranged.ownNames (arranged : schema.Rearranged other) :
    other.ownNames = schema.ownNames := by
  rw [arranged.kept]
  rfl

/-- A rearranged schema selects what the schema does. -/
theorem Rearranged.recordSelection (arranged : schema.Rearranged other)
    (selected : schema.recordSelection = .ok record) : other.recordSelection = .ok record := by
  obtain ⟨trees, done, same⟩ := Except.exists_of_bind_ok selected
  obtain ⟨names, expanded⟩ := expanded_of_expand done
  cases same
  obtain ⟨unmoved, below, same⟩ := arranged.expanded expanded
  obtain ⟨again, fields, ordered⟩ := below.rearranged arranged.fields
  have done : other.expand = .ok again :=
    expand_eq_ok_iff.2 ⟨by rwa [arranged.ownNames], fields⟩
  refine Except.bind_eq_ok_iff.2 ⟨again, done, ?_⟩
  rw [ordered, same]
  rfl

/-! ## Requests -/

private theorem selection_bindSome (request : Request) (name type : String) (value : Option Json) :
    (request.bindSome name type value).selection = request.selection := by
  cases value <;> rfl

theorem selection_of_mutationRequest {change : Change} {input : Entries Json}
    {condition : Option Filter} {request : Request}
    (selected : schema.recordSelection = .ok record)
    (built : schema.mutationRequest change input condition = .ok request) :
    request.selection = record := by
  obtain ⟨found, again, done⟩ := Except.exists_of_bind_ok built
  cases selected.symm.trans again
  cases done
  exact selection_bindSome _ _ _ _

theorem selects_of_recordSelection (selected : schema.recordSelection = .ok record) :
    schema.Selects record where
  selected := selected
  subscription feed := ⟨_, Except.bind_eq_ok_iff.2 ⟨record, selected, rfl⟩, rfl⟩
  create view request built := by
    obtain ⟨_, _, built⟩ := createRequest_iff.1 built
    exact selection_of_mutationRequest selected built
  update view version predicate request built := by
    obtain ⟨_, _, _, _, built⟩ := updateRequest_iff.1 built
    exact selection_of_mutationRequest selected built
  delete id version predicate request built := by
    obtain ⟨_, _, built⟩ := deleteRequest_iff.1 built
    exact selection_of_mutationRequest selected built
  sync lastSync limit predicate request built := by
    obtain ⟨items, again, built⟩ := Except.exists_of_bind_ok built
    obtain ⟨_, _, done⟩ := Except.exists_of_bind_ok built
    cases selected.symm.trans again
    cases done
    simp only [selection_bindSome]
    rfl

/-- The requests of a schema that is fit for documents select the same of every record, in name
order: an entry for each field of the model and the metadata. Wherever an entry stands, it is that
of a field, unless it is metadata or the key of a reference, and no list of records has any. If the
fields of the model or of custom types are declared in another order, the requests select the
same. -/
theorem records_selected_alike (valid : schema.validate = .ok ()) :
    ∃ record, schema.Selects record ∧
      schema.EntriesOf schema.fields metadataSelection record ∧
      (∀ entry, Selection.Among entry record → schema.Origin entry) ∧
      ∀ other, schema.Rearranged other → other.validate = .ok () ∧ other.Selects record := by
  obtain ⟨trees, done⟩ := validate_eq_ok_iff.1 valid
  have selected : schema.recordSelection =
      .ok (Selection.sorted (FieldTree.selections trees ++ metadataSelection)) :=
    Except.bind_eq_ok_iff.2 ⟨trees, done, rfl⟩
  have exact : schema.EntriesOf schema.fields metadataSelection
      (Selection.sorted (FieldTree.selections trees ++ metadataSelection)) :=
    .intro (entries_of_expanded (expanded_of_expand done).2) (Selection.perm_sorted _)
      (Selection.ascending_sorted _)
  refine ⟨_, selects_of_recordSelection selected, exact, ?_, ?_⟩
  · intro entry among
    exact origin_of_among among
      (origin_of_entriesOf exact (fun _ listed => .own listed) fun _ listed => .metadata listed)
  · intro other arranged
    have again := arranged.recordSelection selected
    exact ⟨recordSelection_eq_ok_iff.1 ⟨_, again⟩, selects_of_recordSelection again⟩

/-- The journal with its fields and those of places declared from the last to the first. -/
def backwards : Schema :=
  { journal.withCustomType ⟨"Place", placeFields.reverse⟩ with fields := journalFields.reverse }

private theorem rearranged_backwards : journal.Rearranged backwards where
  kept := rfl
  fields := .inr ⟨List.reverse_perm _, by decide⟩
  types name := by
    have places : backwards.customTypes.get? name =
        if name = "Place" then some ⟨"Place", placeFields.reverse⟩
        else journal.customTypes.get? name := Entries.get?_insert _ _ _ _
    rw [places]
    by_cases place : name = "Place"
    · subst place
      exact .some ⟨rfl, .inr ⟨List.reverse_perm placeFields, by decide⟩⟩
    · rw [if_neg place]
      cases journal.customTypes.get? name with
      | none => exact .none
      | some custom => exact .some ⟨rfl, .inl rfl⟩

theorem journal_selected_alike :
    ∃ record created subscribed, journal.createRequest morning = .ok created ∧
      backwards.subscriptionRequest .onUpdate = .ok subscribed ∧
      created.selection = record ∧ subscribed.selection = record ∧
      journal.EntriesOf journalFields metadataSelection record := by
  obtain ⟨record, selects, exact, _, others⟩ := records_selected_alike validate_journal
  obtain ⟨_, again⟩ := others backwards rearranged_backwards
  obtain ⟨created, creation⟩ := exists_mutationRequest validate_journal .create morningInput none
  have built : journal.createRequest morning = .ok created :=
    Except.bind_eq_ok_iff.2 ⟨_, mutationInput_morning, creation⟩
  obtain ⟨subscribed, subscription, same⟩ := again.subscription .onUpdate
  exact ⟨record, created, subscribed, built, subscription, selects.create _ _ built, same, exact⟩

end Schema

end ModelSync
