import ModelSync.Proofs.Decoration
import ModelSync.Proofs.Request.Input
import ModelSync.Proofs.Request.Spelling

/-! Names in the requests of a client. What a builder gives is continued from page to page and
names the owners of its model, and its names stay names: they are those of the model and of the
fields that are met from it, which are checked before anything is built, and those that the builders
put together from them. A name that is not met is not checked, and not used. -/
namespace ModelSync

namespace Selection

@[simp] theorem allNamed_sorted {entries : List Selection} :
    AllNamed (sorted entries) ↔ AllNamed entries := by
  rw [allNamed_iff, allNamed_iff]
  simp only [sorted, List.mem_mergeSort]

private theorem allNamed_metadata : AllNamed metadataSelection := by
  simp only [metadataSelection, allNamed_leaf_cons, allNamed_nil]
  decide

/-- What is selected of expanded fields goes by the names that were checked. -/
theorem allNamed_of_expanded {schema : Schema} {path : List String} {fields : List ModelField}
    {trees : List FieldTree} (expanded : schema.Expanded path fields trees) :
    AllNamed (FieldTree.selections trees) := by
  induction expanded with
  | nil => exact allNamed_nil
  | @plain path field rest trees named type later ih =>
    have own : isName field.name = true := named field.name List.mem_cons_self
    refine allNamed_append.2 ⟨?_, ih⟩
    by_cases many : field.isHasMany = true
    · simp [FieldTree.selection?, many]
    · have key : isName idField = true := by decide
      cases kind : field.type with
      | model name => simp [FieldTree.selection?, many, kind, own, key]
      | _ => simp [FieldTree.selection?, many, kind, own]
  | @nested path field rest name custom children trees named type fresh found _ _ below ih =>
    have own : isName field.name = true := named field.name List.mem_cons_self
    refine allNamed_append.2 ⟨?_, ih⟩
    by_cases many : field.isHasMany = true
    · simp [FieldTree.selection?, many]
    · simp [FieldTree.selection?, many, own, below]

end Selection

private theorem Request.WellNamed.bindSome {request : Request} (named : request.WellNamed)
    {name type : String} (nameFits : isName name = true) (typeFits : IsTypeName type)
    (value : Option Json) : (request.bindSome name type value).WellNamed := by
  cases value with
  | none => exact named
  | some value => exact named.bind nameFits typeFits value

private theorem Request.WellNamed.nextPage {request : Request} (named : request.WellNamed)
    (token : String) : (request.nextPage token).WellNamed :=
  named.bind (by decide) ⟨"String", by decide, .inl rfl⟩ (.str token)

namespace Schema

/-- A request that a client makes for a model: a builder gives it, and it may be continued from the
page before and name the owners of the model, in any order and again. -/
inductive Makes (schema : Schema) : Request → Prop where
  | sync {lastSync : Option UInt64} {limit : Option UInt32} {predicate : Predicate}
      {request : Request} (built : schema.syncRequest lastSync limit predicate = .ok request) :
      schema.Makes request
  | create {record : RecordView} {request : Request}
      (built : schema.createRequest record = .ok request) : schema.Makes request
  | update {record : RecordView} {expectedVersion : UInt64} {predicate : Predicate}
      {request : Request}
      (built : schema.updateRequest record expectedVersion predicate = .ok request) :
      schema.Makes request
  | delete {id : String} {expectedVersion : UInt64} {predicate : Predicate} {request : Request}
      (built : schema.deleteRequest id expectedVersion predicate = .ok request) :
      schema.Makes request
  | subscription {feed : Feed} {request : Request}
      (built : schema.subscriptionRequest feed = .ok request) : schema.Makes request
  | nextPage {request : Request} (made : schema.Makes request) (token : String) :
      schema.Makes (request.nextPage token)
  | decorated {request decorated : Request} {claims : Claims} {type : AuthType}
      (made : schema.Makes request)
      (done : schema.decorate claims request type = .ok decorated) : schema.Makes decorated

variable {schema : Schema} {request decorated : Request}

/-- The names that a schema brings into requests are names. -/
structure Named (schema : Schema) : Prop where
  own : isName schema.name = true
  plural : isName schema.plural = true
  owners : ∀ rule ∈ schema.ownerRules, isName rule.ownerField = true

private theorem named_of_recordSelection {entries : List Selection}
    (selected : schema.recordSelection = .ok entries) :
    schema.Named ∧ Selection.AllNamed entries := by
  obtain ⟨trees, done, same⟩ := Except.exists_of_bind_ok selected
  obtain ⟨names, expanded⟩ := expanded_of_expand done
  cases same
  simp only [ownNames, List.forall_mem_cons, List.forall_mem_map] at names
  obtain ⟨own, plural, owners⟩ := names
  refine ⟨⟨own, plural, owners⟩, Selection.allNamed_sorted.2 ?_⟩
  exact Selection.allNamed_append.2
    ⟨Selection.allNamed_of_expanded expanded, Selection.allNamed_metadata⟩

/-! ## Builders -/

private theorem named_of_syncRequest {lastSync : Option UInt64} {limit : Option UInt32}
    {predicate : Predicate} (built : schema.syncRequest lastSync limit predicate = .ok request) :
    schema.Named ∧ request.WellNamed := by
  obtain ⟨items, selected, built⟩ := Except.exists_of_bind_ok built
  obtain ⟨filter, compiled, built⟩ := Except.exists_of_bind_ok built
  cases built
  obtain ⟨names, itemsNamed⟩ := named_of_recordSelection selected
  have parts := parts_of_isName names.plural
  refine ⟨names, .bindSome (.bindSome (.bindSome (.make ?_ ?_ ?_) ?_ ?_ _) ?_ ?_ _) ?_ ?_ _⟩
  · exact isName_append (by decide) parts
  · exact isName_append (by decide) parts
  · simp only [Selection.allNamed_cons, Selection.allNamed_leaf_cons, Selection.allNamed_nil]
    exact ⟨by decide, itemsNamed, by decide⟩
  · decide
  · exact ⟨"AWSTimestamp", by decide, .inl rfl⟩
  · decide
  · exact ⟨"Int", by decide, .inl rfl⟩
  · decide
  · exact ⟨_, isName_around (by decide) names.own (by decide), .inl rfl⟩

/-- All mutations are named alike, whatever their input and condition. -/
theorem named_of_mutationRequest {change : Change} {input : Entries Json}
    {condition : Option Filter}
    (built : schema.mutationRequest change input condition = .ok request) :
    schema.Named ∧ request.WellNamed := by
  obtain ⟨selection, selected, built⟩ := Except.exists_of_bind_ok built
  cases built
  obtain ⟨names, selectionNamed⟩ := named_of_recordSelection selected
  have verb : isName change.verb = true := by cases change <;> decide
  have fieldVerb : isName change.fieldVerb = true := by cases change <;> decide
  have parts := parts_of_isName names.own
  refine ⟨names, .bindSome (.bind (.make ?_ ?_ selectionNamed) ?_ ?_ _) ?_ ?_ _⟩
  · exact isName_append verb parts
  · exact isName_append fieldVerb parts
  · decide
  · have input : isName (change.verb ++ schema.name ++ "Input") = true :=
      isName_around verb names.own (by decide)
    refine ⟨_, input, .inr ?_⟩
    simp [toString, String.append_assoc]
  · decide
  · exact ⟨_, isName_around (by decide) names.own (by decide), .inl rfl⟩

private theorem named_of_subscriptionRequest {feed : Feed}
    (built : schema.subscriptionRequest feed = .ok request) :
    schema.Named ∧ request.WellNamed := by
  obtain ⟨selection, selected, built⟩ := Except.exists_of_bind_ok built
  cases built
  obtain ⟨names, selectionNamed⟩ := named_of_recordSelection selected
  have verb : feed.verb.toList.all isNamePart = true := by cases feed <;> decide
  have parts := parts_of_isName names.own
  refine ⟨names, .make ?_ ?_ selectionNamed⟩
  · exact isName_append (isName_append (by decide) verb) parts
  · exact isName_append (isName_append (by decide) verb) parts

/-! ## Requests that go on -/

/-- Owner fields are the only names that naming the owners adds. -/
theorem wellNamed_of_owned {claims : Claims} {type : AuthType} {rules : List AuthRule}
    (owned : Owned claims type rules request decorated) (named : request.WellNamed)
    (fields : ∀ rule ∈ rules, isName rule.ownerField = true) : decorated.WellNamed := by
  have kept := owned.kept
  refine ⟨?_, ?_, ?_, ?_⟩
  · rw [kept]
    exact named.operation
  · rw [kept]
    exact named.root
  · intro name kind declared
    -- A variable of the name of an owner field has been bound anew, whatever it was before.
    by_cases owner : ∃ rule ∈ rules, rule.ownerField = name
    · obtain ⟨rule, listed, rfl⟩ := owner
      obtain ⟨_, _, _, _, _, bound⟩ := owned.bound rule listed
      obtain rfl : "String!" = kind := by simpa [Request.variableType?, bound] using declared
      exact ⟨fields rule listed, "String", by decide, .inr rfl⟩
    · have same := owned.others name fun rule listed bound => owner ⟨rule, listed, bound⟩
      refine named.declared name kind ?_
      simpa only [Request.variableType?, same] using declared
  · rw [kept]
    exact named.selected

/-- What is decorated keeps its names, since the owner fields of the schema were checked. -/
theorem named_of_decorate {claims : Claims} {type : AuthType} (names : schema.Named)
    (named : request.WellNamed) (done : schema.decorate claims request type = .ok decorated) :
    decorated.WellNamed := by
  rcases decorated_or_kept done with ⟨_, rfl⟩ | ⟨_, owned⟩
  · exact named
  · exact wellNamed_of_owned owned named names.owners

/-- Whatever is made for a model, the schema has names, as the request has. -/
theorem named_of_makes (made : schema.Makes request) : schema.Named ∧ request.WellNamed := by
  induction made with
  | sync built => exact named_of_syncRequest built
  | create built =>
    obtain ⟨_, _, built⟩ := createRequest_iff.1 built
    exact named_of_mutationRequest built
  | update built =>
    obtain ⟨_, _, _, _, built⟩ := updateRequest_iff.1 built
    exact named_of_mutationRequest built
  | delete built =>
    obtain ⟨_, _, built⟩ := deleteRequest_iff.1 built
    exact named_of_mutationRequest built
  | subscription built => exact named_of_subscriptionRequest built
  | nextPage _ token ih => exact ⟨ih.1, ih.2.nextPage token⟩
  | decorated _ done ih => exact ⟨ih.1, named_of_decorate ih.1 ih.2 done⟩

/-- A client sends documents of names. Whatever texts there are in the schema, the record, the
predicate, the tokens and the claims, the document has names wherever it has a name of theirs, and
nothing else but marks between them. -/
theorem documents_safe (made : schema.Makes request) :
    isName request.name = true ∧ isName request.field = true ∧
      (∀ name type, request.variableType? name = some type →
        isName name = true ∧ IsTypeName type) ∧
      (∀ entry, Selection.Among entry request.selection → isName entry.name = true) ∧
      ∀ char ∈ request.document.toList, IsDocumentChar char := by
  have named := (named_of_makes made).2
  exact ⟨named.operation, named.root, named.declared, named.selected, named.spelled_document⟩

/-- A request to be told of the journal entries that change. -/
def journalUpdates (selection : List Selection) : Request :=
  .make .subscription "OnUpdateEntry" "onUpdateEntry" "Entry" selection

theorem exists_journalUpdates :
    ∃ selection, journal.subscriptionRequest .onUpdate = .ok (journalUpdates selection) := by
  obtain ⟨selection, selected⟩ := recordSelection_eq_ok_iff.2 validate_journal
  exact ⟨selection, Except.bind_eq_ok_iff.2 ⟨selection, selected, rfl⟩⟩

/-- Claims of a caller who would like to end the document. -/
def hostileClaims : Claims := fun _ _ => .ok (some (.str "\x7d id"))

theorem hostile_kept_out :
    ∃ request decorated, journal.subscriptionRequest .onUpdate = .ok request ∧
      journal.decorate hostileClaims request .cognitoUserPools = .ok decorated ∧
      decorated.variableType? "editorId" = some "String!" ∧
      ∀ char ∈ (decorated.nextPage "\x7d id").document.toList, IsDocumentChar char := by
  obtain ⟨selection, built⟩ := exists_journalUpdates
  obtain ⟨decorated, done, declared⟩ : ∃ decorated,
      journal.decorate hostileClaims (journalUpdates selection) .cognitoUserPools = .ok decorated ∧
        decorated.variableType? "editorId" = some "String!" := ⟨_, rfl, rfl⟩
  obtain ⟨_, _, _, _, spelled⟩ :=
    documents_safe (.nextPage (.decorated (.subscription built) done) "\x7d id")
  exact ⟨_, decorated, built, done, declared, spelled⟩

end Schema

end ModelSync
