import ModelSync.Proofs.Predicate.Compilation
import ModelSync.Proofs.Request.Input

/-! What the builders of requests accept. Each of them succeeds exactly if the schema is fit for
documents, the predicate has a filter and the record can be sent, as far as it is given them; a
failure names a fault that one of them has. -/
namespace ModelSync

namespace Predicate

variable {predicate : Predicate} {failure : BuildError}

/-- A failure that reports a fault of the predicate. -/
def Reported (predicate : Predicate) (failure : BuildError) : Prop :=
  ∃ fault, failure = .predicate fault ∧ predicate ≠ .all ∧ predicate.HasFault fault

/-- A single leaf needs no more than other predicates do to become the filter of a query. -/
theorem compile_of_syncFilter (failed : Schema.syncFilter predicate = .error failure) :
    predicate.compile = .error failure := by
  cases predicate with
  | leaf field operator => cases failed
  | all | group => exact failed

theorem syncFilter_eq_ok_iff :
    (∃ filter, Schema.syncFilter predicate = .ok filter) ↔ predicate.WellFormed := by
  rw [← compile_eq_ok_iff]
  cases predicate with
  | leaf field operator => exact iff_of_true ⟨_, rfl⟩ ⟨_, rfl⟩
  | all | group => exact Iff.rfl

end Predicate

namespace Schema

variable {schema : Schema} {record : RecordView} {fields : List ModelField}
  {predicate : Predicate} {failure : BuildError}

/-- A failure that reports a fault of the schema. -/
def Reported (schema : Schema) (failure : BuildError) : Prop :=
  ∃ fault, failure = .schema schema.name fault ∧ schema.HasFault fault

/-- A field can be read from a record, and the value it has there, if any, is accepted. -/
def Readable (record : RecordView) (field : ModelField) : Prop :=
  ∃ held, record.value field.name = .ok held ∧ ∀ value, held = some value → field.Accepts value

/-- A record of the model whose fields that are sent can be read and are accepted. -/
structure Sendable (schema : Schema) (record : RecordView) : Prop where
  model : record.model = schema.name
  fields : ∀ field ∈ schema.fields, field.IsSent → Readable record field

/-- A failure that reports what is wrong with a field of the record. -/
inductive FieldReported (schema : Schema) (record : RecordView) (field : ModelField) :
    BuildError → Prop where
  | unreadable {failure : BuildError} (unread : record.value field.name = .error failure) :
      schema.FieldReported record field failure
  | refused {value : Json} (read : record.value field.name = .ok (some value))
      (refused : ¬ field.Accepts value) :
      schema.FieldReported record field (.field schema.name field.name (field.refusal value))

/-- A failure that reports a fault of the record. -/
inductive RecordReported (schema : Schema) (record : RecordView) : BuildError → Prop where
  | wrongModel (other : record.model ≠ schema.name) :
      schema.RecordReported record
        (.field schema.name idField (.wrongModel record.id record.model))
  | field {field : ModelField} {failure : BuildError} (listed : field ∈ schema.fields)
      (sent : field.IsSent) (reported : schema.FieldReported record field failure) :
      schema.RecordReported record failure

/-! ## Records -/

/-- Reading the fields of a record fails at one that cannot be read or is not accepted. -/
theorem reported_of_inputEntries (failed : schema.inputEntries record fields = .error failure) :
    ∃ field ∈ fields, field.IsSent ∧ schema.FieldReported record field failure := by
  induction fields with
  | nil => cases failed
  | cons field rest ih =>
    have later (failed : schema.inputEntries record rest = .error failure) :
        ∃ other ∈ field :: rest, other.IsSent ∧ schema.FieldReported record other failure := by
      obtain ⟨other, listed, found⟩ := ih failed
      exact ⟨other, List.mem_cons_of_mem _ listed, found⟩
    rw [inputEntries_cons] at failed
    split at failed
    case isTrue => exact later failed
    case isFalse kept =>
      have sent : field.IsSent := isSent_iff.2 (by simpa using kept)
      rcases Except.bind_eq_error_iff.1 failed with unread | ⟨held, read, failed⟩
      · exact ⟨field, List.mem_cons_self, sent, .unreadable unread⟩
      cases held with
      | none => exact later failed
      | some value =>
        by_cases accepted : field.Accepts value
        · obtain ⟨key, own, entry, _⟩ := schema.inputEntry_of_accepts accepted
          rcases Except.bind_eq_error_iff.1 failed with refused | ⟨_, _, failed⟩
          · rw [entry] at refused
            cases refused
          · rcases Except.bind_eq_error_iff.1 failed with after | ⟨_, _, done⟩
            · exact later after
            · cases done
        · dsimp only at failed
          rw [schema.inputEntry_of_refused accepted] at failed
          cases failed
          exact ⟨field, List.mem_cons_self, sent, .refused read accepted⟩

private theorem readable_of_inputEntries {entries : List (String × Json)}
    (done : schema.inputEntries record fields = .ok entries) :
    ∀ field ∈ fields, field.IsSent → Readable record field := by
  induction fields generalizing entries with
  | nil => exact fun _ listed => nomatch listed
  | cons field rest ih =>
    intro other listed sent
    rcases cases_of_inputEntries done with
      ⟨silent, done⟩ | ⟨value, entry, others, _, read, entered, after, _⟩
    · rcases List.mem_cons.1 listed with rfl | later
      · exact ⟨none, silent.resolve_left fun unsent => unsent sent, nofun⟩
      · exact ih done other later sent
    · rcases List.mem_cons.1 listed with rfl | later
      · refine ⟨some value, read, ?_⟩
        rintro own ⟨⟩
        apply Classical.byContradiction
        intro refused
        rw [schema.inputEntry_of_refused refused] at entered
        cases entered
      · exact ih after other later sent

/-- The fields of a record are read exactly if each of those that are sent can be. -/
theorem inputEntries_eq_ok_iff :
    (∃ entries, schema.inputEntries record fields = .ok entries) ↔
      ∀ field ∈ fields, field.IsSent → Readable record field := by
  constructor
  · rintro ⟨entries, done⟩
    exact readable_of_inputEntries done
  · intro readable
    apply Except.exists_ok_iff.2
    intro failure failed
    obtain ⟨field, listed, sent, reported⟩ := reported_of_inputEntries failed
    obtain ⟨held, found, accepted⟩ := readable field listed sent
    cases reported with
    | unreadable unread =>
      rw [found] at unread
      cases unread
    | refused read refused =>
      rw [found] at read
      cases read
      exact refused (accepted _ rfl)

private theorem mutationInput_eq (schema : Schema) (record : RecordView) :
    schema.mutationInput record = (do
      schema.validate
      if record.model ≠ schema.name then
        schema.fieldFault idField (.wrongModel record.id record.model)
      else
        let entries ← schema.inputEntries record schema.fields
        return schema.withoutNullOwners (Entries.ofList entries)) := rfl

/-- There is an input exactly for the records that can be sent. -/
theorem mutationInput_eq_ok_iff :
    (∃ input, schema.mutationInput record = .ok input) ↔
      schema.validate = .ok () ∧ schema.Sendable record := by
  rw [mutationInput_eq]
  constructor
  · rintro ⟨input, done⟩
    obtain ⟨_, valid, done⟩ := Except.exists_of_bind_ok done
    split at done
    case isTrue => cases done
    case isFalse model =>
      obtain ⟨entries, read, _⟩ := Except.exists_of_bind_ok done
      exact ⟨valid, Decidable.not_not.1 model, readable_of_inputEntries read⟩
  · rintro ⟨valid, sendable⟩
    obtain ⟨entries, read⟩ := inputEntries_eq_ok_iff.2 sendable.fields
    have model : ¬ record.model ≠ schema.name := fun other => other sendable.model
    simp only [Except.bind_eq_ok_iff]
    rw [if_neg model]
    exact ⟨_, (), valid, Except.bind_eq_ok_iff.2 ⟨entries, read, rfl⟩⟩

/-- What keeps an input from being made is a fault of the schema or of the record. -/
theorem reported_of_mutationInput (failed : schema.mutationInput record = .error failure) :
    schema.Reported failure ∨ schema.RecordReported record failure := by
  rw [mutationInput_eq] at failed
  rcases Except.bind_eq_error_iff.1 failed with invalid | ⟨_, _, failed⟩
  · exact .inl (fault_of_validate invalid)
  split at failed
  case isTrue other =>
    cases failed
    exact .inr (.wrongModel other)
  case isFalse =>
    rcases Except.bind_eq_error_iff.1 failed with failed | ⟨_, _, done⟩
    · obtain ⟨field, listed, sent, reported⟩ := reported_of_inputEntries failed
      exact .inr (.field listed sent reported)
    · cases done

/-! ## Requests -/

private theorem reported_of_mutationRequest {change : Change} {input : Entries Json}
    {condition : Option Filter}
    (failed : schema.mutationRequest change input condition = .error failure) :
    schema.Reported failure := by
  rcases Except.bind_eq_error_iff.1 failed with unselected | ⟨_, _, done⟩
  · exact fault_of_validate (validate_of_recordSelection unselected)
  · cases done

private theorem validate_of_mutationRequest {change : Change} {input : Entries Json}
    {condition : Option Filter} {request : Request}
    (built : schema.mutationRequest change input condition = .ok request) :
    schema.validate = .ok () := by
  obtain ⟨entries, selected, _⟩ := Except.exists_of_bind_ok built
  exact recordSelection_eq_ok_iff.1 ⟨entries, selected⟩

theorem subscriptionRequest_eq_ok_iff {feed : Feed} :
    (∃ request, schema.subscriptionRequest feed = .ok request) ↔ schema.validate = .ok () := by
  rw [← recordSelection_eq_ok_iff]
  constructor
  · rintro ⟨request, built⟩
    obtain ⟨entries, selected, _⟩ := Except.exists_of_bind_ok built
    exact ⟨entries, selected⟩
  · rintro ⟨entries, selected⟩
    exact ⟨_, Except.bind_eq_ok_iff.2 ⟨entries, selected, rfl⟩⟩

theorem syncRequest_eq_ok_iff {lastSync : Option UInt64} {limit : Option UInt32} :
    (∃ request, schema.syncRequest lastSync limit predicate = .ok request) ↔
      schema.validate = .ok () ∧ predicate.WellFormed := by
  rw [← recordSelection_eq_ok_iff, ← Predicate.syncFilter_eq_ok_iff]
  constructor
  · rintro ⟨request, built⟩
    obtain ⟨entries, selected, built⟩ := Except.exists_of_bind_ok built
    obtain ⟨filter, compiled, _⟩ := Except.exists_of_bind_ok built
    exact ⟨⟨entries, selected⟩, filter, compiled⟩
  · rintro ⟨⟨entries, selected⟩, filter, compiled⟩
    exact ⟨_, Except.bind_eq_ok_iff.2 ⟨entries, selected,
      Except.bind_eq_ok_iff.2 ⟨filter, compiled, rfl⟩⟩⟩

theorem deleteRequest_eq_ok_iff {id : String} {version : UInt64} :
    (∃ request, schema.deleteRequest id version predicate = .ok request) ↔
      schema.validate = .ok () ∧ predicate.WellFormed := by
  rw [← Predicate.compile_eq_ok_iff]
  constructor
  · rintro ⟨request, built⟩
    obtain ⟨condition, compiled, built⟩ := deleteRequest_iff.1 built
    exact ⟨validate_of_mutationRequest built, condition, compiled⟩
  · rintro ⟨valid, condition, compiled⟩
    obtain ⟨request, built⟩ := exists_mutationRequest valid .delete _ condition
    exact ⟨request, deleteRequest_iff.2 ⟨condition, compiled, built⟩⟩

theorem createRequest_eq_ok_iff :
    (∃ request, schema.createRequest record = .ok request) ↔
      ∃ input, schema.mutationInput record = .ok input := by
  constructor
  · rintro ⟨request, built⟩
    obtain ⟨input, read, _⟩ := createRequest_iff.1 built
    exact ⟨input, read⟩
  · rintro ⟨input, read⟩
    obtain ⟨request, built⟩ :=
      exists_mutationRequest (validate_of_mutationInput read) .create input none
    exact ⟨request, createRequest_iff.2 ⟨input, read, built⟩⟩

theorem updateRequest_eq_ok_iff {version : UInt64} :
    (∃ request, schema.updateRequest record version predicate = .ok request) ↔
      (∃ input, schema.mutationInput record = .ok input) ∧ predicate.WellFormed := by
  rw [← Predicate.compile_eq_ok_iff]
  constructor
  · rintro ⟨request, built⟩
    obtain ⟨input, read, condition, compiled, _⟩ := updateRequest_iff.1 built
    exact ⟨⟨input, read⟩, condition, compiled⟩
  · rintro ⟨⟨input, read⟩, condition, compiled⟩
    obtain ⟨request, built⟩ :=
      exists_mutationRequest (validate_of_mutationInput read) .update _ condition
    exact ⟨request, updateRequest_iff.2 ⟨input, read, condition, compiled, built⟩⟩

/-- A failure of a builder reports a fault of something that was given to it. -/
theorem failures_reported (schema : Schema) (record : RecordView) (predicate : Predicate)
    (feed : Feed) (lastSync : Option UInt64) (limit : Option UInt32) (id : String)
    (version : UInt64) (failure : BuildError) :
    (schema.subscriptionRequest feed = .error failure → schema.Reported failure) ∧
      (schema.syncRequest lastSync limit predicate = .error failure →
        schema.Reported failure ∨ predicate.Reported failure) ∧
      (schema.deleteRequest id version predicate = .error failure →
        schema.Reported failure ∨ predicate.Reported failure) ∧
      (schema.createRequest record = .error failure →
        schema.Reported failure ∨ schema.RecordReported record failure) ∧
      (schema.updateRequest record version predicate = .error failure →
        schema.Reported failure ∨ schema.RecordReported record failure ∨
          predicate.Reported failure) := by
  refine ⟨?_, ?_, ?_, ?_, ?_⟩
  · intro failed
    rcases Except.bind_eq_error_iff.1 failed with unselected | ⟨_, _, done⟩
    · exact fault_of_validate (validate_of_recordSelection unselected)
    · cases done
  · intro failed
    rcases Except.bind_eq_error_iff.1 failed with unselected | ⟨_, _, failed⟩
    · exact .inl (fault_of_validate (validate_of_recordSelection unselected))
    rcases Except.bind_eq_error_iff.1 failed with uncompiled | ⟨_, _, done⟩
    · exact .inr (Predicate.fault_of_compile (Predicate.compile_of_syncFilter uncompiled))
    · cases done
  · intro failed
    rcases Except.bind_eq_error_iff.1 failed with uncompiled | ⟨_, _, failed⟩
    · exact .inr (Predicate.fault_of_compile uncompiled)
    · exact .inl (reported_of_mutationRequest failed)
  · intro failed
    rcases Except.bind_eq_error_iff.1 failed with unread | ⟨_, _, failed⟩
    · exact reported_of_mutationInput unread
    · exact .inl (reported_of_mutationRequest failed)
  · intro failed
    rcases Except.bind_eq_error_iff.1 failed with unread | ⟨_, _, failed⟩
    · exact (reported_of_mutationInput unread).imp_right .inl
    rcases Except.bind_eq_error_iff.1 failed with uncompiled | ⟨_, _, failed⟩
    · exact .inr (.inr (Predicate.fault_of_compile uncompiled))
    · exact .inl (reported_of_mutationRequest failed)

/-- A schema that is fit for documents has its types followed to their ends without a look at the
types above, and what is found that way is selected. -/
theorem selection_of_validate (valid : schema.validate = .ok ()) :
    ∃ entries, schema.recordSelection = .ok (Selection.sorted (entries ++ metadataSelection)) ∧
      ∀ depth, schema.customTypes.keys.length ≤ depth →
        (schema.entriesWithin depth schema.fields).run = some (.ok entries) := by
  obtain ⟨trees, expanded⟩ := validate_eq_ok_iff.1 valid
  refine ⟨FieldTree.selections trees, Except.bind_eq_ok_iff.2 ⟨trees, expanded, rfl⟩, ?_⟩
  intro depth deep
  have enough : (schema.unentered []).length ≤ depth :=
    Nat.le_trans (List.length_filter_le _ _) deep
  rw [entriesWithin_of_expanded (expanded_of_expand expanded).2 enough]
  rfl

/-- The builders agree on what is acceptable. A schema is, if it is fit for documents, a predicate,
if it is well-formed, and a record, if it can be sent; each builder asks this of what it is given,
and nothing else. A failure reports a fault of one of them. The types of a schema that is fit for
documents can be followed without a guard: the search ends and misses no type. -/
theorem builders_agree (schema : Schema) (record : RecordView) (predicate : Predicate)
    (feed : Feed) (lastSync : Option UInt64) (limit : Option UInt32) (id : String)
    (version : UInt64) :
    ((∃ request, schema.subscriptionRequest feed = .ok request) ↔ schema.validate = .ok ()) ∧
      ((∃ request, schema.syncRequest lastSync limit predicate = .ok request) ↔
        schema.validate = .ok () ∧ predicate.WellFormed) ∧
      ((∃ request, schema.deleteRequest id version predicate = .ok request) ↔
        schema.validate = .ok () ∧ predicate.WellFormed) ∧
      ((∃ request, schema.createRequest record = .ok request) ↔
        schema.validate = .ok () ∧ schema.Sendable record) ∧
      ((∃ request, schema.updateRequest record version predicate = .ok request) ↔
        (∃ request, schema.createRequest record = .ok request) ∧ predicate.WellFormed) ∧
      (∀ failure,
        (schema.subscriptionRequest feed = .error failure → schema.Reported failure) ∧
          (schema.syncRequest lastSync limit predicate = .error failure →
            schema.Reported failure ∨ predicate.Reported failure) ∧
          (schema.deleteRequest id version predicate = .error failure →
            schema.Reported failure ∨ predicate.Reported failure) ∧
          (schema.createRequest record = .error failure →
            schema.Reported failure ∨ schema.RecordReported record failure) ∧
          (schema.updateRequest record version predicate = .error failure →
            schema.Reported failure ∨ schema.RecordReported record failure ∨
              predicate.Reported failure)) ∧
      (schema.validate = .ok () →
        ∃ entries, schema.recordSelection = .ok (Selection.sorted (entries ++ metadataSelection)) ∧
          ∀ depth, schema.customTypes.keys.length ≤ depth →
            (schema.entriesWithin depth schema.fields).run = some (.ok entries)) := by
  refine ⟨subscriptionRequest_eq_ok_iff, syncRequest_eq_ok_iff, deleteRequest_eq_ok_iff, ?_, ?_,
    failures_reported schema record predicate feed lastSync limit id version,
    selection_of_validate⟩
  · rw [createRequest_eq_ok_iff, mutationInput_eq_ok_iff]
  · rw [createRequest_eq_ok_iff, updateRequest_eq_ok_iff]

/-- A negation of everything in a list. -/
def noneOf (predicates : List Predicate) : Predicate := .group .not predicates

theorem morning_accepted :
    (∃ request, journal.createRequest morning = .ok request) ∧
      (∃ request, journal.updateRequest morning 7 (noneOf [.leaf "text" (.compare .eq .null)]) =
        .ok request) ∧
      ¬ ∃ request, journal.updateRequest morning 7 (noneOf []) = .ok request := by
  obtain ⟨_, _, _, create, update, _⟩ := builders_agree journal morning
    (noneOf [.leaf "text" (.compare .eq .null)]) .onCreate none none "e1" 7
  obtain ⟨_, _, _, _, refused, _⟩ :=
    builders_agree journal morning (noneOf []) .onCreate none none "e1" 7
  have created := create.2 (mutationInput_eq_ok_iff.1 ⟨_, mutationInput_morning⟩)
  refine ⟨created, update.2 ⟨created, Predicate.compile_eq_ok_iff.1 ⟨_, rfl⟩⟩, ?_⟩
  intro accepted
  rcases (refused.1 accepted).2 with all | ⟨_, single⟩
  · cases all
  · exact absurd (single [] .here) (by decide)

end Schema

end ModelSync
