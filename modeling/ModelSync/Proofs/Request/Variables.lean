import ModelSync.Proofs.Request.Acceptance
import ModelSync.Proofs.Predicate.Reading

/-! What is sent besides the document. A variable is bound exactly if there is something to send in
it. A query takes groups only, so a single leaf becomes the only member of a conjunction, whatever
its field is called; a condition is a filter of any kind. -/
namespace ModelSync

/-- A number is sent as it is, and nothing is sent if none is given. -/
inductive SentAs : Option Nat → Option Json → Prop where
  | nothing : SentAs none none
  | number {number : Nat} (bounded : leastInteger ≤ number ∧ number ≤ greatestInteger) :
      SentAs (some number) (some (.num (.integer number bounded)))

private theorem sentAs_ofUInt64 (value : UInt64) :
    SentAs (some value.toNat) (some (Json.ofUInt64 value)) :=
  .number _

private theorem sentAs_map_ofUInt64 (value : Option UInt64) :
    SentAs (value.map UInt64.toNat) (value.map Json.ofUInt64) := by
  cases value with
  | none => exact .nothing
  | some value => exact sentAs_ofUInt64 value

private theorem sentAs_map_ofUInt32 (value : Option UInt32) :
    SentAs (value.map UInt32.toNat) (value.map Json.ofUInt32) := by
  cases value with
  | none => exact .nothing
  | some value => exact .number _

/-- The entry of a variable, if it is sent. -/
def entryOf (name : String) : Option Json → Entries Json
  | none => []
  | some value => [(name, value)]

namespace Predicate

/-- What a query makes of the filter of a predicate: that of a single leaf is put into a
conjunction. -/
def queryFilter : Predicate → Filter → Filter
  | .leaf _ _, filter => [("and", .arr [.obj filter])]
  | _, filter => filter

variable {predicate : Predicate} {filter : Option Filter} {own : Filter}

private theorem syncFilter_of_compile (done : predicate.compile = .ok filter) :
    Schema.syncFilter predicate = .ok (filter.map predicate.queryFilter) := by
  cases predicate with
  | all | leaf =>
    cases done
    rfl
  | group kind children =>
    have same : Schema.syncFilter (.group kind children) = .ok filter := done
    rw [same]
    cases filter <;> rfl

/-- The only key of a query's filter is the name of a kind of group. -/
theorem queryFilter_key (done : predicate.compile = .ok (some own)) :
    ∃ kind : GroupKind, ∃ value, predicate.queryFilter own = [(kind.name, value)] := by
  cases compiled_of_compileNode (compileNode_of_compile done) with
  | leaf => exact ⟨.and, _, rfl⟩
  | negation => exact ⟨.not, _, rfl⟩
  | group => exact ⟨_, _, rfl⟩

end Predicate

namespace Schema

variable {schema : Schema} {predicate : Predicate} {filter : Option Filter}

private theorem deletionInput_eq (id : String) (number : Json) :
    Entries.ofList [(idField, .str id), (versionField, number)] =
      [("_version", number), ("id", .str id)] := by
  have before : "_version" < "id" := by decide
  simp [Entries.ofList, Entries.insert, idField, versionField, before]

private theorem variableValues_mutationRequest (valid : schema.validate = .ok ()) (change : Change)
    (input : Entries Json) (condition : Option Filter) :
    ∃ request, schema.mutationRequest change input condition = .ok request ∧
      request.variableValues =
        entryOf "condition" (condition.map .obj) ++ [("input", .obj input)] := by
  obtain ⟨selection, selected⟩ := recordSelection_eq_ok_iff.2 valid
  refine ⟨_, Except.bind_eq_ok_iff.2 ⟨selection, selected, rfl⟩, ?_⟩
  cases condition <;> rfl

private theorem variableValues_syncRequest (valid : schema.validate = .ok ())
    (compiled : predicate.compile = .ok filter) (lastSync : Option UInt64)
    (limit : Option UInt32) :
    ∃ request, schema.syncRequest lastSync limit predicate = .ok request ∧
      request.variableValues =
        entryOf "filter" (filter.map fun own => .obj (predicate.queryFilter own)) ++
          entryOf "lastSync" (lastSync.map .ofUInt64) ++
          entryOf "limit" (limit.map .ofUInt32) := by
  obtain ⟨selection, selected⟩ := recordSelection_eq_ok_iff.2 valid
  have grouped := Predicate.syncFilter_of_compile compiled
  refine ⟨_, Except.bind_eq_ok_iff.2 ⟨selection, selected,
    Except.bind_eq_ok_iff.2 ⟨_, grouped, rfl⟩⟩, ?_⟩
  -- Which of the three are bound decides where each is put.
  cases lastSync <;> cases limit <;> cases filter <;> rfl

/-- The variables of requests hold what is asked for, and no others are bound. A query has the time
of the last synchronization and the limit as they are given, and a filter unless everything matches;
the filter is that of the predicate, in a conjunction of its own if it is a single leaf, so that its
only key is the name of a kind of group. An update and a deletion have an input, and the filter of
the predicate as the condition unless everything matches. The input of an update is that of its
record with the version, and that of a deletion is the identifier and the version. -/
theorem variables_exact (valid : schema.validate = .ok ()) (well : predicate.WellFormed) :
    ∃ filter, predicate.compile = .ok filter ∧ (filter = none ↔ predicate = .all) ∧
      (∀ lastSync limit, ∃ request since page,
        schema.syncRequest lastSync limit predicate = .ok request ∧
          SentAs (lastSync.map UInt64.toNat) since ∧ SentAs (limit.map UInt32.toNat) page ∧
          request.variableValues =
            entryOf "filter" (filter.map fun own => .obj (predicate.queryFilter own)) ++
              entryOf "lastSync" since ++ entryOf "limit" page) ∧
      (∀ own, filter = some own →
        ∃ kind : GroupKind, ∃ value, predicate.queryFilter own = [(kind.name, value)]) ∧
      (∀ record version, schema.Sendable record → ∃ request input number,
        schema.updateRequest record version predicate = .ok request ∧
          schema.mutationInput record = .ok input ∧ SentAs (some version.toNat) (some number) ∧
          request.variableValues =
            entryOf "condition" (filter.map .obj) ++
              [("input", .obj (Entries.insert versionField number input))]) ∧
      ∀ id version, ∃ request number,
        schema.deleteRequest id version predicate = .ok request ∧
          SentAs (some version.toNat) (some number) ∧
          request.variableValues =
            entryOf "condition" (filter.map .obj) ++
              [("input", .obj [("_version", number), ("id", .str id)])] := by
  obtain ⟨filter, compiled⟩ := Predicate.compile_eq_ok_iff.2 well
  refine ⟨filter, compiled, Predicate.eq_none_iff_of_compile compiled, ?_, ?_, ?_, ?_⟩
  · intro lastSync limit
    obtain ⟨request, built, bound⟩ := variableValues_syncRequest valid compiled lastSync limit
    exact ⟨request, _, _, built, sentAs_map_ofUInt64 lastSync, sentAs_map_ofUInt32 limit, bound⟩
  · rintro own rfl
    exact Predicate.queryFilter_key compiled
  · intro record version sendable
    obtain ⟨input, read⟩ := mutationInput_eq_ok_iff.2 ⟨valid, sendable⟩
    obtain ⟨request, built, bound⟩ :=
      variableValues_mutationRequest valid .update
        (Entries.insert versionField (Json.ofUInt64 version) input) filter
    exact ⟨request, input, _, updateRequest_iff.2 ⟨input, read, filter, compiled, built⟩, read,
      sentAs_ofUInt64 version, bound⟩
  · intro id version
    obtain ⟨request, built, bound⟩ :=
      variableValues_mutationRequest valid .delete
        (.ofList [(idField, .str id), (versionField, Json.ofUInt64 version)]) filter
    rw [deletionInput_eq] at bound
    exact ⟨request, _, deleteRequest_iff.2 ⟨filter, compiled, built⟩, sentAs_ofUInt64 version,
      bound⟩

/-- A leaf on a field that goes by the name of negations. -/
def misleading : Predicate := .comparing "not" .eq .null

/-- Zero, as a JSON number. -/
def zero : Json := .ofUInt64 0

theorem misleading_grouped :
    (∃ request, journal.syncRequest (some 0) (some 0) misleading = .ok request ∧
        request.variableValues =
          [("filter", .obj [("and", .arr [.obj [("not", .obj [("eq", .null)])]])]),
            ("lastSync", zero), ("limit", zero)]) ∧
      ∃ request, journal.deleteRequest "e1" 0 misleading = .ok request ∧
        request.variableValues =
          [("condition", .obj [("not", .obj [("eq", .null)])]),
            ("input", .obj [("_version", zero), ("id", .str "e1")])] := by
  have well : misleading.WellFormed := Predicate.compile_eq_ok_iff.1 ⟨_, rfl⟩
  obtain ⟨filter, compiled, _, query, _, _, deletion⟩ := variables_exact validate_journal well
  cases compiled
  obtain ⟨synced, _, _, built, since, page, bound⟩ := query (some 0) (some 0)
  cases since
  cases page
  obtain ⟨deleted, _, erased, version, input⟩ := deletion "e1" 0
  cases version
  exact ⟨⟨synced, built, bound⟩, deleted, erased, input⟩

end Schema

end ModelSync
