import ModelSync.Proofs.Predicate.Reading

/-! What becomes of predicates that are combined. A combination has the faults of both, and no
others, so predicates with filters make predicates with filters, and no others do. -/
namespace ModelSync.Predicate

/-- There is a filter for the predicate. -/
def Filtered (predicate : Predicate) : Prop := ∃ filter, predicate.compile = .ok (some filter)

/-- There is neither a filter for the predicate, nor does it do without. -/
def Refused (predicate : Predicate) : Prop := ∃ fault, predicate.compile = .error (.predicate fault)

variable {predicate other : Predicate} {children : List Predicate} {kind : GroupKind}
  {fault : PredicateFault}

private theorem not_filtered_all : ¬ Filtered .all := fun ⟨_, done⟩ => nomatch done

private theorem filtered_iff : predicate.Filtered ↔ ∀ fault, ¬ predicate.HasFault fault := by
  rw [← compileNode_eq_ok_iff]
  by_cases all : predicate = .all
  · subst all
    exact iff_of_false not_filtered_all fun ⟨_, done⟩ => nomatch done
  · simp [Filtered, compile_of_ne all, Except.map_eq_ok_iff]

private theorem filtered_iff_of_nested :
    predicate.Filtered ↔
      predicate ≠ .all ∧ ¬ Within .all predicate ∧
        ∀ children, Within (.group .not children) predicate → children.length = 1 := by
  by_cases all : predicate = .all
  · subst all
    exact iff_of_false not_filtered_all fun ⟨nested, _⟩ => nested rfl
  · have well := predicate.wellFormed_iff
    rw [WellFormed, or_iff_right all, or_iff_right all] at well
    rw [and_iff_right all, well, filtered_iff]

private theorem refused_of_not_filtered (nested : predicate ≠ .all)
    (unfiltered : ¬ predicate.Filtered) : predicate.Refused := by
  match done : predicate.compile with
  | .ok none => exact absurd ((eq_none_iff_of_compile done).1 rfl) nested
  | .ok (some filter) => exact absurd ⟨filter, done⟩ unfiltered
  | .error failure =>
    obtain ⟨fault, rfl, _⟩ := fault_of_compile done
    exact ⟨fault, done⟩

private theorem Refused.not_filtered (refused : predicate.Refused) : ¬ predicate.Filtered := by
  rintro ⟨filter, done⟩
  obtain ⟨fault, failed⟩ := refused
  cases done.symm.trans failed

/-- A group that has no fault of its own has those of its children. -/
theorem hasFault_group_iff (sound : ownFault? (.group kind children) = none) :
    (group kind children).HasFault fault ↔ ∃ child ∈ children, child.HasFault fault := by
  simp only [hasFault_iff, nodes, List.mem_cons, exists_eq_or_imp, sound, reduceCtorEq, false_or,
    mem_nodesOfAll_iff]
  constructor
  · rintro ⟨node, ⟨child, listed, below⟩, own⟩
    exact ⟨child, listed, node, below, own⟩
  · rintro ⟨child, listed, node, below, own⟩
    exact ⟨node, ⟨child, listed, below⟩, own⟩

private theorem hasFault_not_iff : predicate.not.HasFault fault ↔ predicate.HasFault fault :=
  (hasFault_group_iff rfl).trans (by simp)

/-- What a predicate contributes to a group of a kind: its own children, if it is such a group. -/
def parts (kind : GroupKind) : Predicate → List Predicate
  | .group held children => if held = kind then children else [.group held children]
  | predicate => [predicate]

theorem combine_eq (kind : GroupKind) (predicate other : Predicate) :
    combine kind predicate other = .group kind (predicate.parts kind ++ [other]) := by
  cases predicate with
  | all | leaf => rfl
  | group held children =>
    simp only [combine, parts]
    split <;> rfl

private theorem hasFault_parts_iff (kind_ne : kind ≠ .not) :
    (∃ part ∈ predicate.parts kind, part.HasFault fault) ↔ predicate.HasFault fault := by
  cases predicate with
  | all | leaf => simp [parts]
  | group held children =>
    by_cases same : held = kind
    · subst same
      simp [parts, hasFault_group_iff (ownFault?_group kind_ne)]
    · simp [parts, same]

/-- To combine predicates adds no fault and loses none. -/
theorem hasFault_combine_iff (kind_ne : kind ≠ .not) :
    (combine kind predicate other).HasFault fault ↔
      predicate.HasFault fault ∨ other.HasFault fault := by
  rw [combine_eq, hasFault_group_iff (ownFault?_group kind_ne), ← hasFault_parts_iff kind_ne]
  simp only [List.mem_append, List.mem_singleton, or_and_right, exists_or, exists_eq_left]

private theorem filtered_combine_iff (kind_ne : kind ≠ .not) :
    (combine kind predicate other).Filtered ↔ predicate.Filtered ∧ other.Filtered := by
  simp only [filtered_iff, hasFault_combine_iff kind_ne, not_or, forall_and]

private theorem filtered_not_iff : predicate.not.Filtered ↔ predicate.Filtered := by
  simp only [filtered_iff, hasFault_not_iff]

private theorem refused_combine (kind_ne : kind ≠ .not)
    (unfit : ¬ (predicate.Filtered ∧ other.Filtered)) : (combine kind predicate other).Refused := by
  refine refused_of_not_filtered ?_ (mt (filtered_combine_iff kind_ne).1 unfit)
  rw [combine_eq]
  exact nofun

/-- Compiling decides about a predicate: the one that matches everything needs no filter, any other
has one exactly if nothing inside of it matches everything and each negation has a single child, and
if not, it is refused for the first node that has a fault. A filter has a single key. So predicates
with filters are combined and negated into predicates with filters, and a combination with any other
is refused. -/
theorem compile_decides (predicate other : Predicate) :
    (predicate.compile = .ok none ↔ predicate = .all) ∧
      (predicate.Filtered ↔
        predicate ≠ .all ∧ ¬ Within .all predicate ∧
          ∀ children, Within (.group .not children) predicate → children.length = 1) ∧
      (∀ failure, predicate.compile = .error failure ↔
        predicate ≠ .all ∧
          ∃ fault, predicate.firstFault? = some fault ∧ failure = .predicate fault) ∧
      (∀ filter, predicate.compile = .ok (some filter) → ∃ key value, filter = [(key, value)]) ∧
      (predicate.Filtered → other.Filtered →
        (predicate.and other).Filtered ∧ (predicate.or other).Filtered ∧
          predicate.not.Filtered) ∧
      (predicate = .all ∨ predicate.Refused ∨ other = .all ∨ other.Refused →
        (predicate.and other).Refused ∧ (predicate.or other).Refused) := by
  refine ⟨?_, filtered_iff_of_nested, ?_, ?_, ?_, ?_⟩
  · exact ⟨fun done => (eq_none_iff_of_compile done).1 rfl, fun all => all ▸ rfl⟩
  · intro failure
    by_cases all : predicate = .all
    · subst all
      exact iff_of_false nofun fun ⟨nested, _⟩ => nested rfl
    · rw [and_iff_right all, compile_of_ne all, Except.map_eq_error_iff]
      exact compiling_reports.1 predicate failure
  · intro filter done
    cases compiled_of_compileNode (compileNode_of_compile done) with
    | leaf | negation | group => exact ⟨_, _, rfl⟩
  · intro own its
    exact ⟨(filtered_combine_iff (by decide)).2 ⟨own, its⟩,
      (filtered_combine_iff (by decide)).2 ⟨own, its⟩, filtered_not_iff.2 own⟩
  · intro unfit
    have unfiltered : ¬ (predicate.Filtered ∧ other.Filtered) := by
      rintro ⟨own, its⟩
      rcases unfit with rfl | refused | rfl | refused
      · exact not_filtered_all own
      · exact refused.not_filtered own
      · exact not_filtered_all its
      · exact refused.not_filtered its
    exact ⟨refused_combine (by decide) unfiltered, refused_combine (by decide) unfiltered⟩

/-- A disjunction with two faults. -/
def crooked : Predicate := .group .or [.comparing "mood" .eq .null, .group .not [], .all]

/-- A conjunction of nothing, which has a filter. -/
def anything : Predicate := .group .and []

theorem crooked_refused :
    crooked.compile = .error (.predicate (.negationArity 0)) ∧ (anything.or crooked).Refused ∧
      (anything.and (comparing "mood" .eq .null)).Filtered := by
  obtain ⟨_, _, failsFor, _⟩ := compile_decides crooked anything
  have failed := (failsFor _).2 ⟨nofun, _, rfl, rfl⟩
  obtain ⟨_, _, _, _, _, spoiled⟩ := compile_decides anything crooked
  obtain ⟨_, _, _, _, combined, _⟩ := compile_decides anything (comparing "mood" .eq .null)
  exact ⟨failed, (spoiled (.inr (.inr (.inr ⟨_, failed⟩)))).2, (combined ⟨_, rfl⟩ ⟨_, rfl⟩).1⟩

end ModelSync.Predicate
