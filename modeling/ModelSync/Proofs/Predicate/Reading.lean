import ModelSync.Proofs.Predicate.Compilation

/-! Predicates are read off their filters. A filter is an object with one member, whose key is the
name of a kind of group or of a field, and what stands under the key tells which: a list for a
conjunction or a disjunction, an object for a leaf. Only a negation has an object as well, so that a
field of its name would be taken for one. Where there is none, two predicates have the same filter
only if they are the same. -/
namespace ModelSync

private theorem Comparison.eq_of_name {first second : Comparison}
    (same : first.name = second.name) : first = second := by
  cases first <;> cases second <;> first | rfl | exact absurd same (by decide)

private theorem Comparison.name_ne_between (comparison : Comparison) :
    comparison.name ≠ "between" := by
  cases comparison <;> decide

private theorem GroupKind.eq_of_name {first second : GroupKind} (same : first.name = second.name) :
    first = second := by
  cases first <;> cases second <;> first | rfl | exact absurd same (by decide)

namespace Operator

variable {first second : Operator}

/-- An operator is read off its name and what it compares with. -/
theorem eq_of_operand (names : first.name = second.name)
    (operands : first.operand = second.operand) : first = second := by
  cases first with
  | compare comparison operand =>
    cases second with
    | compare => rw [Comparison.eq_of_name names, show operand = _ from operands]; rfl
    | between => exact absurd names comparison.name_ne_between
  | between =>
    cases second with
    | compare other => exact absurd names.symm other.name_ne_between
    | between => cases operands; rfl

private theorem same_iff :
    first.same second = true ↔
      first.name = second.name ∧ first.operand.same second.operand = true := by
  cases first with
  | compare comparison =>
    cases second with
    | compare other =>
      have names : comparison = other ↔ comparison.name = other.name :=
        ⟨fun same => same ▸ rfl, Comparison.eq_of_name⟩
      simp [Operator.same, Operator.name, Operator.operand, names]
    | between => simp [Operator.same, Operator.name, comparison.name_ne_between]
  | between =>
    cases second with
    | compare other => simp [Operator.same, Operator.name, other.name_ne_between.symm]
    | between => simp [Operator.same, Operator.name, Operator.operand, Json.same, Json.sameItems]

end Operator

namespace Predicate

/-- No leaf is about a field of the name that negations go by. -/
def Unambiguous (predicate : Predicate) : Prop :=
  ∀ operator, ¬ Within (.leaf "not" operator) predicate

/-- Equal as JSON, or no filters at all. -/
def sameFilters : Option Filter → Option Filter → Bool
  | none, none => true
  | some left, some right => Json.sameMembers left right
  | _, _ => false

/-- What a predicate in a group compiles to. -/
inductive Compiled : Predicate → Filter → Prop where
  | leaf (field : String) (operator : Operator) :
      Compiled (.leaf field operator) [(field, .obj [(operator.name, operator.operand)])]
  | negation {child : Predicate} {inner : Filter} (below : compileNode child = .ok inner) :
      Compiled (.group .not [child]) [("not", .obj inner)]
  | group {kind : GroupKind} {children : List Predicate} {items : List Json}
      (kind_ne : kind ≠ .not) (below : compileNodes children = .ok items) :
      Compiled (.group kind children) [(kind.name, .arr items)]

variable {first second child : Predicate} {children others : List Predicate} {kind : GroupKind}
  {left right : Filter}

theorem compiled_of_compileNode (done : compileNode first = .ok left) : Compiled first left := by
  cases first with
  | all => cases done
  | leaf field operator =>
    cases done
    exact .leaf field operator
  | group kind children =>
    by_cases negation : kind = .not
    · subst negation
      by_cases single : children.length = 1
      · obtain ⟨child, rfl⟩ := List.length_eq_one_iff.1 single
        rw [compileNode_not] at done
        obtain ⟨inner, below, done⟩ := Except.exists_of_bind_ok done
        cases done
        exact .negation below
      · rw [compileNode_not_of_many single] at done
        cases done
    · rw [compileNode_group negation] at done
      obtain ⟨items, below, done⟩ := Except.exists_of_bind_ok done
      cases done
      exact .group negation below

@[simp] theorem unambiguous_leaf {field : String} {operator : Operator} :
    (leaf field operator).Unambiguous ↔ field ≠ "not" := by
  constructor
  · rintro clear rfl
    exact clear operator .here
  · intro field_ne other inside
    cases inside
    exact field_ne rfl

@[simp] theorem unambiguous_group :
    (group kind children).Unambiguous ↔ ∀ child ∈ children, child.Unambiguous := by
  constructor
  · exact fun clear child listed operator inside => clear operator (.deeper listed inside)
  · intro clear operator inside
    cases inside with
    | deeper listed inside => exact clear _ listed operator inside

/-- The filters tell the predicates apart: exactly, and as JSON. -/
def ToldApart (first second : Predicate) (left right : Filter) : Prop :=
  (left = right → first = second) ∧
    (Json.sameMembers left right = true ↔ first.same second = true)

private theorem toldApart_of_ne (unlike : first.same second = false)
    (apart : Json.sameMembers left right = false) (filters : left ≠ right) :
    ToldApart first second left right :=
  ⟨fun same => absurd same filters, by simp [unlike, apart]⟩

/-- Lists of predicates are told apart member by member. -/
theorem toldApart_children {items otherItems : List Json}
    (each : ∀ child ∈ children, ∀ second left right, second.Unambiguous →
      compileNode child = .ok left → compileNode second = .ok right →
        ToldApart child second left right)
    (clear : ∀ other ∈ others, other.Unambiguous) (done : compileNodes children = .ok items)
    (otherDone : compileNodes others = .ok otherItems) :
    (items = otherItems → children = others) ∧
      (Json.sameItems items otherItems = true ↔ sameChildren children others = true) := by
  induction children generalizing others items otherItems with
  | nil =>
    cases done
    cases others with
    | nil =>
      cases otherDone
      simp [Json.sameItems, sameChildren]
    | cons other rest =>
      obtain ⟨_, _, otherDone⟩ := Except.exists_of_bind_ok otherDone
      obtain ⟨_, _, otherDone⟩ := Except.exists_of_bind_ok otherDone
      cases otherDone
      simp [Json.sameItems, sameChildren]
  | cons child rest ih =>
    obtain ⟨filter, compiled, done⟩ := Except.exists_of_bind_ok done
    obtain ⟨later, restCompiled, done⟩ := Except.exists_of_bind_ok done
    cases done
    cases others with
    | nil =>
      cases otherDone
      simp [Json.sameItems, sameChildren]
    | cons other others =>
      obtain ⟨otherFilter, otherCompiled, otherDone⟩ := Except.exists_of_bind_ok otherDone
      obtain ⟨otherLater, othersCompiled, otherDone⟩ := Except.exists_of_bind_ok otherDone
      cases otherDone
      obtain ⟨childEach, restEach⟩ := List.forall_mem_cons.1 each
      obtain ⟨otherClear, othersClear⟩ := List.forall_mem_cons.1 clear
      obtain ⟨exact, alike⟩ := childEach other filter otherFilter otherClear compiled otherCompiled
      obtain ⟨restExact, restAlike⟩ := ih restEach othersClear restCompiled othersCompiled
      constructor
      · intro same
        obtain ⟨head, tail⟩ := List.cons.inj same
        rw [exact (Json.obj.inj head), restExact tail]
      · simp only [Json.sameItems, Json.same, sameChildren, Bool.and_eq_true, alike, restAlike]

/-- Filters tell predicates apart, one member at a time: the key and what kind of value it has give
the kind of the predicate, and the value gives the rest. -/
theorem toldApart_of_compileNode (first : Predicate) :
    first.Unambiguous → ∀ second left right, second.Unambiguous →
      compileNode first = .ok left → compileNode second = .ok right →
        ToldApart first second left right := by
  induction first using induction_on_children with
  | all =>
    intro _ second left right _ done
    cases done
  | leaf field operator =>
    intro clear second left right otherClear done otherDone
    cases compiled_of_compileNode done
    cases compiled_of_compileNode otherDone with
    | leaf other otherOperator =>
      constructor
      · intro same
        simp only [List.cons.injEq, Prod.mk.injEq, Json.obj.injEq, and_true] at same
        obtain ⟨rfl, names, operands⟩ := same
        rw [Operator.eq_of_operand names operands]
      · simp [Json.sameMembers, Json.same, Predicate.same, Operator.same_iff]
    | negation =>
      exact toldApart_of_ne rfl (by simp [Json.sameMembers, unambiguous_leaf.1 clear])
        (by simp [unambiguous_leaf.1 clear])
    | group => exact toldApart_of_ne rfl (by simp [Json.sameMembers, Json.same]) (by simp)
  | group kind children ih =>
    intro clear second left right otherClear done otherDone
    cases compiled_of_compileNode done with
    | @negation child inner below =>
      cases compiled_of_compileNode otherDone with
      | leaf =>
        exact toldApart_of_ne rfl
          (by simp [Json.sameMembers, Ne.symm (unambiguous_leaf.1 otherClear)])
          (by simp [Ne.symm (unambiguous_leaf.1 otherClear)])
      | @negation other otherInner otherBelow =>
        obtain ⟨exact, alike⟩ := ih child List.mem_cons_self
          (unambiguous_group.1 clear child List.mem_cons_self) other inner otherInner
          (unambiguous_group.1 otherClear other List.mem_cons_self) below otherBelow
        constructor
        · intro same
          simp only [List.cons.injEq, Prod.mk.injEq, Json.obj.injEq, and_true, true_and] at same
          rw [exact same]
        · simp [Json.sameMembers, Json.same, Predicate.same, sameChildren, alike]
      | group kind_ne =>
        exact toldApart_of_ne (by simp [Predicate.same, Ne.symm kind_ne])
          (by simp [Json.sameMembers, Json.same]) (by simp)
    | group kind_ne below =>
      cases compiled_of_compileNode otherDone with
      | leaf => exact toldApart_of_ne rfl (by simp [Json.sameMembers, Json.same]) (by simp)
      | negation =>
        exact toldApart_of_ne (by simp [Predicate.same, kind_ne])
          (by simp [Json.sameMembers, Json.same]) (by simp)
      | @group otherKind others otherItems otherKind_ne otherBelow =>
        obtain ⟨exact, alike⟩ := toldApart_children
          (fun child listed => ih child listed (unambiguous_group.1 clear child listed))
          (unambiguous_group.1 otherClear) below otherBelow
        have kinds : kind = otherKind ↔ kind.name = otherKind.name :=
          ⟨fun same => same ▸ rfl, GroupKind.eq_of_name⟩
        constructor
        · intro same
          simp only [List.cons.injEq, Prod.mk.injEq, Json.arr.injEq, and_true] at same
          rw [kinds.2 same.1, exact same.2]
        · simp [Json.sameMembers, Json.same, Predicate.same, kinds, alike]

/-- The predicate that matches everything has no filter, and any other is compiled as one in a
group is. -/
theorem cases_of_compile {filter : Option Filter} (done : first.compile = .ok filter) :
    first = .all ∧ filter = none ∨ ∃ own, compileNode first = .ok own ∧ filter = some own := by
  by_cases all : first = .all
  · subst all
    cases done
    exact .inl ⟨rfl, rfl⟩
  · rw [compile_of_ne all] at done
    obtain ⟨own, compiled, same⟩ := Except.map_eq_ok_iff.1 done
    exact .inr ⟨own, compiled, same.symm⟩

theorem compileNode_of_compile (done : first.compile = .ok (some left)) :
    compileNode first = .ok left := by
  rcases cases_of_compile done with ⟨_, absent⟩ | ⟨_, compiled, same⟩
  · cases absent
  · cases same
    exact compiled

theorem eq_none_iff_of_compile {filter : Option Filter} (done : first.compile = .ok filter) :
    filter = none ↔ first = .all := by
  rcases cases_of_compile done with ⟨rfl, rfl⟩ | ⟨_, compiled, rfl⟩
  · exact iff_of_true rfl rfl
  · refine iff_of_false nofun ?_
    rintro rfl
    cases compiled

private theorem same_all_of_compileNode (done : compileNode first = .ok left) :
    Predicate.same .all first = false ∧ first.same .all = false := by
  cases compiled_of_compileNode done <;> exact ⟨rfl, rfl⟩

/-- A filter determines the predicate that it was compiled from. Two predicates without a leaf on a
field of the name of negations have the same filter only if they are the same predicate, and filters
that are equal as JSON only if they are equal with literals compared as JSON; so no group, order,
repetition, depth, operator or literal is lost. -/
theorem filter_determines (firstWell : first.WellFormed) (secondWell : second.WellFormed)
    (firstClear : first.Unambiguous) (secondClear : second.Unambiguous) :
    ∃ left right, first.compile = .ok left ∧ second.compile = .ok right ∧
      (left = right → first = second) ∧
      (sameFilters left right = true ↔ first.same second = true) := by
  obtain ⟨left, done⟩ := compile_eq_ok_iff.2 firstWell
  obtain ⟨right, otherDone⟩ := compile_eq_ok_iff.2 secondWell
  refine ⟨left, right, done, otherDone, ?_⟩
  rcases cases_of_compile done with ⟨rfl, rfl⟩ | ⟨filter, compiled, rfl⟩
  · rcases cases_of_compile otherDone with ⟨rfl, rfl⟩ | ⟨otherFilter, otherCompiled, rfl⟩
    · exact ⟨fun _ => rfl, by simp [sameFilters, Predicate.same]⟩
    · exact ⟨nofun, by simp [sameFilters, same_all_of_compileNode otherCompiled]⟩
  · rcases cases_of_compile otherDone with ⟨rfl, rfl⟩ | ⟨otherFilter, otherCompiled, rfl⟩
    · exact ⟨nofun, by simp [sameFilters, same_all_of_compileNode compiled]⟩
    · obtain ⟨exact, alike⟩ := toldApart_of_compileNode first firstClear second filter otherFilter
        secondClear compiled otherCompiled
      exact ⟨fun same => exact (Option.some.inj same), alike⟩

/-- The negative zero. -/
def minusZero : Double := ⟨0x8000000000000000, by decide⟩

/-- A conjunction of a leaf on a field of its own name and a negation of two alike. -/
def conjunction (number : Double) : Predicate :=
  .group .and [.leaf "and" (.compare .eq (.num (.double number))),
    .group .not [.group .or [.leaf "or" (.between .null .null), .leaf "or" (.between .null .null)]]]

/-- The two zeros are one number and two literals. -/
theorem zeros_told_apart :
    ∃ left right, (conjunction ⟨0, by decide⟩).compile = .ok left ∧
      (conjunction minusZero).compile = .ok right ∧ left ≠ right ∧
      sameFilters left right = true := by
  have well (number : Double) : (conjunction number).WellFormed := compile_eq_ok_iff.1 ⟨_, rfl⟩
  have clear (number : Double) : (conjunction number).Unambiguous := by simp [conjunction]
  obtain ⟨left, right, done, otherDone, exact, alike⟩ :=
    filter_determines (well ⟨0, by decide⟩) (well minusZero) (clear _) (clear _)
  refine ⟨left, right, done, otherDone, fun same => ?_, alike.2 rfl⟩
  have zeros := exact same
  simp [conjunction, minusZero] at zeros

/-- A negation could be taken for a leaf on a field of its name. -/
example : compile (.leaf "not" (.compare .eq (.obj [("gt", .null)]))) =
    compile (.group .not [.leaf "eq" (.compare .gt .null)]) := rfl

end Predicate

end ModelSync
