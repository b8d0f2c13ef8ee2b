import ModelSync.Predicate.Filter
import ModelSync.Proofs.Except

/-! Which predicates have a filter. The predicate that matches everything stands nowhere inside of
another one, and a negation has exactly one child; nothing else keeps a predicate from being
compiled. The nodes are looked at one after the other, each before those below it and from left to
right, and the first that has a fault is the one that is reported. -/
namespace ModelSync.Predicate

/-- A predicate that stands somewhere in another one, or is that one. -/
inductive Within (part : Predicate) : Predicate → Prop where
  | here : Within part part
  | deeper {kind : GroupKind} {children : List Predicate} {child : Predicate}
      (listed : child ∈ children) (inside : Within part child) : Within part (.group kind children)

/-- A predicate that there is a filter for, or that needs none. -/
def WellFormed (predicate : Predicate) : Prop :=
  predicate = .all ∨
    ¬ Within .all predicate ∧
      ∀ children, Within (.group .not children) predicate → children.length = 1

/-- A fault of a predicate that has to stand in a group. -/
inductive HasFault (predicate : Predicate) : PredicateFault → Prop where
  | nestedAll (inside : Within .all predicate) : predicate.HasFault .nestedAll
  | negationArity {children : List Predicate} (inside : Within (.group .not children) predicate)
      (many : children.length ≠ 1) : predicate.HasFault (.negationArity children.length)

mutual

/-- The nodes of a predicate, each before those below it, from left to right. -/
def nodes : Predicate → List Predicate
  | .group kind children => .group kind children :: nodesOfAll children
  | predicate => [predicate]

/-- The nodes of several predicates. -/
def nodesOfAll : List Predicate → List Predicate
  | [] => []
  | child :: rest => nodes child ++ nodesOfAll rest

end

/-- What is wrong with a node, whatever stands below it. -/
def ownFault? : Predicate → Option PredicateFault
  | .all => some .nestedAll
  | .leaf _ _ => none
  | .group .not children =>
    if children.length = 1 then none else some (.negationArity children.length)
  | .group _ _ => none

/-- The fault of the first node that has one. -/
def firstFault? (predicate : Predicate) : Option PredicateFault :=
  predicate.nodes.findSome? ownFault?

/-- A computation fails for a fault, if there is one, and for nothing else. -/
def Reports {α : Type} (result : Except BuildError α) (fault? : Option PredicateFault) : Prop :=
  ∀ failure, result = .error failure ↔ ∃ fault, fault? = some fault ∧ failure = .predicate fault

variable {predicate part : Predicate} {children : List Predicate} {kind : GroupKind}
  {failure : BuildError} {fault : PredicateFault} {α β : Type}

theorem induction_on_children {motive : Predicate → Prop} (all : motive .all)
    (leaf : ∀ field operator, motive (.leaf field operator))
    (group : ∀ kind children, (∀ child ∈ children, motive child) → motive (.group kind children))
    (predicate : Predicate) : motive predicate :=
  match predicate with
  | .all => all
  | .leaf field operator => leaf field operator
  | .group kind children =>
    group kind children fun child _ => induction_on_children all leaf group child

theorem wellFormed_iff :
    predicate.WellFormed ↔ predicate = .all ∨ ∀ fault, ¬ predicate.HasFault fault := by
  refine or_congr_right ⟨?_, fun sound => ⟨fun inside => sound _ (.nestedAll inside), ?_⟩⟩
  · rintro ⟨noAll, single⟩ fault faulty
    cases faulty with
    | nestedAll inside => exact noAll inside
    | negationArity inside many => exact many (single _ inside)
  · intro children inside
    exact Decidable.byContradiction fun many => sound _ (.negationArity inside many)

/-! ## Nodes -/

theorem ownFault?_group (kind_ne : kind ≠ .not) : ownFault? (.group kind children) = none := by
  cases kind with
  | not => exact absurd rfl kind_ne
  | and | or => rfl

private theorem ownFault?_not_of_many (many : children.length ≠ 1) :
    ownFault? (.group .not children) = some (.negationArity children.length) :=
  if_neg many

theorem mem_nodesOfAll_iff :
    part ∈ nodesOfAll children ↔ ∃ child ∈ children, part ∈ nodes child := by
  induction children with
  | nil => simp [nodesOfAll]
  | cons child rest ih => simp [nodesOfAll, ih]

/-- The nodes are what stands in a predicate. -/
theorem mem_nodes_iff : part ∈ nodes predicate ↔ Within part predicate := by
  induction predicate using induction_on_children with
  | all | leaf =>
    simp only [nodes, List.mem_singleton]
    refine ⟨fun same => same ▸ .here, fun inside => ?_⟩
    cases inside
    rfl
  | group kind children ih =>
    rw [nodes, List.mem_cons, mem_nodesOfAll_iff]
    constructor
    · rintro (rfl | ⟨child, listed, inside⟩)
      · exact .here
      · exact .deeper listed ((ih child listed).1 inside)
    · intro inside
      cases inside with
      | here => exact .inl rfl
      | deeper listed inside => exact .inr ⟨_, listed, (ih _ listed).2 inside⟩

/-- A predicate has the faults of its nodes. -/
theorem hasFault_iff :
    predicate.HasFault fault ↔ ∃ node ∈ nodes predicate, ownFault? node = some fault := by
  constructor
  · intro faulty
    cases faulty with
    | nestedAll inside => exact ⟨.all, mem_nodes_iff.2 inside, rfl⟩
    | negationArity inside many =>
      exact ⟨_, mem_nodes_iff.2 inside, ownFault?_not_of_many many⟩
  · rintro ⟨node, listed, own⟩
    have inside := mem_nodes_iff.1 listed
    cases node with
    | all =>
      cases own
      exact .nestedAll inside
    | leaf => cases own
    | group kind children =>
      by_cases negation : kind = .not
      · subst negation
        by_cases many : children.length = 1
        · simp [ownFault?, many] at own
        · rw [ownFault?_not_of_many many] at own
          cases own
          exact .negationArity inside many
      · rw [ownFault?_group negation] at own
        cases own

private theorem hasFault_of_firstFault? (first : predicate.firstFault? = some fault) :
    predicate.HasFault fault :=
  hasFault_iff.2 (List.exists_of_findSome?_eq_some first)

private theorem firstFault?_eq_none_iff :
    predicate.firstFault? = none ↔ ∀ fault, ¬ predicate.HasFault fault := by
  constructor
  · intro clean fault faulty
    obtain ⟨node, listed, own⟩ := hasFault_iff.1 faulty
    rw [List.findSome?_eq_none_iff.1 clean node listed] at own
    cases own
  · intro sound
    apply Option.eq_none_iff_forall_ne_some.2
    exact fun fault first => sound fault (hasFault_of_firstFault? first)

/-! ## Compiling -/

/-- A negation compiles to its only child. -/
theorem compileNode_not (child : Predicate) :
    compileNode (.group .not [child]) = (do return [("not", .obj (← compileNode child))]) := rfl

theorem compileNode_not_of_many (many : children.length ≠ 1) :
    compileNode (.group .not children) = .error (.predicate (.negationArity children.length)) := by
  match children with
  | [] => rfl
  | [_] => exact absurd rfl many
  | _ :: _ :: _ => rfl

/-- A conjunction or a disjunction compiles to its children. -/
theorem compileNode_group (kind_ne : kind ≠ .not) :
    compileNode (.group kind children) =
      (do return [(kind.name, .arr (← compileNodes children))]) := by
  cases kind with
  | not => exact absurd rfl kind_ne
  | and | or => rfl

private theorem reports_ok (value : α) : Reports (.ok value) none := by
  simp [Reports]

private theorem reports_error (fault : PredicateFault) :
    Reports (.error (.predicate fault) : Except BuildError α) (some fault) := by
  simp [Reports, eq_comm]

/-- Of two computations the first one decides, if it fails. -/
theorem Reports.bind {first : Except BuildError α} {rest : α → Except BuildError β}
    {fault? later? : Option PredicateFault} (own : Reports first fault?)
    (later : ∀ value, Reports (rest value) later?) :
    Reports (first >>= rest) (fault?.or later?) := by
  cases first with
  | error failure =>
    obtain ⟨fault, rfl, rfl⟩ := (own failure).1 rfl
    exact reports_error fault
  | ok value =>
    have clean : fault? = none := by
      apply Option.eq_none_iff_forall_ne_some.2
      rintro fault rfl
      cases (own _).2 ⟨fault, rfl, rfl⟩
    rw [clean]
    exact later value

private theorem Reports.exists_ok_iff {result : Except BuildError α}
    {fault? : Option PredicateFault}
    (reports : Reports result fault?) : (∃ value, result = .ok value) ↔ fault? = none := by
  rw [Except.exists_ok_iff, Option.eq_none_iff_forall_ne_some]
  constructor
  · rintro sound fault rfl
    exact sound _ ((reports _).2 ⟨fault, rfl, rfl⟩)
  · intro clean failure failed
    obtain ⟨fault, same, _⟩ := (reports failure).1 failed
    exact clean fault same

/-- A predicate that has to stand in a group is compiled unless a node has a fault, and the first
such node is the one that is reported. -/
theorem compiling_reports :
    (∀ predicate, Reports (compileNode predicate) (firstFault? predicate)) ∧
      ∀ children, Reports (compileNodes children) ((nodesOfAll children).findSome? ownFault?) := by
  refine compileNode.mutual_induct _ _ ?all ?leaf ?negation ?manyNegated ?group ?nil ?cons
  case all => exact reports_error .nestedAll
  case leaf => exact fun field operator => reports_ok _
  case negation =>
    intro child ih
    have below : firstFault? (.group .not [child]) = (firstFault? child).or none := by
      simp [firstFault?, nodes, nodesOfAll, ownFault?]
    rw [compileNode_not, below]
    exact ih.bind fun _ => reports_ok _
  case manyNegated =>
    intro children notSingle
    have many : children.length ≠ 1 := fun one =>
      (List.length_eq_one_iff.1 one).elim fun child same => notSingle child same
    have own : firstFault? (.group .not children) = some (.negationArity children.length) := by
      simp [firstFault?, nodes, ownFault?_not_of_many many]
    rw [compileNode_not_of_many many, own]
    exact reports_error _
  case group =>
    intro kind children _ kind_ne ih
    have below : firstFault? (.group kind children) =
        ((nodesOfAll children).findSome? ownFault?).or none := by
      simp [firstFault?, nodes, ownFault?_group kind_ne]
    rw [compileNode_group kind_ne, below]
    exact ih.bind fun _ => reports_ok _
  case nil => exact reports_ok []
  case cons =>
    intro child rest first later
    have split : (nodesOfAll (child :: rest)).findSome? ownFault? =
        (firstFault? child).or (((nodesOfAll rest).findSome? ownFault?).or none) := by
      simp [firstFault?, nodesOfAll, List.findSome?_append]
    rw [split]
    exact first.bind fun _ => later.bind fun _ => reports_ok _

/-- A predicate that stands in a group is compiled exactly if it has no fault. -/
theorem compileNode_eq_ok_iff :
    (∃ filter, predicate.compileNode = .ok filter) ↔ ∀ fault, ¬ predicate.HasFault fault :=
  (compiling_reports.1 predicate).exists_ok_iff.trans firstFault?_eq_none_iff

theorem compile_of_ne (nested : predicate ≠ .all) :
    predicate.compile = some <$> predicate.compileNode := by
  cases predicate with
  | all => exact absurd rfl nested
  | leaf | group => rfl

/-- Compiling succeeds exactly for well-formed predicates. -/
theorem compile_eq_ok_iff : (∃ filter, predicate.compile = .ok filter) ↔ predicate.WellFormed := by
  rw [wellFormed_iff]
  by_cases all : predicate = .all
  · subst all
    exact iff_of_true ⟨none, rfl⟩ (.inl rfl)
  · rw [compile_of_ne all, or_iff_right all, ← compileNode_eq_ok_iff]
    simp only [Except.map_eq_ok_iff]
    exact ⟨fun ⟨_, filter, done, _⟩ => ⟨filter, done⟩, fun ⟨filter, done⟩ => ⟨_, filter, done, rfl⟩⟩

/-- Compiling fails for a fault that the predicate has. -/
theorem fault_of_compile (failed : predicate.compile = .error failure) :
    ∃ fault, failure = .predicate fault ∧ predicate ≠ .all ∧ predicate.HasFault fault := by
  have nested : predicate ≠ .all := by
    rintro rfl
    cases failed
  rw [compile_of_ne nested, Except.map_eq_error_iff] at failed
  obtain ⟨fault, first, same⟩ := (compiling_reports.1 predicate failure).1 failed
  exact ⟨fault, same, nested, hasFault_of_firstFault? first⟩

end ModelSync.Predicate
