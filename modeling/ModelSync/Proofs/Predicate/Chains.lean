import Mathlib.Data.List.Chain
import Mathlib.Data.List.Forall2
import ModelSync.Proofs.Predicate.Combination

/-! Chains of predicates, which are joined one after the other from the left. Joined by one
connective, they become a single group, to which only the first predicate can contribute more than
itself. Where the connective changes, the group so far becomes the first member of the next one. The
filter of a chain has the same shape, with the filters of the members in the same places. -/
namespace ModelSync

/-- What joins two predicates. -/
inductive Connective where
  | and
  | or
deriving DecidableEq

namespace Connective

/-- The kind of the groups that come of it. -/
def kind : Connective → GroupKind
  | .and => .and
  | .or => .or

/-- Join two predicates. -/
def join : Connective → Predicate → Predicate → Predicate
  | .and => Predicate.and
  | .or => Predicate.or

private theorem kind_ne (connective : Connective) : connective.kind ≠ .not := by
  cases connective <;> decide

private theorem kind_inj {first second : Connective} :
    first.kind = second.kind ↔ first = second := by
  cases first <;> cases second <;> decide

private theorem join_eq (connective : Connective) :
    connective.join = Predicate.combine connective.kind := by
  cases connective <;> rfl

end Connective

/-- A member of a chain, with what joins it to those before. -/
abbrev Link := Connective × Predicate

/-- Members of a chain in a row, all of them joined by one connective. -/
structure Run (α : Type) where
  connective : Connective
  members : List α

/-- The members with their connective. -/
def Run.links (run : Run Predicate) : List Link :=
  run.members.map fun member => (run.connective, member)

/-- The runs of a chain: they make up the chain, none is empty, and the connective changes from each
to the next. -/
structure RunsOf (links : List Link) (runs : List (Run Predicate)) : Prop where
  spelled : runs.flatMap Run.links = links
  filled : ∀ run ∈ runs, run.members ≠ []
  maximal : runs.IsChain fun run next => run.connective ≠ next.connective

/-- Each run becomes a group of what came before it and of its members. -/
def nested {α : Type} (group : GroupKind → List α → α) (held : α) (runs : List (Run α)) : α :=
  runs.foldl (fun held run => group run.connective.kind (held :: run.members)) held

namespace Predicate

/-- Join a predicate with others, one after the other. -/
def chain (start : Predicate) (links : List Link) : Predicate :=
  links.foldl (fun joined link => link.1.join joined link.2) start

/-- The filter of a predicate, as it stands in that of a group. -/
def CompilesTo (predicate : Predicate) (item : Json) : Prop :=
  ∃ filter, predicate.compile = .ok (some filter) ∧ item = .obj filter

/-- The filter of a group. -/
def groupFilter (kind : GroupKind) (items : List Json) : Json := .obj [(kind.name, .arr items)]

variable {start : Predicate} {children others : List Predicate} {kind : GroupKind}

/-! ## One connective -/

private theorem foldl_combine_group (kind : GroupKind) (children others : List Predicate) :
    others.foldl (combine kind) (.group kind children) = .group kind (children ++ others) := by
  induction others generalizing children with
  | nil => simp
  | cons other rest ih => simp [combine_eq, parts, ih]

/-- Predicates that are joined to one make a single group of theirs and of what that one
contributes. -/
theorem foldl_combine (joins : others ≠ []) :
    others.foldl (combine kind) start = .group kind (start.parts kind ++ others) := by
  cases others with
  | nil => exact absurd rfl joins
  | cons other rest => simp [combine_eq, foldl_combine_group]

private theorem chain_links (run : Run Predicate) (start : Predicate) :
    chain start run.links = run.members.foldl (combine run.connective.kind) start := by
  rw [chain, Run.links, List.foldl_map, ← Connective.join_eq]

theorem chain_append (start : Predicate) (before after : List Link) :
    chain start (before ++ after) = chain (chain start before) after :=
  List.foldl_append

/-! ## Runs -/

/-- Put a member in front of runs. -/
def extendRuns (link : Link) : List (Run Predicate) → List (Run Predicate)
  | [] => [⟨link.1, [link.2]⟩]
  | first :: rest =>
    if link.1 = first.connective then ⟨link.1, link.2 :: first.members⟩ :: rest
    else ⟨link.1, [link.2]⟩ :: first :: rest

theorem runsOf_nil : RunsOf [] [] := ⟨rfl, nofun, .nil⟩

/-- A member either lengthens the first run or is a run by itself. -/
theorem runsOf_extend {links : List Link} {runs : List (Run Predicate)}
    (runsOf : RunsOf links runs) (link : Link) :
    RunsOf (link :: links) (extendRuns link runs) := by
  obtain ⟨connective, member⟩ := link
  cases runs with
  | nil =>
    obtain rfl : [] = links := runsOf.spelled
    exact ⟨rfl, by simp [extendRuns], .singleton _⟩
  | cons first rest =>
    obtain ⟨own, later⟩ := List.forall_mem_cons.1 runsOf.filled
    by_cases same : connective = first.connective
    · subst same
      simp only [extendRuns, ↓reduceIte]
      refine ⟨?_, List.forall_mem_cons.2 ⟨nofun, later⟩, ?_⟩
      · rw [← runsOf.spelled]
        rfl
      · refine List.IsChain.imp_head ?_ runsOf.maximal
        exact fun differs => differs
    · simp only [extendRuns, same, ↓reduceIte]
      refine ⟨?_, List.forall_mem_cons.2 ⟨nofun, runsOf.filled⟩, ?_⟩
      · rw [← runsOf.spelled]
        rfl
      · exact List.isChain_cons_cons.2 ⟨same, runsOf.maximal⟩

/-- Every chain has runs. -/
theorem exists_runsOf (links : List Link) : ∃ runs, RunsOf links runs := by
  induction links with
  | nil => exact ⟨[], runsOf_nil⟩
  | cons link rest ih =>
    obtain ⟨runs, runsOf⟩ := ih
    exact ⟨_, runsOf_extend runsOf link⟩

/-- A group of another kind contributes itself. -/
theorem parts_group_of_ne {held : GroupKind} (differs : held ≠ kind) :
    (group held children).parts kind = [group held children] :=
  if_neg differs

/-- Runs that follow one another are joined to a single predicate as groups in groups. -/
theorem chain_runs {first : Run Predicate} {rest : List (Run Predicate)}
    (filled : ∀ run ∈ first :: rest, run.members ≠ [])
    (maximal : (first :: rest).IsChain fun run next => run.connective ≠ next.connective)
    (start : Predicate) :
    chain start ((first :: rest).flatMap Run.links) =
      nested .group
        (.group first.connective.kind (start.parts first.connective.kind ++ first.members))
        rest := by
  induction rest generalizing start first with
  | nil =>
    rw [List.flatMap_singleton, chain_links, foldl_combine (filled first List.mem_cons_self)]
    rfl
  | cons next rest ih =>
    obtain ⟨own, later⟩ := List.forall_mem_cons.1 filled
    obtain ⟨differs, restMaximal⟩ := List.isChain_cons_cons.1 maximal
    -- The group so far is of the other kind, so the next run does not take it apart.
    have apart : first.connective.kind ≠ next.connective.kind :=
      mt Connective.kind_inj.1 differs
    rw [List.flatMap_cons, chain_append, chain_links, foldl_combine own, ih later restMaximal,
      parts_group_of_ne apart]
    rfl

/-! ## Filters -/

private theorem compileNodes_of_compilesTo {items : List Json}
    (done : List.Forall₂ CompilesTo children items) : compileNodes children = .ok items := by
  induction done with
  | nil => rfl
  | cons first rest ih =>
    obtain ⟨filter, compiled, rfl⟩ := first
    rw [compileNodes, compileNode_of_compile compiled, ih]
    rfl

/-- A group that is no negation lists the filters of its children. -/
theorem compile_group (kind_ne : kind ≠ .not) {items : List Json}
    (done : List.Forall₂ CompilesTo children items) :
    (group kind children).compile = .ok (some [(kind.name, .arr items)]) := by
  rw [compile_of_ne (by simp), compileNode_group kind_ne, compileNodes_of_compilesTo done]
  rfl

/-- The filters of the members of a run, in their order. -/
def Run.CompilesTo (run : Run Predicate) (filters : Run Json) : Prop :=
  run.connective = filters.connective ∧
    List.Forall₂ Predicate.CompilesTo run.members filters.members

private theorem compilesTo_nested {held : Predicate} {item : Json} {runs : List (Run Predicate)}
    {filters : List (Run Json)} (first : held.CompilesTo item)
    (done : List.Forall₂ Run.CompilesTo runs filters) :
    (nested .group held runs).CompilesTo (nested groupFilter item filters) := by
  induction done generalizing held item with
  | nil => exact first
  | @cons run own _ _ one _ ih =>
    obtain ⟨same, members⟩ := one
    have joined : (group run.connective.kind (held :: run.members)).CompilesTo
        (groupFilter own.connective.kind (item :: own.members)) :=
      ⟨_, compile_group run.connective.kind_ne (.cons first members), by rw [same]; rfl⟩
    exact ih joined

/-- Chains become groups in groups. Joined by one connective, predicates make a single group of what
the first one contributes, its own children if it is such a group and else itself, and of the others
as they are. Every chain has runs of one connective, and each run becomes one group, which has the
group of the runs before as its first member. The filter lists the filters of the members in the
same order. -/
theorem chains_nest (start : Predicate) :
    (∀ others, others ≠ [] →
      others.foldl Predicate.and start = .group .and (start.parts .and ++ others) ∧
        others.foldl Predicate.or start = .group .or (start.parts .or ++ others) ∧
        (∀ items, List.Forall₂ CompilesTo (start.parts .and ++ others) items →
          (others.foldl Predicate.and start).compile = .ok (some [("and", .arr items)])) ∧
        ∀ items, List.Forall₂ CompilesTo (start.parts .or ++ others) items →
          (others.foldl Predicate.or start).compile = .ok (some [("or", .arr items)])) ∧
      ∀ links, (∃ runs, RunsOf links runs) ∧ ∀ first rest, RunsOf links (first :: rest) →
        let kind := first.connective.kind
        let members := start.parts kind ++ first.members
        start.chain links = nested .group (.group kind members) rest ∧
          ∀ items filters, List.Forall₂ CompilesTo members items →
            List.Forall₂ Run.CompilesTo rest filters →
              (start.chain links).CompilesTo
                (nested groupFilter (groupFilter kind items) filters) := by
  constructor
  · intro others joins
    have conjunction : others.foldl Predicate.and start = _ := foldl_combine joins
    have disjunction : others.foldl Predicate.or start = _ := foldl_combine joins
    rw [conjunction, disjunction]
    exact ⟨rfl, rfl, fun items => compile_group (by decide), fun items => compile_group (by decide)⟩
  · intro links
    refine ⟨exists_runsOf links, ?_⟩
    intro first rest runsOf kind members
    have shape : start.chain links = nested .group (.group kind members) rest := by
      rw [← runsOf.spelled]
      exact chain_runs runsOf.filled runsOf.maximal start
    refine ⟨shape, fun items filters done later => ?_⟩
    rw [shape]
    exact compilesTo_nested ⟨_, compile_group first.connective.kind_ne done, rfl⟩ later

/-- The field holds something. -/
def given (field : String) : Predicate := comparing field .ne .null

/-- The filter for it. -/
def givenFilter (field : String) : Json := .obj [(field, .obj [("ne", .null)])]

private theorem given_compilesTo (field : String) : (given field).CompilesTo (givenFilter field) :=
  ⟨_, rfl, rfl⟩

/-- A conjunction is only taken apart where it comes first. -/
theorem mixed_chain_nests :
    let whole : Predicate := .group .and [given "mood"]
    let links : List Link := [(.and, given "owner"), (.and, whole), (.or, whole)]
    (given "text").chain links =
        .group .or [.group .and [given "text", given "owner", whole], whole] ∧
      ((given "text").chain links).CompilesTo
        (groupFilter .or
          [groupFilter .and
            [givenFilter "text", givenFilter "owner", groupFilter .and [givenFilter "mood"]],
            groupFilter .and [givenFilter "mood"]]) ∧
      (whole.and (given "text")).compile =
        .ok (some [("and", .arr [givenFilter "mood", givenFilter "text"])]) := by
  intro whole links
  have wholeCompiles : whole.CompilesTo (groupFilter .and [givenFilter "mood"]) := ⟨_, rfl, rfl⟩
  have runsOf : RunsOf links [⟨.and, [given "owner", whole]⟩, ⟨.or, [whole]⟩] :=
    ⟨rfl, by simp, by simp⟩
  obtain ⟨_, mixed⟩ := chains_nest (given "text")
  obtain ⟨shape, compiles⟩ := (mixed links).2 _ _ runsOf
  have filter := compiles _ [⟨.or, [groupFilter .and [givenFilter "mood"]]⟩]
    (.cons (given_compilesTo _) (.cons (given_compilesTo _) (.cons wholeCompiles .nil)))
    (.cons ⟨rfl, .cons wholeCompiles .nil⟩ .nil)
  obtain ⟨single, _⟩ := chains_nest whole
  obtain ⟨_, _, conjunction, _⟩ := single [given "text"] (by simp)
  exact ⟨shape, filter,
    conjunction _ (.cons (given_compilesTo _) (.cons (given_compilesTo _) .nil))⟩

end Predicate

end ModelSync
