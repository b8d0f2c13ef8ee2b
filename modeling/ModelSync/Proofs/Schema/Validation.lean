import Mathlib.Logic.Relation
import ModelSync.Proofs.Schema.Expansion

/-! Which schemas are fit for documents. Custom types hold one another through the types of their
fields, which makes a graph of them. A schema is fit if the names that are reached in this graph
are names, the types that are reached are known, and none of them holds itself at any depth. How
often a type is reached does not matter. The search that decides this looks at one path at a time,
and no path that it takes is longer than there are types. -/
namespace ModelSync.Schema

/-- A custom type has a field whose type is another one, or the same. -/
def Holds (schema : Schema) (outer inner : String) : Prop :=
  ∃ custom, schema.customTypes.get? outer = some custom ∧
    ∃ field ∈ custom.fields, field.type = .custom inner

/-- The names of custom types that the fields of the model lead to, known or not. -/
inductive Reaches (schema : Schema) : String → Prop where
  | first {field : ModelField} {name : String} (listed : field ∈ schema.fields)
      (type : field.type = .custom name) : schema.Reaches name
  | further {outer inner : String} (reached : schema.Reaches outer)
      (held : schema.Holds outer inner) : schema.Reaches inner

/-- The fields of the model and of the custom types that are reached. -/
inductive Declares (schema : Schema) : ModelField → Prop where
  | own {field : ModelField} (listed : field ∈ schema.fields) : schema.Declares field
  | nested {field : ModelField} {name : String} {custom : CustomType}
      (reached : schema.Reaches name) (found : schema.customTypes.get? name = some custom)
      (listed : field ∈ custom.fields) : schema.Declares field

/-- A schema that documents can be built from. -/
structure Fit (schema : Schema) : Prop where
  own : isName schema.name = true
  plural : isName schema.plural = true
  owners : ∀ rule ∈ schema.ownerRules, isName rule.ownerField = true
  fields : ∀ field, schema.Declares field → isName field.name = true
  targets : ∀ field target, schema.Declares field → field.targetName? = some target →
    isName target = true
  known : ∀ name, schema.Reaches name → name ∈ schema.customTypes.keys
  acyclic : ∀ name, schema.Reaches name → ¬ Relation.TransGen schema.Holds name name

variable {schema : Schema} {path : List String} {field : ModelField} {fields : List ModelField}
  {trees : List FieldTree} {name : String}

/-! ## The search and its faults -/

/-- Where fields expand, each of them has names, and its type is fresh, known and expands. -/
theorem Expanded.of_mem (expanded : schema.Expanded path fields trees) (listed : field ∈ fields) :
    (∀ name ∈ field.names, isName name = true) ∧
      ∀ name, field.type = .custom name → name ∉ path ∧
        ∃ custom children, schema.customTypes.get? name = some custom ∧
          schema.Expanded (name :: path) custom.fields children := by
  induction expanded with
  | nil => cases listed
  | plain named type _ ih =>
    rcases List.mem_cons.1 listed with rfl | later
    · exact ⟨named, fun name kind => absurd kind (type name)⟩
    · exact ih later
  | nested named type fresh found inner _ _ ih =>
    rcases List.mem_cons.1 listed with rfl | later
    · refine ⟨named, fun name kind => ?_⟩
      cases type.symm.trans kind
      exact ⟨fresh, _, _, found, inner⟩
    · exact ih later

/-- Every field met stands among fields that expand, if those of the model do. -/
theorem Expanded.of_meets (expanded : schema.Expanded [] schema.fields trees)
    (met : schema.Meets path field) :
    ∃ fields trees, field ∈ fields ∧ schema.Expanded path fields trees := by
  induction met with
  | top listed => exact ⟨_, _, listed, expanded⟩
  | inside _ type found listed ih =>
    obtain ⟨_, _, among, around⟩ := ih
    obtain ⟨_, custom, children, same, inner⟩ := (around.of_mem among).2 _ type
    cases found.symm.trans same
    exact ⟨_, _, listed, inner⟩

/-- A schema is accepted exactly if it has no fault. -/
theorem validate_eq_ok_iff_noFault :
    schema.validate = .ok () ↔ ∀ fault, ¬ schema.HasFault fault := by
  constructor
  · intro valid fault faulty
    obtain ⟨trees, done⟩ := validate_eq_ok_iff.1 valid
    obtain ⟨names, expanded⟩ := expanded_of_expand done
    cases faulty with
    | ownName listed unfit => simp [names _ listed] at unfit
    | fieldName met listed unfit =>
      obtain ⟨_, _, among, around⟩ := expanded.of_meets met
      simp [(around.of_mem among).1 _ listed] at unfit
    | unknown met type missing =>
      obtain ⟨_, _, among, around⟩ := expanded.of_meets met
      obtain ⟨_, custom, _, found, _⟩ := (around.of_mem among).2 _ type
      simp [found] at missing
    | recursive met type entered =>
      obtain ⟨_, _, among, around⟩ := expanded.of_meets met
      exact ((around.of_mem among).2 _ type).1 entered
  · intro sound
    obtain ⟨⟨⟩, valid⟩ := Except.exists_ok_iff.2 fun failure refused => by
      obtain ⟨fault, _, faulty⟩ := fault_of_validate refused
      exact sound fault faulty
    exact valid

/-! ## Paths and the graph -/

private theorem exists_meets_of_reaches (reached : schema.Reaches name) :
    ∃ path field, schema.Meets path field ∧ field.type = .custom name := by
  induction reached with
  | first listed type => exact ⟨[], _, .top listed, type⟩
  | further _ held ih =>
    obtain ⟨path, outer, met, outerType⟩ := ih
    obtain ⟨custom, found, field, listed, type⟩ := held
    exact ⟨_, field, .inside met outerType found listed, type⟩

private theorem reaches_of_meets (met : schema.Meets path field)
    (type : field.type = .custom name) : schema.Reaches name := by
  induction met generalizing name with
  | top listed => exact .first listed type
  | inside _ outerType found listed ih =>
    exact .further (ih outerType) ⟨_, found, _, listed, type⟩

/-- The fields that are met, on whatever path, are those that are declared. -/
theorem exists_meets_iff_declares :
    (∃ path, schema.Meets path field) ↔ schema.Declares field := by
  constructor
  · rintro ⟨path, met⟩
    cases met with
    | top listed => exact .own listed
    | inside met type found listed => exact .nested (reaches_of_meets met type) found listed
  · rintro (listed | ⟨reached, found, listed⟩)
    · exact ⟨[], .top listed⟩
    · obtain ⟨path, outer, met, type⟩ := exists_meets_of_reaches reached
      exact ⟨_, .inside met type found listed⟩

/-- Every type on the path to a field holds, at some depth, what the field is of. -/
theorem holds_of_meets (met : schema.Meets path field) (type : field.type = .custom name) :
    ∀ outer ∈ path, Relation.TransGen schema.Holds outer name := by
  induction met generalizing name with
  | top => exact fun _ entered => nomatch entered
  | inside _ outerType found listed ih =>
    have held : schema.Holds _ name := ⟨_, found, _, listed, type⟩
    intro outer entered
    rcases List.mem_cons.1 entered with rfl | above
    · exact .single held
    · exact (ih outerType outer above).tail held

/-- What a type holds at some depth is met with the type on the path. -/
theorem meets_of_holds {inner : String} (met : schema.Meets path field)
    (type : field.type = .custom name) (held : Relation.TransGen schema.Holds name inner) :
    ∃ longer deeper, schema.Meets longer deeper ∧ deeper.type = .custom inner ∧ name ∈ longer := by
  induction held with
  | single held =>
    obtain ⟨custom, found, deeper, listed, kind⟩ := held
    exact ⟨_, deeper, .inside met type found listed, kind, List.mem_cons_self⟩
  | tail _ held ih =>
    obtain ⟨longer, between, reached, betweenType, entered⟩ := ih
    obtain ⟨custom, found, deeper, listed, kind⟩ := held
    exact ⟨_, deeper, .inside reached betweenType found listed, kind,
      List.mem_cons_of_mem _ entered⟩

/-- To be fit is to have no fault. A type that is met inside of itself holds itself, and a type that
holds itself and is reached is met inside of itself. -/
theorem fit_iff_noFault : schema.Fit ↔ ∀ fault, ¬ schema.HasFault fault := by
  constructor
  · intro fit fault faulty
    cases faulty with
    | ownName listed unfit =>
      have names : ∀ name ∈ schema.ownNames, isName name = true := by
        simpa [ownNames] using ⟨fit.own, fit.plural, fit.owners⟩
      simp [names _ listed] at unfit
    | @fieldName _ field name met listed unfit =>
      have declared := exists_meets_iff_declares.1 ⟨_, met⟩
      have named : isName name = true := by
        rcases List.mem_cons.1 listed with rfl | target
        · exact fit.fields field declared
        · exact fit.targets field name declared (Option.mem_toList.1 target)
      simp [named] at unfit
    | unknown met type missing =>
      obtain ⟨custom, found⟩ := Entries.mem_keys_iff.1 (fit.known _ (reaches_of_meets met type))
      cases missing.symm.trans found
    | recursive met type entered =>
      exact fit.acyclic _ (reaches_of_meets met type) (holds_of_meets met type _ entered)
  · intro sound
    have own : ∀ name ∈ schema.ownNames, isName name = true := by
      intro name listed
      simpa using fun unfit => sound _ (.ownName listed unfit)
    have names : ∀ field, schema.Declares field → ∀ name ∈ field.names, isName name = true := by
      intro field declared name listed
      obtain ⟨path, met⟩ := exists_meets_iff_declares.2 declared
      simpa using fun unfit => sound _ (.fieldName met listed unfit)
    simp only [ownNames, List.forall_mem_cons, List.forall_mem_map] at own
    refine ⟨own.1, own.2.1, own.2.2, fun field declared => names field declared _ List.mem_cons_self,
      ?_, ?_, ?_⟩
    · intro field target declared reference
      exact names field declared target (by simp [ModelField.names, reference])
    · intro name reached
      obtain ⟨path, field, met, type⟩ := exists_meets_of_reaches reached
      apply Entries.mem_keys_iff.2
      exact Option.ne_none_iff_exists'.1 fun missing => sound _ (.unknown met type missing)
    · intro name reached cycle
      obtain ⟨path, field, met, type⟩ := exists_meets_of_reaches reached
      obtain ⟨longer, deeper, again, kind, entered⟩ := meets_of_holds met type cycle
      exact sound _ (.recursive again kind entered)

/-! ## How deep the search goes -/

/-- The trees of fields below a path, when those of the types that are entered come from below. -/
def treesFrom (schema : Schema)
    (below : List String → List ModelField → ExceptT BuildError Option (List FieldTree))
    (path : List String) : List ModelField → ExceptT BuildError Option (List FieldTree)
  | [] => return []
  | field :: rest => do
    liftExcept (schema.checkNames field.names)
    let tree ←
      match field.type with
      | .custom name =>
        if name ∈ path then throw (.schema schema.name (.recursiveCustomType name))
        else
          match schema.customTypes.get? name with
          | none => throw (.schema schema.name (.unknownCustomType name))
          | some custom => .nested field <$> below (name :: path) custom.fields
      | _ => pure (.plain field)
    return tree :: (← schema.treesFrom below path rest)

/-- The trees of fields when types are entered within others up to a bound only. There is no answer,
not even a failure, where a type would have to be entered below the bound. -/
def treesWithin (schema : Schema) :
    Nat → List String → List ModelField → ExceptT BuildError Option (List FieldTree)
  | 0 => schema.treesFrom fun _ _ => .mk none
  | depth + 1 => schema.treesFrom (schema.treesWithin depth)

/-- Deciding whether a schema is fit, with the types nested up to a bound. -/
def validateWithin (schema : Schema) (depth : Nat) : ExceptT BuildError Option Unit := do
  liftExcept (schema.checkNames schema.ownNames)
  let _trees ← schema.treesWithin depth [] schema.fields
  return ()

/-- Where the types that can be entered are searched to their ends, the fields are. -/
theorem treesFrom_eq
    {below : List String → List ModelField → ExceptT BuildError Option (List FieldTree)}
    (lower : ∀ name custom, name ∉ path → schema.customTypes.get? name = some custom →
      below (name :: path) custom.fields =
        .mk (some (schema.expandFields (name :: path) custom.fields))) :
    schema.treesFrom below path fields = .mk (some (schema.expandFields path fields)) := by
  induction fields with
  | nil =>
    rw [expandFields]
    rfl
  | cons field rest ih =>
    rw [expandFields, expandField_eq, treesFrom, ih]
    cases schema.checkNames field.names with
    | error => rfl
    | ok =>
      cases schema.expandFields path rest <;> cases field.type with
      | custom name =>
        by_cases entered : name ∈ path
        · simp only [entered, ↓reduceIte]
          rfl
        · cases found : schema.customTypes.get? name with
          | none =>
            simp only [entered, ↓reduceIte, found]
            rfl
          | some custom =>
            simp only [entered, ↓reduceIte, found, lower name custom entered found]
            cases schema.expandFields (name :: path) custom.fields <;> rfl
      | _ => rfl

/-- The search ends, for whatever schema: below a path it nests no deeper than there are types that
the path has not entered. -/
theorem treesWithin_eq {depth : Nat} (deep : (schema.unentered path).length ≤ depth) :
    schema.treesWithin depth path fields = .mk (some (schema.expandFields path fields)) := by
  induction depth generalizing path fields with
  | zero =>
    apply treesFrom_eq
    intro name custom fresh found
    have := schema.unentered_cons_lt fresh found
    omega
  | succ depth ih =>
    apply treesFrom_eq
    intro name custom fresh found
    have := schema.unentered_cons_lt fresh found
    exact ih (by omega)

private theorem validateWithin_eq {depth : Nat} (deep : schema.customTypes.keys.length ≤ depth) :
    (schema.validateWithin depth).run = some schema.validate := by
  have enough : (schema.unentered []).length ≤ depth :=
    Nat.le_trans (List.length_filter_le _ _) deep
  rw [validateWithin, treesWithin_eq enough, validate, expand]
  cases schema.checkNames schema.ownNames with
  | error => rfl
  | ok => cases schema.expandFields [] schema.fields <;> rfl

/-! ## Types that are shared -/

/-- The schema with one more field of the model. -/
def withField (schema : Schema) (field : ModelField) : Schema :=
  { schema with fields := schema.fields ++ [field] }

/-- A field of a type that is reached in any case leads nowhere new. -/
theorem reaches_of_withField (shared : ∀ name, field.type = .custom name → schema.Reaches name)
    (reached : (schema.withField field).Reaches name) : schema.Reaches name := by
  induction reached with
  | first listed type =>
    rcases List.mem_append.1 listed with before | added
    · exact .first before type
    · obtain rfl := List.mem_singleton.1 added
      exact shared _ type
  | further _ held ih => exact .further ih held

private theorem Fit.withField (fit : schema.Fit) (named : ∀ name ∈ field.names, isName name = true)
    (shared : ∀ name, field.type = .custom name → schema.Reaches name) :
    (schema.withField field).Fit := by
  have declared : ∀ other, (schema.withField field).Declares other →
      schema.Declares other ∨ other = field := by
    rintro other (listed | ⟨reached, found, listed⟩)
    · exact (List.mem_append.1 listed).imp .own List.mem_singleton.1
    · exact .inl (.nested (reaches_of_withField shared reached) found listed)
  refine ⟨fit.own, fit.plural, fit.owners, ?_, ?_, ?_, ?_⟩
  · intro other added
    rcases declared other added with before | rfl
    · exact fit.fields other before
    · exact named _ List.mem_cons_self
  · intro other target added reference
    rcases declared other added with before | rfl
    · exact fit.targets other target before reference
    · exact named target (by simp [ModelField.names, reference])
  · exact fun name reached => fit.known name (reaches_of_withField shared reached)
  · exact fun name reached => fit.acyclic name (reaches_of_withField shared reached)

private theorem validate_eq_ok_iff_fit : schema.validate = .ok () ↔ schema.Fit := by
  rw [validate_eq_ok_iff_noFault, fit_iff_noFault]

/-- A schema is accepted exactly if it is fit for documents. The search that finds this out ends for
every schema, also where types hold themselves, and is the same if it is cut off below as many types
as there are. To meet a type again on another path is no fault. A refusal names the model, and a
fault that is there. -/
theorem validate_decides (schema : Schema) :
    (schema.validate = .ok () ↔ schema.Fit) ∧
      (∀ depth, schema.customTypes.keys.length ≤ depth →
        (schema.validateWithin depth).run = some schema.validate) ∧
      (∀ field, schema.Fit → (∀ name ∈ field.names, isName name = true) →
        (∀ name, field.type = .custom name → schema.Reaches name) →
        (schema.withField field).validate = .ok ()) ∧
      ∀ failure, schema.validate = .error failure →
        ∃ fault, failure = .schema schema.name fault ∧ schema.HasFault fault := by
  refine ⟨validate_eq_ok_iff_fit, fun _ => validateWithin_eq, ?_, fun _ => fault_of_validate⟩
  intro field fit named shared
  exact validate_eq_ok_iff_fit.2 (fit.withField named shared)

/-- The journal may tell the position of an entry besides that of its place. It may not have a field
of the type that no field leads to, which holds itself. -/
theorem journal_shares_positions :
    (journal.withField (.optional "position" (.custom "Position"))).validate = .ok () ∧
      ∃ fault, (journal.withField (.optional "lost" (.custom "Lost"))).validate =
        .error (.schema "Entry" fault) := by
  obtain ⟨accepted, _, shares, _⟩ := validate_decides journal
  obtain ⟨decided, _, _, named⟩ :=
    validate_decides (journal.withField (.optional "lost" (.custom "Lost")))
  have listed : .optional "place" (.custom "Place") ∈ journal.fields := by decide
  have place : journal.Reaches "Place" := .first listed rfl
  have position : journal.Reaches "Position" :=
    .further place ⟨_, rfl, .optional "position" (.custom "Position"), by decide, rfl⟩
  constructor
  · apply shares _ (accepted.1 validate_journal) (by decide)
    intro name same
    cases same
    exact position
  · cases result : (journal.withField (.optional "lost" (.custom "Lost"))).validate with
    | error failure =>
      obtain ⟨fault, rfl, _⟩ := named failure result
      exact ⟨fault, rfl⟩
    | ok =>
      have listed : .optional "lost" (.custom "Lost") ∈
          (journal.withField (.optional "lost" (.custom "Lost"))).fields := by decide
      refine absurd (.single ?_) ((decided.1 result).acyclic "Lost" (.first listed rfl))
      exact ⟨_, rfl, .optional "city\x7d" (.custom "Lost"), by decide, rfl⟩

end ModelSync.Schema
