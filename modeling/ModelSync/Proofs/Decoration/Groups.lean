import ModelSync.Proofs.Decoration.Cases

/-! How a caller's groups are told. A claim lists groups as the strings of a list or as the words of
a text, and what becomes of a request depends on the groups alone: it does not matter in which of the
two ways they are told. A caller in more groups is let through wherever one in fewer is. -/
namespace ModelSync

variable {claims more lists texts : Claims} {type : AuthType} {rule : AuthRule}
  {rules : List AuthRule} {request decorated : Request} {failure : DecorationError}

/-- The groups that a rule finds the caller in, if its claim can be looked up. Where there is no
claim there are no groups. -/
def groupsTold (claims : Claims) (type : AuthType) (rule : AuthRule) :
    Except DecorationError (List String) :=
  (fun claim => claim.elim [] claimedGroups) <$> claims type rule.groupClaim

/-- One answer for a claim lists groups as strings, and the other as words of a text; or they are the
same answer. -/
inductive Retold : Except DecorationError (Option Json) → Except DecorationError (Option Json) →
    Prop where
  | same (answer : Except DecorationError (Option Json)) : Retold answer answer
  | groups {names : List String} {text : String}
      (solid : ∀ name ∈ names, Text.IsSolid name.toList) (spells : Text.Spells text names) :
      Retold (.ok (some (.arr (names.map Json.str)))) (.ok (some (.str text)))

/-- One answer for a claim is a list, and the other a list with further items; or they are the same
answer. -/
inductive Widened : Except DecorationError (Option Json) → Except DecorationError (Option Json) →
    Prop where
  | same (answer : Except DecorationError (Option Json)) : Widened answer answer
  | items {items further : List Json} (kept : ∀ item ∈ items, item ∈ further) :
      Widened (.ok (some (.arr items))) (.ok (some (.arr further)))

/-! ## Groups of a caller -/

private theorem claimedGroups_strings (names : List String) :
    claimedGroups (.arr (names.map Json.str)) = names := by
  simp [claimedGroups, List.filterMap_map, Function.comp_def, Json.asString?]

private theorem groupsTold_of_retold
    (retold : Retold (lists type rule.groupClaim) (texts type rule.groupClaim)) :
    groupsTold lists type rule = groupsTold texts type rule := by
  unfold groupsTold
  generalize lists type rule.groupClaim = listed, texts type rule.groupClaim = worded at retold ⊢
  cases retold with
  | same => rfl
  | @groups names text solid spells =>
    have words : claimedGroups (.str text) = names := Text.words_of_spells spells solid
    exact congrArg Except.ok ((claimedGroups_strings names).trans words.symm)

/-- The groups of a caller are what a search among rules looks at. -/
theorem inGroupOf_cons :
    inGroupOf claims type (rule :: rules) = (do
      let groups ← groupsTold claims type rule
      if groups.any rule.groups.contains then return true else inGroupOf claims type rules) := by
  unfold groupsTold
  cases asked : claims type rule.groupClaim with
  | error failure => exact inGroupOf_cons_of_error asked
  | ok answer =>
    rw [inGroupOf_cons_of_ok asked]
    cases answer <;> rfl

private theorem inGroupOf_congr
    (same : ∀ rule ∈ rules, groupsTold lists type rule = groupsTold texts type rule) :
    inGroupOf lists type rules = inGroupOf texts type rules := by
  induction rules with
  | nil => rfl
  | cons rule rest ih =>
    obtain ⟨own, others⟩ := List.forall_mem_cons.1 same
    rw [inGroupOf_cons, inGroupOf_cons, own, ih others]

private theorem bindOwners_congr
    (same : ∀ rule ∈ rules, lists type rule.identityClaim = texts type rule.identityClaim) :
    bindOwners lists type request rules = bindOwners texts type request rules := by
  induction rules generalizing request with
  | nil => rfl
  | cons rule rest ih =>
    obtain ⟨own, others⟩ := List.forall_mem_cons.1 same
    have named : ownerOf lists type rule = ownerOf texts type rule := by
      rw [ownerOf, ownerOf, own]
    rw [bindOwners, bindOwners, named]
    congr 1
    funext owner
    exact ih others

/-- Further items of a list do not take a group away. -/
theorem exists_groupsTold_of_widened
    (widened : Widened (claims type rule.groupClaim) (more type rule.groupClaim))
    {groups : List String} (told : groupsTold claims type rule = .ok groups) :
    ∃ further, groupsTold more type rule = .ok further ∧ ∀ group ∈ groups, group ∈ further := by
  unfold groupsTold at told ⊢
  generalize claims type rule.groupClaim = narrow, more type rule.groupClaim = wide
    at widened told ⊢
  cases widened with
  | same => exact ⟨groups, told, fun _ => id⟩
  | items kept =>
    cases told
    refine ⟨_, rfl, fun group listed => ?_⟩
    obtain ⟨item, among, text⟩ := List.mem_filterMap.1 listed
    exact List.mem_filterMap.2 ⟨item, kept item among, text⟩

/-- A caller who was let through is let through with further items in the lists of groups. -/
theorem inGroupOf_of_widened
    (widened : ∀ rule ∈ rules, Widened (claims type rule.groupClaim) (more type rule.groupClaim))
    (inside : inGroupOf claims type rules = .ok true) : inGroupOf more type rules = .ok true := by
  induction rules with
  | nil => cases inside
  | cons rule rest ih =>
    obtain ⟨own, others⟩ := List.forall_mem_cons.1 widened
    rw [inGroupOf_cons] at inside
    obtain ⟨groups, told, inside⟩ := Except.exists_of_bind_ok inside
    obtain ⟨further, toldMore, kept⟩ := exists_groupsTold_of_widened own told
    rw [inGroupOf_cons, toldMore]
    show (if _ then _ else _) = _
    -- The rule may let the caller in that did not before: then the search ends here.
    split
    case isTrue => rfl
    case isFalse outside =>
      have before : groups.any rule.groups.contains = false := by
        rw [List.any_eq_false]
        intro group listed among
        exact outside (List.any_eq_true.2 ⟨group, kept group listed, among⟩)
      rw [before] at inside
      exact ih others inside

private theorem Admits.of_widened (admits : Admits claims type rule)
    (widened : Widened (claims type rule.groupClaim) (more type rule.groupClaim)) :
    Admits more type rule := by
  obtain ⟨claim, group, asked, lists, among⟩ := admits
  unfold Admits
  rw [asked] at widened
  generalize more type rule.groupClaim = wide at widened ⊢
  cases widened with
  | same => exact ⟨claim, group, rfl, lists, among⟩
  | @items items further kept =>
    cases lists with
    | item listed => exact ⟨_, group, rfl, .item (kept _ listed), among⟩

private theorem inGroup_iff_admits :
    InGroup claims type rules ↔ ∃ rule ∈ rules, Admits claims type rule := by
  simp only [InGroup, Admits, mem_claimedGroups_iff]
  grind

/-! ## Requests -/

namespace Schema

variable {schema : Schema}

/-- The caller's groups are told as lists in one source of claims, and as texts in the other. All
other claims are the same. -/
structure Retells (schema : Schema) (type : AuthType) (lists texts : Claims) : Prop where
  groups : ∀ rule ∈ schema.groupRules,
    Retold (lists type rule.groupClaim) (texts type rule.groupClaim)
  others : ∀ name, (∀ rule ∈ schema.groupRules, rule.groupClaim ≠ name) →
    lists type name = texts type name

/-- No claim is read for an owner and for groups. -/
def KeepsApart (schema : Schema) : Prop :=
  ∀ owner ∈ schema.ownerRules, ∀ rule ∈ schema.groupRules, rule.groupClaim ≠ owner.identityClaim

/-- A decoration looks at the caller's groups and at the identity claims of owner rules. -/
theorem decorate_congr
    (groups : ∀ rule ∈ schema.groupRules, groupsTold lists type rule = groupsTold texts type rule)
    (owners : ∀ rule ∈ schema.ownerRules,
      lists type rule.identityClaim = texts type rule.identityClaim) :
    schema.decorate lists request type = schema.decorate texts request type := by
  rw [decorate, decorate, inGroupOf_congr groups, bindOwners_congr owners]

/-- A caller in a group whose request does not fail is found there, if owners are to be named. -/
theorem inGroupOf_of_decorate (needs : schema.NeedsOwner request type)
    (done : schema.decorate claims request type = .ok decorated)
    (member : ∃ rule ∈ schema.groupRules, Admits claims type rule) :
    inGroupOf claims type schema.groupRules = .ok true := by
  rw [decorate_of_needsOwner needs] at done
  obtain ⟨found, asked, -⟩ := Except.exists_of_bind_ok done
  cases found with
  | true => exact asked
  | false => exact absurd (inGroup_iff_admits.2 member) (not_inGroup_of_inGroupOf asked)

private theorem decorate_of_inGroupOf
    (inside : inGroupOf claims type schema.groupRules = .ok true) :
    schema.decorate claims request type = .ok request := by
  rw [decorate, inside]
  split <;> rfl

/-- A request becomes the same, or fails alike, whether the groups of the caller are told in lists or
in texts; and a request that is left alone since the caller is in a group is left alone as well if
lists of groups have further items. -/
theorem groups_told_alike (schema : Schema) (request : Request) (type : AuthType) :
    (schema.KeepsApart → ∀ lists texts : Claims, schema.Retells type lists texts →
      schema.decorate lists request type = schema.decorate texts request type) ∧
    ∀ claims more : Claims, (∀ name, Widened (claims type name) (more type name)) →
      ∀ decorated, schema.decorate claims request type = .ok decorated →
        (∃ rule ∈ schema.groupRules, Admits claims type rule) →
        decorated = request ∧ schema.decorate more request type = .ok request ∧
          ∃ rule ∈ schema.groupRules, Admits more type rule := by
  constructor
  · intro apart lists texts retells
    apply decorate_congr
    · exact fun rule listed => groupsTold_of_retold (retells.groups rule listed)
    · exact fun rule listed => retells.others _ fun group among => apart rule listed group among
  · intro claims more widened decorated done member
    obtain ⟨rule, listed, admits⟩ := member
    have admitsMore : ∃ rule ∈ schema.groupRules, Admits more type rule :=
      ⟨rule, listed, admits.of_widened (widened rule.groupClaim)⟩
    by_cases needs : schema.NeedsOwner request type
    · have inside := inGroupOf_of_decorate needs done ⟨rule, listed, admits⟩
      have insideMore : inGroupOf more type schema.groupRules = .ok true :=
        inGroupOf_of_widened (fun rule _ => widened rule.groupClaim) inside
      rw [decorate_of_inGroupOf inside] at done
      exact ⟨(Except.ok.inj done).symm, decorate_of_inGroupOf insideMore, admitsMore⟩
    · have exempt (claims : Claims) : schema.decorate claims request type = .ok request :=
        decorate_eq_of_decorates (.exempt needs)
      rw [exempt] at done
      exact ⟨(Except.ok.inj done).symm, exempt more, admitsMore⟩

/-- The claims of a caller whose groups are told by a list. -/
def claimsListing (items : List Json) : Claims := fun _ name =>
  .ok (some (if name = "cognito:groups" then .arr items else .str (name ++ " of alice")))

private theorem retells_sharedNotes :
    sharedNotes.Retells .openidConnect (claimsListing (["Users", "Guests"].map Json.str))
      (claimsOfMember " Users\t\tGuests ") where
  groups rule listed := by
    obtain rfl : rule = { strategy := .group, groups := ["Admins"] } := List.mem_singleton.1 listed
    have row : Text.Joined (["Users", "Guests"].map String.toList)
        ("Users".toList ++ ['\t', '\t'] ++ "Guests".toList) :=
      .cons _ (List.cons_ne_nil _ _) (List.all_eq_true.1 rfl) (.single _)
    have solid : ∀ name ∈ ["Users", "Guests"], Text.IsSolid name.toList := by
      simp [Text.IsSolid, Text.isBlank, Text.blankRanges]
    exact .groups solid
      ⟨[' '], _, [' '], rfl, List.all_eq_true.1 rfl, List.all_eq_true.1 rfl, row⟩
  others name apart := by
    have other : "cognito:groups" ≠ name := apart _ List.mem_cons_self
    simp [claimsListing, claimsOfMember, Ne.symm other]

private theorem widened_claimsListing {items further : List Json}
    (kept : ∀ item ∈ items, item ∈ further) (type : AuthType) (name : String) :
    Widened (claimsListing items type name) (claimsListing further type name) := by
  unfold claimsListing
  split
  · exact .items kept
  · exact .same _

/-- The request for new notes. -/
def newNotes : Request := .make .subscription "OnCreateNote" "onCreateNote" "Note" []

/-- The notes of a member of two groups are asked for alike, and an administrator is let through by
a list with more in it than the one group. -/
theorem sharedNotes_told_alike :
    sharedNotes.decorate (claimsListing (["Users", "Guests"].map Json.str)) newNotes
        .openidConnect =
      sharedNotes.decorate (claimsOfMember " Users\t\tGuests ") newNotes .openidConnect ∧
    sharedNotes.decorate (claimsListing [.null, .str "Guests", .str "Admins"]) newNotes
      .openidConnect = .ok newNotes := by
  constructor
  · have apart : sharedNotes.KeepsApart := by unfold KeepsApart; decide
    exact (groups_told_alike sharedNotes newNotes .openidConnect).1 apart _ _ retells_sharedNotes
  · have admin : ∃ rule ∈ sharedNotes.groupRules,
        Admits (claimsListing [.str "Admins"]) .openidConnect rule :=
      ⟨_, List.mem_cons_self, _, "Admins", rfl, .item List.mem_cons_self, List.mem_cons_self⟩
    have kept : ∀ item ∈ [Json.str "Admins"], item ∈ [.null, .str "Guests", .str "Admins"] := by
      simp
    exact ((groups_told_alike sharedNotes newNotes .openidConnect).2 _ _
      (widened_claimsListing kept _) newNotes rfl admin).2.1

end Schema

end ModelSync
