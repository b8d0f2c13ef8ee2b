import ModelSync.Proofs.Decoration
import ModelSync.Proofs.KeyMap
import ModelSync.Proofs.Text.Words

/-! What becomes of a request that is decorated, case by case. Rules are looked at in declaration
order: the group rules up to the first that decides, and then the owner rules up to the first that
names nobody. The cases leave nothing open, and they leave a decorated request alone. -/
namespace ModelSync

/-- A list holds a property throughout, or there is a first item without it. -/
theorem all_or_first {α : Type} (holds : α → Prop) (items : List α) :
    (∀ item ∈ items, holds item) ∨ ∃ before item after, items = before ++ item :: after ∧
      (∀ earlier ∈ before, holds earlier) ∧ ¬ holds item := by
  induction items with
  | nil => exact .inl nofun
  | cons item rest ih =>
    by_cases own : holds item
    · rcases ih with all | ⟨before, other, after, rfl, earlier, fails⟩
      · exact .inl (List.forall_mem_cons.2 ⟨own, all⟩)
      · exact .inr ⟨item :: before, other, after, rfl, List.forall_mem_cons.2 ⟨own, earlier⟩, fails⟩
    · exact .inr ⟨[], item, rest, rfl, nofun, own⟩

/-- A claim lists a group: as an item of a list, or as a word of a text. -/
inductive Lists : Json → String → Prop where
  | item {items : List Json} {group : String} (listed : .str group ∈ items) :
      Lists (.arr items) group
  | word {text group : String} (found : Text.IsWord text.toList group.toList) :
      Lists (.str text) group

variable {claims : Claims} {type : AuthType} {rule : AuthRule}
  {rules before after : List AuthRule} {request decorated : Request} {failure : DecorationError}

theorem mem_claimedGroups_iff {claim : Json} {group : String} :
    group ∈ claimedGroups claim ↔ Lists claim group := by
  cases claim with
  | arr items =>
    have texts : (∃ item ∈ items, item.asString? = some group) ↔ .str group ∈ items := by
      refine ⟨?_, fun listed => ⟨_, listed, rfl⟩⟩
      rintro ⟨item, listed, text⟩
      cases item with
      | str held => exact Option.some.inj text ▸ listed
      | _ => cases text
    rw [claimedGroups, List.mem_filterMap, texts]
    exact ⟨.item, fun | .item listed => listed⟩
  | str text =>
    rw [claimedGroups, Text.mem_words_iff]
    exact ⟨.word, fun | .word found => found⟩
  | null | bool | num | obj => exact ⟨nofun, nofun⟩

/-! ## Single rules -/

/-- The claims place the caller in a group of the rule. -/
def Admits (claims : Claims) (type : AuthType) (rule : AuthRule) : Prop :=
  ∃ claim group, claims type rule.groupClaim = .ok (some claim) ∧ Lists claim group ∧
    group ∈ rule.groups

/-- The group claim of the rule was looked up, and it lists no group of the rule. -/
def Excludes (claims : Claims) (type : AuthType) (rule : AuthRule) : Prop :=
  ∃ answer, claims type rule.groupClaim = .ok answer ∧
    ∀ claim group, answer = some claim → Lists claim group → group ∉ rule.groups

/-- Why a rule names no owner: its identity claim cannot be looked up, or there is none that is a
text with anything in it. -/
inductive Unnamed (claims : Claims) (type : AuthType) (rule : AuthRule) :
    DecorationError → Prop where
  | unavailable {failure : DecorationError}
      (failed : claims type rule.identityClaim = .error failure) :
      Unnamed claims type rule failure
  | missing {answer : Option Json} (asked : claims type rule.identityClaim = .ok answer)
      (blank : ∀ owner, answer = some (.str owner) → owner = "") :
      Unnamed claims type rule (.missingClaim type rule.identityClaim)

/-- A rule that does not exclude the caller admits it, or its claim cannot be looked up. -/
theorem admits_or_fails (inside : ¬ Excludes claims type rule) :
    Admits claims type rule ∨ ∃ failure, claims type rule.groupClaim = .error failure := by
  cases asked : claims type rule.groupClaim with
  | error failure => exact .inr ⟨failure, rfl⟩
  | ok answer =>
    refine .inl (Classical.byContradiction fun outside => inside ⟨answer, asked, ?_⟩)
    rintro claim group rfl listed among
    exact outside ⟨claim, group, asked, listed, among⟩

/-- A rule that names no owner does so for one of the reasons. -/
theorem exists_unnamed (nobody : ¬ ∃ owner, NamesOwner claims type rule owner) :
    ∃ failure, Unnamed claims type rule failure := by
  cases asked : claims type rule.identityClaim with
  | error failure => exact ⟨failure, .unavailable asked⟩
  | ok answer =>
    refine ⟨_, .missing asked ?_⟩
    rintro owner rfl
    exact Classical.byContradiction fun filled => nobody ⟨owner, asked, filled⟩

private theorem inGroupOf_cons_of_excludes (outside : Excludes claims type rule) :
    inGroupOf claims type (rule :: rules) = inGroupOf claims type rules := by
  obtain ⟨answer, asked, unlisted⟩ := outside
  rw [inGroupOf_cons_of_ok asked, if_neg]
  intro shared
  obtain ⟨group, claimed, among⟩ := List.any_eq_true.1 shared
  cases answer with
  | none => cases claimed
  | some claim =>
    exact unlisted claim group rfl (mem_claimedGroups_iff.1 claimed) (List.contains_iff_mem.1 among)

private theorem inGroupOf_cons_of_admits (inside : Admits claims type rule) :
    inGroupOf claims type (rule :: rules) = .ok true := by
  obtain ⟨claim, group, asked, listed, among⟩ := inside
  rw [inGroupOf_cons_of_ok asked, if_pos]
  exact List.any_eq_true.2 ⟨group, mem_claimedGroups_iff.2 listed, List.contains_iff_mem.2 among⟩

theorem inGroupOf_cons_of_error (failed : claims type rule.groupClaim = .error failure) :
    inGroupOf claims type (rule :: rules) = .error failure := by
  simp only [inGroupOf, failed]
  rfl

/-- Rules that exclude the caller are passed over. -/
theorem inGroupOf_append (outside : ∀ rule ∈ before, Excludes claims type rule) :
    inGroupOf claims type (before ++ rules) = inGroupOf claims type rules := by
  induction before with
  | nil => rfl
  | cons rule rest ih =>
    obtain ⟨own, others⟩ := List.forall_mem_cons.1 outside
    rw [List.cons_append, inGroupOf_cons_of_excludes own, ih others]

private theorem inGroupOf_of_excludes (outside : ∀ rule ∈ rules, Excludes claims type rule) :
    inGroupOf claims type rules = .ok false := by
  have passed : inGroupOf claims type (rules ++ []) = inGroupOf claims type [] :=
    inGroupOf_append outside
  rwa [List.append_nil] at passed

private theorem ownerOf_of_namesOwner {owner : String} (named : NamesOwner claims type rule owner) :
    ownerOf claims type rule = .ok owner := by
  obtain ⟨asked, filled⟩ := named
  simp only [ownerOf, asked]
  show (if owner.isEmpty = true then _ else _) = _
  rw [if_neg (by simpa using filled)]
  rfl

private theorem ownerOf_of_unnamed (unnamed : Unnamed claims type rule failure) :
    ownerOf claims type rule = .error failure := by
  cases unnamed with
  | unavailable failed => simp only [ownerOf, failed]; rfl
  | @missing answer asked blank =>
    simp only [ownerOf, asked]
    cases answer with
    | none => rfl
    | some claim =>
      cases claim with
      | str owner =>
        obtain rfl := blank owner rfl
        rfl
      | null | bool | num | arr | obj => rfl

/-! ## Owners of all rules -/

/-- The owners of rules are named in a request: the field of each rule that no later rule has is
bound to the owner that this rule names. Nothing else is bound anew. -/
structure NamesAll (claims : Claims) (type : AuthType) (rules : List AuthRule)
    (request decorated : Request) : Prop where
  last : ∀ before rule after, rules = before ++ rule :: after →
    (∀ later ∈ after, later.ownerField ≠ rule.ownerField) →
      ∃ owner, NamesOwner claims type rule owner ∧
        decorated.bindings.get? rule.ownerField = some ⟨"String!", .str owner⟩
  others : ∀ name, (∀ rule ∈ rules, rule.ownerField ≠ name) →
    decorated.bindings.get? name = request.bindings.get? name
  kept : decorated = { request with bindings := decorated.bindings }

theorem bindOwners_cons {owner : String} (named : NamesOwner claims type rule owner) :
    bindOwners claims type request (rule :: rules) =
      bindOwners claims type (request.bind rule.ownerField "String!" (.str owner)) rules := by
  simp only [bindOwners, ownerOf_of_namesOwner named]
  rfl

/-- Rules that name an owner are bound, and the others are gone on with. -/
theorem exists_bindOwners_append
    (named : ∀ rule ∈ before, ∃ owner, NamesOwner claims type rule owner) (request : Request) :
    ∃ bound, ∀ rules, bindOwners claims type request (before ++ rules) =
      bindOwners claims type bound rules := by
  induction before generalizing request with
  | nil => exact ⟨request, fun _ => rfl⟩
  | cons rule rest ih =>
    obtain ⟨⟨owner, own⟩, others⟩ := List.forall_mem_cons.1 named
    obtain ⟨bound, later⟩ := ih others (request.bind rule.ownerField "String!" (.str owner))
    exact ⟨bound, fun rules => (bindOwners_cons own).trans (later rules)⟩

private theorem exists_bindOwners
    (named : ∀ rule ∈ rules, ∃ owner, NamesOwner claims type rule owner)
    (request : Request) : ∃ bound, bindOwners claims type request rules = .ok bound := by
  obtain ⟨bound, done⟩ := exists_bindOwners_append named request
  exact ⟨bound, by simpa [bindOwners] using done []⟩

private theorem bindOwners_of_unnamed
    (named : ∀ rule ∈ before, ∃ owner, NamesOwner claims type rule owner)
    (unnamed : Unnamed claims type rule failure) (request : Request) :
    bindOwners claims type request (before ++ rule :: after) = .error failure := by
  obtain ⟨bound, done⟩ := exists_bindOwners_append named request
  rw [done]
  simp only [bindOwners, ownerOf_of_unnamed unnamed]
  rfl

private theorem namesAll_of_bindOwners
    (done : bindOwners claims type request rules = .ok decorated) :
    NamesAll claims type rules request decorated := by
  induction rules generalizing request with
  | nil =>
    cases done
    exact ⟨by simp, fun _ _ => rfl, rfl⟩
  | cons rule rest ih =>
    obtain ⟨owner, found, done⟩ := Except.exists_of_bind_ok done
    have later := ih done
    refine ⟨?_, ?_, later.kept⟩
    · intro before own after split last
      cases before with
      | nil =>
        obtain ⟨rfl, rfl⟩ := List.cons.inj split
        refine ⟨owner, namesOwner_of_ownerOf found, ?_⟩
        rw [later.others _ last, Request.bindings_bind_self]
      | cons first others =>
        obtain ⟨rfl, rfl⟩ := List.cons.inj split
        exact later.last others own after rfl last
    · intro name differs
      obtain ⟨own, others⟩ := List.forall_mem_cons.1 differs
      rw [later.others name others, Request.bindings_bind_of_ne _ _ _ (Ne.symm own)]

/-- A field of a rule is that of a last rule. -/
theorem exists_last_of_mem (listed : rule ∈ rules) :
    ∃ before last after, rules = before ++ last :: after ∧ last.ownerField = rule.ownerField ∧
      ∀ later ∈ after, later.ownerField ≠ last.ownerField := by
  induction rules generalizing rule with
  | nil => cases listed
  | cons first rest ih =>
    by_cases again : ∃ later ∈ rest, later.ownerField = rule.ownerField
    · obtain ⟨later, present, same⟩ := again
      obtain ⟨before, last, after, rfl, field, latest⟩ := ih present
      exact ⟨first :: before, last, after, rfl, field.trans same, latest⟩
    · have once : ∀ later ∈ rest, later.ownerField ≠ rule.ownerField :=
        fun later present same => again ⟨later, present, same⟩
      obtain rfl : rule = first :=
        (List.mem_cons.1 listed).resolve_right fun present => once rule present rfl
      exact ⟨[], rule, rest, rfl, rfl, once⟩

/-- The owners can be named in one way only. -/
theorem NamesAll.unique {other : Request} (one : NamesAll claims type rules request decorated)
    (two : NamesAll claims type rules request other) : decorated = other := by
  have bindings : decorated.bindings = other.bindings := by
    refine KeyMap.eq_of_get? fun name => ?_
    by_cases owner : ∃ rule ∈ rules, rule.ownerField = name
    -- Only the last rule with this field counts, and its claim has one value.
    · obtain ⟨rule, listed, rfl⟩ := owner
      obtain ⟨before, last, after, split, same, latest⟩ := exists_last_of_mem listed
      obtain ⟨first, named, found⟩ := one.last before last after split latest
      obtain ⟨second, renamed, again⟩ := two.last before last after split latest
      obtain rfl : first = second := by simpa using named.1.symm.trans renamed.1
      rw [← same, found, again]
    · have others : ∀ rule ∈ rules, rule.ownerField ≠ name :=
        fun rule listed same => owner ⟨rule, listed, same⟩
      rw [one.others name others, two.others name others]
  rw [one.kept, two.kept, bindings]

/-- Naming the owners again binds them as they are bound. -/
theorem NamesAll.again (named : NamesAll claims type rules request decorated) :
    NamesAll claims type rules decorated decorated :=
  ⟨named.last, fun _ _ => rfl, rfl⟩

/-! ## Requests -/

namespace Schema

variable {schema : Schema}

/-- Owners are named in subscriptions with a user identity, to models with an owner rule. -/
def NeedsOwner (schema : Schema) (request : Request) (type : AuthType) : Prop :=
  request.kind = .subscription ∧ type.hasIdentity = true ∧ schema.ownerRules ≠ []

/-- What becomes of a request. It is left alone if it needs no owner, and if the caller is in a
group that sees every record. Otherwise the owners of all rules are named. The first rule whose
claim cannot be had ends this with a failure. -/
inductive Decorates (schema : Schema) (claims : Claims) (request : Request) (type : AuthType) :
    Except DecorationError Request → Prop where
  | exempt (other : ¬ schema.NeedsOwner request type) :
      schema.Decorates claims request type (.ok request)
  | unknown {before after : List AuthRule} {rule : AuthRule} {failure : DecorationError}
      (needs : schema.NeedsOwner request type)
      (split : schema.groupRules = before ++ rule :: after)
      (outside : ∀ earlier ∈ before, Excludes claims type earlier)
      (failed : claims type rule.groupClaim = .error failure) :
      schema.Decorates claims request type (.error failure)
  | member {before after : List AuthRule} {rule : AuthRule}
      (needs : schema.NeedsOwner request type)
      (split : schema.groupRules = before ++ rule :: after)
      (outside : ∀ earlier ∈ before, Excludes claims type earlier)
      (inside : Admits claims type rule) : schema.Decorates claims request type (.ok request)
  | unnamed {before after : List AuthRule} {rule : AuthRule} {failure : DecorationError}
      (needs : schema.NeedsOwner request type)
      (outside : ∀ rule ∈ schema.groupRules, Excludes claims type rule)
      (split : schema.ownerRules = before ++ rule :: after)
      (named : ∀ earlier ∈ before, ∃ owner, NamesOwner claims type earlier owner)
      (nobody : Unnamed claims type rule failure) :
      schema.Decorates claims request type (.error failure)
  | named {decorated : Request} (needs : schema.NeedsOwner request type)
      (outside : ∀ rule ∈ schema.groupRules, Excludes claims type rule)
      (named : ∀ rule ∈ schema.ownerRules, ∃ owner, NamesOwner claims type rule owner)
      (bound : NamesAll claims type schema.ownerRules request decorated) :
      schema.Decorates claims request type (.ok decorated)

variable {outcome : Except DecorationError Request}

private theorem needsOwner_iff :
    schema.needsOwner request type = true ↔ schema.NeedsOwner request type := by
  simp [needsOwner, NeedsOwner, hasOwnerRule, and_assoc]

theorem decorate_of_needsOwner (needs : schema.NeedsOwner request type) :
    schema.decorate claims request type =
      (do if ← inGroupOf claims type schema.groupRules then return request
          else bindOwners claims type request schema.ownerRules) := by
  rw [decorate, if_pos (needsOwner_iff.2 needs)]

/-- The cases are right. -/
theorem decorate_eq_of_decorates (decorates : schema.Decorates claims request type outcome) :
    schema.decorate claims request type = outcome := by
  cases decorates with
  | exempt other => rw [decorate, if_neg (mt needsOwner_iff.1 other)]; rfl
  | unknown needs split outside failed =>
    rw [decorate_of_needsOwner needs, split, inGroupOf_append outside,
      inGroupOf_cons_of_error failed]
    rfl
  | member needs split outside inside =>
    rw [decorate_of_needsOwner needs, split, inGroupOf_append outside,
      inGroupOf_cons_of_admits inside]
    rfl
  | unnamed needs outside split named nobody =>
    rw [decorate_of_needsOwner needs, inGroupOf_of_excludes outside, split]
    exact bindOwners_of_unnamed named nobody request
  | named needs outside named bound =>
    obtain ⟨result, done⟩ := exists_bindOwners named request
    rw [decorate_of_needsOwner needs, inGroupOf_of_excludes outside,
      bound.unique (namesAll_of_bindOwners done)]
    exact done

/-- The cases leave nothing open. -/
theorem exists_decorates (schema : Schema) (claims : Claims) (request : Request) (type : AuthType) :
    ∃ outcome, schema.Decorates claims request type outcome := by
  by_cases needs : schema.NeedsOwner request type
  · rcases all_or_first (Excludes claims type) schema.groupRules with
      outside | ⟨before, rule, after, split, outside, inside⟩
    · rcases all_or_first (fun rule => ∃ owner, NamesOwner claims type rule owner)
        schema.ownerRules with named | ⟨before, rule, after, split, named, nobody⟩
      · obtain ⟨decorated, done⟩ := exists_bindOwners named request
        exact ⟨_, .named needs outside named (namesAll_of_bindOwners done)⟩
      · obtain ⟨failure, unnamed⟩ := exists_unnamed nobody
        exact ⟨_, .unnamed needs outside split named unnamed⟩
    · rcases admits_or_fails inside with admits | ⟨failure, failed⟩
      · exact ⟨_, .member needs split outside admits⟩
      · exact ⟨_, .unknown needs split outside failed⟩
  · exact ⟨_, .exempt needs⟩

theorem decorates_decorate (schema : Schema) (claims : Claims) (request : Request)
    (type : AuthType) :
    schema.Decorates claims request type (schema.decorate claims request type) := by
  obtain ⟨outcome, decorates⟩ := exists_decorates schema claims request type
  rw [decorate_eq_of_decorates decorates]
  exact decorates

/-- A decorated request is in the case that it came from, as it is now. -/
theorem Decorates.again (decorates : schema.Decorates claims request type (.ok decorated)) :
    schema.Decorates claims decorated type (.ok decorated) := by
  generalize result : Except.ok decorated = outcome at decorates
  cases decorates with
  | exempt other => cases result; exact .exempt other
  | member needs split outside inside => cases result; exact .member needs split outside inside
  | named needs outside named bound =>
    cases result
    refine .named ⟨?_, needs.2⟩ outside named bound.again
    rw [bound.kept]
    exact needs.1
  | unknown | unnamed => cases result

/-- What a decorated request is, is decided by the cases and by nothing else; and what was decorated
once is not changed by being decorated again. -/
theorem decorate_decides (schema : Schema) (claims : Claims) (request : Request)
    (type : AuthType) :
    (∀ outcome, schema.decorate claims request type = outcome ↔
      schema.Decorates claims request type outcome) ∧
      ∀ decorated, schema.decorate claims request type = .ok decorated →
        schema.decorate claims decorated type = .ok decorated := by
  have decides := decorates_decorate schema claims request type
  refine ⟨fun outcome => ⟨fun same => same ▸ decides, decorate_eq_of_decorates⟩, ?_⟩
  intro decorated done
  rw [done] at decides
  exact decorate_eq_of_decorates decides.again

/-- Notes with one owner field for two kinds of callers, which administrators see in any case. -/
def sharedNotes : Schema where
  name := "Note"
  fields := []
  rules := [{ strategy := .owner, identityClaim := "sub" },
    { strategy := .group, groups := ["Admins"] }, { strategy := .owner }]

/-- The claims of a member of the groups that a text lists. -/
def claimsOfMember (groups : String) : Claims := fun _ name =>
  .ok (.some (.str (if name = "cognito:groups" then groups else name ++ " of alice")))

theorem sharedNotes_last_named :
    ∃ decorated,
      sharedNotes.decorate (claimsOfMember " Users\tGuests ")
        (.make .subscription "OnCreateNote" "onCreateNote" "Note" []) .openidConnect =
        .ok decorated ∧
      decorated.value? "owner" = some (.str "username of alice") ∧
      sharedNotes.decorate (claimsOfMember " Users\tGuests ") decorated .openidConnect =
        .ok decorated := by
  obtain ⟨decorated, done, named⟩ : ∃ decorated,
      sharedNotes.decorate (claimsOfMember " Users\tGuests ")
        (.make .subscription "OnCreateNote" "onCreateNote" "Note" []) .openidConnect =
        .ok decorated ∧ decorated.value? "owner" = some (.str "username of alice") := ⟨_, rfl, rfl⟩
  exact ⟨decorated, done, named, (decorate_decides _ _ _ _).2 decorated done⟩

/-- A word of the claim is a group of the rule. -/
example : sharedNotes.decorate (claimsOfMember " Users\tAdmins ")
    (.make .subscription "OnCreateNote" "onCreateNote" "Note" []) .openidConnect =
      .ok (.make .subscription "OnCreateNote" "onCreateNote" "Note" []) := rfl

end Schema

end ModelSync
