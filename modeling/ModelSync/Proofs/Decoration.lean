import ModelSync.Decoration
import ModelSync.Proofs.Except

/-! What a decorated request carries. The decorator of a model leaves a request as it is, or it
binds the owner field of every owner rule to a name that the caller's claims give. -/
namespace ModelSync

variable {schema : Schema} {claims : Claims} {type : AuthType} {request decorated : Request}

/-- The claims place the caller in a group of one of the rules. -/
def InGroup (claims : Claims) (type : AuthType) (rules : List AuthRule) : Prop :=
  ∃ rule ∈ rules, ∃ claim, claims type rule.groupClaim = .ok (some claim) ∧
    ∃ group ∈ claimedGroups claim, group ∈ rule.groups

/-- The claims name an owner for a rule. -/
def NamesOwner (claims : Claims) (type : AuthType) (rule : AuthRule) (owner : String) : Prop :=
  claims type rule.identityClaim = .ok (some (.str owner)) ∧ owner ≠ ""

/-- What the claims answer for a rule decides whether the search ends there. -/
theorem inGroupOf_cons_of_ok {rule : AuthRule} {rules : List AuthRule} {answer : Option Json}
    (asked : claims type rule.groupClaim = .ok answer) :
    inGroupOf claims type (rule :: rules) =
      if (answer.elim [] claimedGroups).any rule.groups.contains then .ok true
      else inGroupOf claims type rules := by
  simp only [inGroupOf, asked]
  cases answer <;> rfl

private theorem inGroup_of_inGroupOf {rules : List AuthRule}
    (found : inGroupOf claims type rules = .ok true) : InGroup claims type rules := by
  induction rules with
  | nil => cases found
  | cons rule rest ih =>
    obtain ⟨answer, asked, -⟩ := Except.exists_of_bind_ok found
    rw [inGroupOf_cons_of_ok asked] at found
    split at found
    case isTrue member =>
      obtain ⟨group, claimed, among⟩ := List.any_eq_true.1 member
      cases answer with
      | none => cases claimed
      | some claim =>
        exact ⟨rule, List.mem_cons_self, claim, asked, group, claimed, List.contains_iff_mem.1 among⟩
    case isFalse =>
      obtain ⟨other, listed, member⟩ := ih found
      exact ⟨other, List.mem_cons_of_mem _ listed, member⟩

/-- A search that ends without a group has asked for all of them. -/
theorem not_inGroup_of_inGroupOf {rules : List AuthRule}
    (ended : inGroupOf claims type rules = .ok false) : ¬ InGroup claims type rules := by
  induction rules with
  | nil => simp [InGroup]
  | cons rule rest ih =>
    obtain ⟨answer, asked, -⟩ := Except.exists_of_bind_ok ended
    rw [inGroupOf_cons_of_ok asked] at ended
    split at ended
    case isTrue => cases ended
    case isFalse outside =>
      rintro ⟨other, listed, claim, found, group, claimed, among⟩
      rcases List.mem_cons.1 listed with rfl | later
      · obtain rfl : some claim = answer := Except.ok.inj (found.symm.trans asked)
        exact outside (List.any_eq_true.2 ⟨group, claimed, List.contains_iff_mem.2 among⟩)
      · exact ih ended ⟨other, later, claim, found, group, claimed, among⟩

theorem namesOwner_of_ownerOf {rule : AuthRule} {owner : String}
    (found : ownerOf claims type rule = .ok owner) : NamesOwner claims type rule owner := by
  obtain ⟨answer, asked, done⟩ := Except.exists_of_bind_ok found
  split at done
  case h_1 named =>
    split at done
    case isTrue => cases done
    case isFalse filled =>
      cases done
      exact ⟨asked, fun empty => filled (by simp [empty])⟩
  case h_2 => cases done

/-- A request that names its owners: the owner field of every rule is bound to a name that the
claims give for a rule with this field. Nothing else is bound anew. -/
structure Owned (claims : Claims) (type : AuthType) (rules : List AuthRule)
    (request decorated : Request) : Prop where
  bound : ∀ rule ∈ rules, ∃ origin ∈ rules, ∃ owner,
    origin.ownerField = rule.ownerField ∧ NamesOwner claims type origin owner ∧
      decorated.bindings.get? rule.ownerField = some ⟨"String!", .str owner⟩
  others : ∀ name, (∀ rule ∈ rules, rule.ownerField ≠ name) →
    decorated.bindings.get? name = request.bindings.get? name
  kept : decorated = { request with bindings := decorated.bindings }

theorem Request.bindings_bind_self (request : Request) (name kind : String) (value : Json) :
    (request.bind name kind value).bindings.get? name = some ⟨kind, value⟩ :=
  Entries.get?_insert_self _ _ _

theorem Request.bindings_bind_of_ne (request : Request) {name other : String} (kind : String)
    (value : Json) (differs : other ≠ name) :
    (request.bind name kind value).bindings.get? other = request.bindings.get? other :=
  Entries.get?_insert_of_ne _ _ differs

/-- A rule whose field is not bound again keeps its owner. -/
theorem Owned.cons {rule : AuthRule} {rest : List AuthRule} {owner : String}
    (owned : Owned claims type rest (request.bind rule.ownerField "String!" (.str owner)) decorated)
    (named : NamesOwner claims type rule owner) :
    Owned claims type (rule :: rest) request decorated where
  bound other listed := by
    by_cases again : ∃ later ∈ rest, later.ownerField = other.ownerField
    · obtain ⟨later, present, same⟩ := again
      obtain ⟨origin, among, name, field, names, found⟩ := owned.bound later present
      exact ⟨origin, List.mem_cons_of_mem _ among, name, field.trans same, names, same ▸ found⟩
    · have once : ∀ later ∈ rest, later.ownerField ≠ other.ownerField :=
        fun later present same => again ⟨later, present, same⟩
      obtain rfl : other = rule :=
        (List.mem_cons.1 listed).resolve_right fun present => once other present rfl
      refine ⟨other, List.mem_cons_self, owner, rfl, named, ?_⟩
      rw [owned.others _ once, Request.bindings_bind_self]
  others name differs := by
    have own := differs rule List.mem_cons_self
    rw [owned.others name fun later present => differs later (List.mem_cons_of_mem _ present),
      Request.bindings_bind_of_ne _ _ _ (Ne.symm own)]
  kept := owned.kept

private theorem owned_of_bindOwners {rules : List AuthRule}
    (done : bindOwners claims type request rules = .ok decorated) :
    Owned claims type rules request decorated := by
  induction rules generalizing request with
  | nil =>
    cases done
    exact ⟨nofun, fun _ _ => rfl, rfl⟩
  | cons rule rest ih =>
    obtain ⟨owner, found, later⟩ := Except.exists_of_bind_ok done
    exact (ih later).cons (namesOwner_of_ownerOf found)

/-- Owners are named for a caller with a user identity who is in no group that sees every record. -/
def Schema.BindsOwners (schema : Schema) (claims : Claims) (request : Request)
    (type : AuthType) : Prop :=
  schema.needsOwner request type = true ∧ ¬ InGroup claims type schema.groupRules

/-- A decorated request is the given one, or the same with its owners named. -/
theorem Schema.cases_of_decorate (done : schema.decorate claims request type = .ok decorated) :
    ¬ schema.BindsOwners claims request type ∧ decorated = request ∨
      schema.BindsOwners claims request type ∧
        bindOwners claims type request schema.ownerRules = .ok decorated := by
  unfold Schema.decorate at done
  cases needs : schema.needsOwner request type with
  | false =>
    simp only [needs, Bool.false_eq_true, ↓reduceIte] at done
    cases done
    exact .inl ⟨fun binds => (Bool.eq_false_iff.1 needs) binds.1, rfl⟩
  | true =>
    simp only [needs, ↓reduceIte] at done
    obtain ⟨member, asked, done⟩ := Except.exists_of_bind_ok done
    cases member with
    | true =>
      cases done
      exact .inl ⟨fun binds => binds.2 (inGroup_of_inGroupOf asked), rfl⟩
    | false => exact .inr ⟨⟨needs, not_inGroup_of_inGroupOf asked⟩, done⟩

/-- A request is left as it is, unless it has to name owners and the caller is in no group that
sees every record. -/
theorem Schema.decorated_or_kept (done : schema.decorate claims request type = .ok decorated) :
    (schema.needsOwner request type = false ∨ InGroup claims type schema.groupRules) ∧
        decorated = request ∨
      schema.needsOwner request type = true ∧
        Owned claims type schema.ownerRules request decorated := by
  rcases cases_of_decorate done with ⟨unbound, same⟩ | ⟨binds, bound⟩
  · refine .inl ⟨?_, same⟩
    by_cases needs : schema.needsOwner request type = true
    · exact .inr (Classical.byContradiction fun outside => unbound ⟨needs, outside⟩)
    · exact .inl (Bool.eq_false_iff.2 needs)
  · exact .inr ⟨binds.1, owned_of_bindOwners bound⟩

end ModelSync
