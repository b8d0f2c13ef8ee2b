import ModelSync.Proofs.Decoration.Cases
import ModelSync.Proofs.Schema.Expansion

/-! Which owner a field names. Each owner rule reads a claim of its own, but rules may share a field,
and a request has one value for each variable. So a field names the owner that the last of its rules
reads, and the owners of all rules are named exactly if rules that share a field read the same. -/
namespace ModelSync

variable {claims : Claims} {type : AuthType} {rule last : AuthRule} {rules : List AuthRule}
  {request decorated : Request}

/-- The last of the rules with a field. -/
def IsLastFor (rules : List AuthRule) (field : String) (last : AuthRule) : Prop :=
  ∃ before after, rules = before ++ last :: after ∧ last.ownerField = field ∧
    ∀ later ∈ after, later.ownerField ≠ field

/-- The variable of the rule's field holds the owner that the rule itself reads. -/
def NamesOwn (claims : Claims) (type : AuthType) (decorated : Request) (rule : AuthRule) : Prop :=
  ∃ owner, NamesOwner claims type rule owner ∧
    decorated.value? rule.ownerField = some (.str owner)

private theorem IsLastFor.mem {field : String} (latest : IsLastFor rules field last) :
    last ∈ rules := by
  obtain ⟨before, after, rfl, -, -⟩ := latest
  simp

private theorem exists_isLastFor (listed : rule ∈ rules) :
    ∃ last, IsLastFor rules rule.ownerField last := by
  obtain ⟨before, last, after, split, same, latest⟩ := exists_last_of_mem listed
  exact ⟨last, before, after, split, same, same ▸ latest⟩

/-- A field is bound to what the last of its rules reads. -/
theorem NamesAll.of_isLastFor {field : String}
    (bound : NamesAll claims type rules request decorated) (latest : IsLastFor rules field last) :
    ∃ owner, NamesOwner claims type last owner ∧ decorated.value? field = some (.str owner) ∧
      decorated.variableType? field = some "String!" := by
  obtain ⟨before, after, split, rfl, latest⟩ := latest
  obtain ⟨owner, named, found⟩ := bound.last before last after split latest
  exact ⟨owner, named, by simp [Request.value?, found], by simp [Request.variableType?, found]⟩

/-- Rules that read the same claims name the same owner. -/
theorem NamesOwner.congr {other : AuthRule} {owner : String}
    (named : NamesOwner claims type rule owner)
    (same : claims type rule.identityClaim = claims type other.identityClaim) :
    NamesOwner claims type other owner :=
  ⟨same ▸ named.1, named.2⟩

/-- All rules have their own owners named exactly if rules of one field read the same. -/
theorem NamesAll.namesOwn_iff (bound : NamesAll claims type rules request decorated) :
    (∀ rule ∈ rules, NamesOwn claims type decorated rule) ↔
      ∀ one ∈ rules, ∀ other ∈ rules, one.ownerField = other.ownerField →
        claims type one.identityClaim = claims type other.identityClaim := by
  constructor
  · intro own one listed other among same
    obtain ⟨owner, reads, holds⟩ := own one listed
    obtain ⟨second, readsSecond, holdsSecond⟩ := own other among
    rw [same, holdsSecond] at holds
    obtain rfl : second = owner := by simpa using holds
    rw [reads.1, readsSecond.1]
  · intro agree rule listed
    obtain ⟨last, latest⟩ := exists_isLastFor listed
    obtain ⟨owner, reads, holds, -⟩ := bound.of_isLastFor latest
    have field : last.ownerField = rule.ownerField := by
      obtain ⟨_, _, _, field, _⟩ := latest
      exact field
    exact ⟨owner, reads.congr (agree last latest.mem rule listed field), holds⟩

namespace Schema

variable {schema : Schema}

/-- Where a caller with an identity is in no group that sees every record, a decorated subscription
has the owners of all rules named, if there are such rules. -/
theorem namesAll_of_decorate (done : schema.decorate claims request type = .ok decorated)
    (subscribes : request.kind = .subscription) (identity : type.hasIdentity = true)
    (outside : ∀ rule ∈ schema.groupRules, ¬ Admits claims type rule) :
    schema.ownerRules = [] ∨
      (∀ rule ∈ schema.ownerRules, ∃ owner, NamesOwner claims type rule owner) ∧
        NamesAll claims type schema.ownerRules request decorated := by
  have decorates := decorates_decorate schema claims request type
  rw [done] at decorates
  generalize result : Except.ok decorated = outcome at decorates
  cases decorates with
  | exempt other =>
    refine .inl (Classical.byContradiction fun owned => other ⟨subscribes, identity, owned⟩)
  | @member before after rule _ split _ inside =>
    exact absurd inside (outside rule (by simp [split]))
  | named _ _ named bound =>
    cases result
    exact .inr ⟨named, bound⟩
  | unknown | unnamed => cases result

/-- The field of every owner rule names the owner that the last rule with this field reads. All
rules read an owner, and each has its own named exactly if rules that share a field read the
same. -/
theorem last_rule_names (done : schema.decorate claims request type = .ok decorated)
    (subscribes : request.kind = .subscription) (identity : type.hasIdentity = true)
    (outside : ∀ rule ∈ schema.groupRules, ¬ Admits claims type rule) :
    (∀ rule ∈ schema.ownerRules, ∃ own last owner, NamesOwner claims type rule own ∧
        IsLastFor schema.ownerRules rule.ownerField last ∧ NamesOwner claims type last owner ∧
        decorated.value? rule.ownerField = some (.str owner) ∧
        decorated.variableType? rule.ownerField = some "String!") ∧
      ((∀ rule ∈ schema.ownerRules, NamesOwn claims type decorated rule) ↔
        ∀ one ∈ schema.ownerRules, ∀ other ∈ schema.ownerRules,
          one.ownerField = other.ownerField →
            claims type one.identityClaim = claims type other.identityClaim) := by
  rcases namesAll_of_decorate done subscribes identity outside with unowned | ⟨named, bound⟩
  · simp [unowned]
  · refine ⟨fun rule listed => ?_, bound.namesOwn_iff⟩
    obtain ⟨own, reads⟩ := named rule listed
    obtain ⟨last, latest⟩ := exists_isLastFor listed
    obtain ⟨owner, readsLast, holds, declared⟩ := bound.of_isLastFor latest
    exact ⟨own, last, owner, reads, latest, readsLast, holds, declared⟩

/-- The owner and the editor of a journal entry are named by claims of their own. -/
theorem journal_names_own :
    ∃ decorated,
      journal.decorate (claimsOfMember "Users")
        (.make .subscription "OnUpdateEntry" "onUpdateEntry" "Entry" []) .cognitoUserPools =
        .ok decorated ∧
      ∀ rule ∈ journal.ownerRules,
        NamesOwn (claimsOfMember "Users") .cognitoUserPools decorated rule := by
  obtain ⟨decorated, done⟩ : ∃ decorated,
      journal.decorate (claimsOfMember "Users")
        (.make .subscription "OnUpdateEntry" "onUpdateEntry" "Entry" []) .cognitoUserPools =
        .ok decorated := ⟨_, rfl⟩
  have apart : ∀ one ∈ journal.ownerRules, ∀ other ∈ journal.ownerRules,
      one.ownerField = other.ownerField → one.identityClaim = other.identityClaim := by decide
  refine ⟨decorated, done, (last_rule_names done rfl rfl (by simp [groupRules, journal])).2.2 ?_⟩
  intro one listed other among same
  rw [apart one listed other among same]

private theorem not_admits_sharedNotes :
    ∀ rule ∈ sharedNotes.groupRules, ¬ Admits (claimsOfMember "Users") .openidConnect rule := by
  rintro rule listed ⟨claim, group, asked, lists, among⟩
  obtain rfl : rule = { strategy := .group, groups := ["Admins"] } := List.mem_singleton.1 listed
  obtain rfl : Json.str "Users" = claim := by simpa [claimsOfMember] using asked
  have claimed : group = "Users" := List.mem_singleton.1 (mem_claimedGroups_iff.2 lists)
  simp [claimed] at among

/-- Of two rules that share a field the first does not have its owner named. -/
theorem first_owner_unnamed :
    ∃ decorated,
      sharedNotes.decorate (claimsOfMember "Users")
        (.make .subscription "OnCreateNote" "onCreateNote" "Note" []) .openidConnect =
        .ok decorated ∧
      (∀ rule ∈ sharedNotes.groupRules,
        ¬ Admits (claimsOfMember "Users") .openidConnect rule) ∧
      ∃ rule ∈ sharedNotes.ownerRules,
        claimsOfMember "Users" .openidConnect rule.identityClaim =
          .ok (some (.str "sub of alice")) ∧
        decorated.value? rule.ownerField = some (.str "username of alice") :=
  ⟨_, rfl, not_admits_sharedNotes, _, List.mem_cons_self, rfl, rfl⟩

end Schema

end ModelSync
