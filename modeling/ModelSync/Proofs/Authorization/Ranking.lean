import Mathlib.Data.List.Induction
import ModelSync.Proofs.Authorization
import ModelSync.Proofs.KeyMap

/-! The order in which the rules of a model are tried. The strategies come one after the other, the
most specific first, and the candidates of one strategy in the order of the first rules that give
them. This leaves a single sequence, in which a rule that gives nothing new has no part, and to
which it does not matter how rules of different strategies are mixed. -/
namespace ModelSync

/-- The strategies, the most specific first. -/
def AuthStrategy.bySpecificity : List AuthStrategy := [.owner, .group, .signedIn, .anyone, .custom]

/-- One strategy is more specific than another. -/
def AuthStrategy.Precedes (first second : AuthStrategy) : Prop :=
  [first, second].Sublist bySpecificity

theorem AuthStrategy.precedes_iff {first second : AuthStrategy} :
    first.Precedes second ↔ first.rank < second.rank := by
  unfold Precedes
  cases first <;> cases second <;> decide

private theorem AuthStrategy.eq_of_rank {first second : AuthStrategy}
    (same : first.rank = second.rank) : first = second := by
  cases first <;> cases second <;> first | rfl | exact absurd same (by decide)

/-- The rules of a strategy. -/
def rulesFor (strategy : AuthStrategy) (rules : List AuthRule) : List AuthRule :=
  rules.filter fun rule => rule.strategy = strategy

/-- The same rules in another order, which keeps the rules of each strategy as they were among one
another. -/
def Remixed (rules others : List AuthRule) : Prop :=
  ∀ strategy, rulesFor strategy rules = rulesFor strategy others

namespace AuthCandidate

/-- The position of the first rule that gives a candidate. -/
def firstGiven (rules : List AuthRule) (candidate : AuthCandidate) : Nat :=
  rules.findIdx fun rule => ofRule rule = candidate

/-- A candidate comes before another one, by its strategy, or within a strategy by its rules. -/
def Precedes (rules : List AuthRule) (first second : AuthCandidate) : Prop :=
  first.strategy.Precedes second.strategy ∨
    first.strategy = second.strategy ∧ firstGiven rules first < firstGiven rules second

/-- The candidates of rules, each of them once, in the order that they are to be tried in. -/
structure Ranked (rules : List AuthRule) (candidates : List AuthCandidate) : Prop where
  exact : ∀ candidate, candidate ∈ candidates ↔ ∃ rule ∈ rules, candidate = ofRule rule
  once : candidates.Nodup
  ordered : candidates.Pairwise (Precedes rules)

variable {rules others before after : List AuthRule} {candidates : List AuthCandidate}
  {candidate first second : AuthCandidate} {rule : AuthRule}

/-! ## The first rules -/

private theorem firstGiven_lt_length_iff :
    firstGiven rules candidate < rules.length ↔ ∃ rule ∈ rules, candidate = ofRule rule := by
  simp [firstGiven, List.findIdx_lt_length, eq_comm]

theorem firstGiven_append :
    firstGiven (before ++ after) candidate =
      if firstGiven before candidate < before.length then firstGiven before candidate
      else firstGiven after candidate + before.length :=
  List.findIdx_append

theorem firstGiven_cons :
    firstGiven (rule :: rules) candidate =
      if ofRule rule = candidate then 0 else firstGiven rules candidate + 1 := by
  simp [firstGiven, List.findIdx_cons, Bool.cond_eq_ite]

/-- The rules of one strategy suffice to compare what they give. -/
theorem firstGiven_rulesFor (same : first.strategy = second.strategy) :
    firstGiven (rulesFor first.strategy rules) first <
        firstGiven (rulesFor first.strategy rules) second ↔
      firstGiven rules first < firstGiven rules second := by
  induction rules with
  | nil => rfl
  | cons rule rest ih =>
    have elsewhere {candidate : AuthCandidate} (other : rule.strategy ≠ candidate.strategy) :
        ofRule rule ≠ candidate := by
      rintro rfl
      exact other rfl
    by_cases own : rule.strategy = first.strategy
    · rw [rulesFor, List.filter_cons_of_pos (by simpa using own), ← rulesFor]
      simp only [firstGiven_cons]
      split <;> split <;> omega
    · rw [rulesFor, List.filter_cons_of_neg (by simpa using own), ← rulesFor, ih,
        firstGiven_cons, firstGiven_cons, if_neg (elsewhere own), if_neg (elsewhere (same ▸ own))]
      omega

/-- A rule that gives nothing new moves later ones on, and that is all. -/
theorem firstGiven_insert (known : ∃ earlier ∈ before, ofRule earlier = ofRule rule) :
    firstGiven (before ++ rule :: after) first < firstGiven (before ++ rule :: after) second ↔
      firstGiven (before ++ after) first < firstGiven (before ++ after) second := by
  have moved (candidate : AuthCandidate) : firstGiven (before ++ rule :: after) candidate =
      if firstGiven (before ++ after) candidate < before.length
      then firstGiven (before ++ after) candidate
      else firstGiven (before ++ after) candidate + 1 := by
    rw [firstGiven_append, firstGiven_append]
    by_cases given : firstGiven before candidate < before.length
    · simp only [given, ↓reduceIte]
    · have other : ofRule rule ≠ candidate := by
        rintro rfl
        obtain ⟨earlier, listed, same⟩ := known
        exact given (firstGiven_lt_length_iff.2 ⟨earlier, listed, same.symm⟩)
      rw [if_neg given, if_neg given, firstGiven_cons, if_neg other]
      split <;> omega
  rw [moved, moved]
  split <;> split <;> omega

/-! ## The sequence -/

/-- A ranking depends on what the rules give and in which order. -/
theorem Ranked.congr
    (same : ∀ candidate, (∃ rule ∈ rules, candidate = ofRule rule) ↔
      ∃ rule ∈ others, candidate = ofRule rule)
    (order : ∀ first second : AuthCandidate, first.strategy = second.strategy →
      (firstGiven rules first < firstGiven rules second ↔
        firstGiven others first < firstGiven others second))
    (ranked : Ranked rules candidates) : Ranked others candidates where
  exact candidate := (ranked.exact candidate).trans (same candidate)
  once := ranked.once
  ordered := ranked.ordered.imp fun precedes =>
    precedes.imp_right fun ⟨same, earlier⟩ => ⟨same, (order _ _ same).1 earlier⟩

/-- There is only one way to rank the candidates of rules. -/
theorem Ranked.unique {again : List AuthCandidate} (one : Ranked rules candidates)
    (two : Ranked rules again) : candidates = again := by
  have members : candidates.Perm again :=
    (List.perm_ext_iff_of_nodup one.once two.once).2 fun candidate => by
      rw [one.exact, two.exact]
  refine List.Perm.eq_of_pairwise ?_ one.ordered two.ordered members
  intro first second _ _ before after
  simp only [Precedes, AuthStrategy.precedes_iff] at before after
  rcases before with specific | ⟨same, earlier⟩
  · rcases after with general | ⟨same, _⟩
    · exact absurd general (Nat.lt_asymm specific)
    · exact absurd (same ▸ specific) (Nat.lt_irrefl _)
  · rcases after with general | ⟨_, later⟩
    · exact absurd (same ▸ general) (Nat.lt_irrefl _)
    · exact absurd later (Nat.lt_asymm earlier)

/-- Candidates that are kept one after the other are in the order of the first rules that give
them. -/
theorem pairwise_foldl_keep (rules : List AuthRule) :
    (rules.foldl keep []).Pairwise fun first second =>
      firstGiven rules first < firstGiven rules second := by
  induction rules using List.reverseRecOn with
  | nil => exact .nil
  | append_singleton before rule ih =>
    have given {candidate : AuthCandidate} :
        candidate ∈ before.foldl keep [] ↔ firstGiven before candidate < before.length := by
      simp [mem_foldl_keep, firstGiven_lt_length_iff]
    have stays {candidate : AuthCandidate} (listed : candidate ∈ before.foldl keep []) :
        firstGiven (before ++ [rule]) candidate = firstGiven before candidate := by
      rw [firstGiven_append, if_pos (given.1 listed)]
    have earlier : (before.foldl keep []).Pairwise fun first second =>
        firstGiven (before ++ [rule]) first < firstGiven (before ++ [rule]) second := by
      refine ih.imp_of_mem ?_
      intro first second firstListed secondListed less
      rwa [stays firstListed, stays secondListed]
    rw [List.foldl_append, List.foldl_cons, List.foldl_nil, keep]
    split
    case isTrue => exact earlier
    case isFalse fresh =>
      refine List.pairwise_append.2 ⟨earlier, List.pairwise_singleton _ _, ?_⟩
      intro first listed second new
      obtain rfl := List.mem_singleton.1 new
      have below := given.1 listed
      rw [stays listed, firstGiven_append, if_neg (fun known => fresh (given.2 known))]
      omega

/-- The rules, those of the most specific strategies first. -/
def sorted (rules : List AuthRule) : List AuthRule :=
  rules.mergeSort fun a b => a.strategy.rank ≤ b.strategy.rank

private theorem remixed_sorted (rules : List AuthRule) : Remixed (sorted rules) rules := by
  intro strategy
  refine filter_mergeSort_key (fun rule => rule.strategy.rank) ?_ rules
  intro a b own other
  have same : a.strategy = b.strategy :=
    (of_decide_eq_true own).trans (of_decide_eq_true other).symm
  rw [same]

private theorem ascending_sorted (rules : List AuthRule) :
    (sorted rules).Pairwise fun a b => a.strategy.rank ≤ b.strategy.rank :=
  pairwise_mergeSort_key (fun rule => rule.strategy.rank) rules

/-- Where the strategies of the rules ascend in rank, so do those of what the rules give. -/
theorem rank_le_of_firstGiven
    (ascending : rules.Pairwise fun a b => a.strategy.rank ≤ b.strategy.rank)
    (earlier : firstGiven rules first < firstGiven rules second)
    (listed : firstGiven rules second < rules.length) :
    first.strategy.rank ≤ second.strategy.rank := by
  have gives {candidate : AuthCandidate} (listed : firstGiven rules candidate < rules.length) :
      rules[firstGiven rules candidate].strategy = candidate.strategy := by
    have given : decide (ofRule rules[firstGiven rules candidate] = candidate) = true :=
      List.findIdx_getElem (p := fun rule => decide (ofRule rule = candidate)) (w := listed)
    exact congrArg AuthCandidate.strategy (of_decide_eq_true given)
  have below := List.pairwise_iff_getElem.1 ascending _ _ (by omega) listed earlier
  rwa [gives (by omega), gives listed] at below

private theorem mem_of_remixed (remixed : Remixed rules others) : rule ∈ rules ↔ rule ∈ others := by
  have own (rules : List AuthRule) : rule ∈ rules ↔ rule ∈ rulesFor rule.strategy rules := by
    simp [rulesFor]
  rw [own rules, own others, remixed]

/-- How rules of different strategies are mixed does not matter. -/
theorem Ranked.remix (remixed : Remixed rules others) (ranked : Ranked rules candidates) :
    Ranked others candidates := by
  refine ranked.congr (fun _ => by simp only [mem_of_remixed remixed]) ?_
  intro first second same
  rw [← firstGiven_rulesFor same, remixed, firstGiven_rulesFor same]

/-- A rule that gives nothing new may be put in. -/
theorem Ranked.insert (known : ∃ earlier ∈ before, ofRule earlier = ofRule rule)
    (ranked : Ranked (before ++ after) candidates) :
    Ranked (before ++ rule :: after) candidates := by
  refine ranked.congr (fun candidate => ?_) fun _ _ _ => (firstGiven_insert known).symm
  constructor
  · rintro ⟨other, listed, given⟩
    refine ⟨other, ?_, given⟩
    rcases List.mem_append.1 listed with early | late
    · exact List.mem_append_left _ early
    · exact List.mem_append_right _ (List.mem_cons_of_mem _ late)
  · rintro ⟨other, listed, given⟩
    rcases List.mem_append.1 listed with early | late
    · exact ⟨other, List.mem_append_left _ early, given⟩
    · rcases List.mem_cons.1 late with rfl | late
      · obtain ⟨earlier, known, same⟩ := known
        exact ⟨earlier, List.mem_append_left _ known, given.trans same.symm⟩
      · exact ⟨other, List.mem_append_right _ late, given⟩

/-- The candidates of rules are ranked: they are kept in the order of the sorted rules, which have
those of each strategy in the order of the rules. -/
theorem ranked_ofRules (rules : List AuthRule) : Ranked rules (ofRules rules) := by
  have order : (ofRules rules).Pairwise _ := pairwise_foldl_keep (sorted rules)
  refine Ranked.remix (remixed_sorted rules) ⟨fun _ => ?_, ?_, ?_⟩
  · simp [mem_ofRules, sorted]
  · refine order.imp ?_
    rintro candidate _ less rfl
    exact Nat.lt_irrefl _ less
  · refine order.imp_of_mem ?_
    intro first second _ listed earlier
    have given : ∃ rule ∈ sorted rules, second = ofRule rule := by
      simpa [mem_ofRules, sorted] using listed
    have below := rank_le_of_firstGiven (ascending_sorted rules) earlier
      (firstGiven_lt_length_iff.2 given)
    rcases Nat.lt_or_eq_of_le below with specific | level
    · exact .inl (AuthStrategy.precedes_iff.2 specific)
    · exact .inr ⟨AuthStrategy.eq_of_rank level, earlier⟩

end AuthCandidate

namespace Candidates

open AuthCandidate (Ranked ofRule)

/-- The rules of a model give each of their candidates once. The strategies come in the order owner,
group, signed-in, anyone and custom, and within a strategy the candidates come in the order of the
first rules that give them. That leaves a single sequence, so it does not change if a rule is added
that repeats an earlier one, or if rules of different strategies are mixed in another way. -/
theorem ofRules_ranked (rules : List AuthRule) :
    ∃ candidates, ofRules rules = .ofList (candidates.map .ok) ∧ Ranked rules candidates ∧
      (∀ again, Ranked rules again → again = candidates) ∧
      (∀ before after rule, rules = before ++ after →
        (∃ earlier ∈ before, ofRule earlier = ofRule rule) →
          ofRules (before ++ rule :: after) = ofRules rules) ∧
      ∀ others, Remixed rules others → ofRules others = ofRules rules := by
  have ranked := AuthCandidate.ranked_ofRules rules
  -- Rules with the same ranking give the same sequence.
  have same {others : List AuthRule} (also : Ranked others (AuthCandidate.ofRules rules)) :
      ofRules others = ofRules rules := by
    rw [ofRules, (AuthCandidate.ranked_ofRules others).unique also, ← ofRules]
  refine ⟨AuthCandidate.ofRules rules, rfl, ranked, fun again also => also.unique ranked, ?_, ?_⟩
  · rintro before after rule rfl known
    exact same (ranked.insert known)
  · intro others remixed
    exact same (ranked.remix remixed)

/-- Rules of a wiki, of which the last gives nothing new. -/
def wikiRules : List AuthRule :=
  [{ strategy := .custom }, { strategy := .owner, provider := some .oidc },
    { strategy := .signedIn, provider := some .iam }, { strategy := .owner },
    { strategy := .owner, provider := some .userPools, ownerField := "editor" }]

/-- Its other rules, the most specific first. -/
def wikiRulesRemixed : List AuthRule :=
  [{ strategy := .owner, provider := some .oidc }, { strategy := .owner },
    { strategy := .signedIn, provider := some .iam }, { strategy := .custom }]

theorem wikiRules_as_remixed :
    ofRules wikiRules = ofRules wikiRulesRemixed ∧
      ofRules wikiRules =
        .ofList ([⟨.openidConnect, .owner⟩, ⟨.cognitoUserPools, .owner⟩, ⟨.awsIam, .signedIn⟩,
          ⟨.awsLambda, .custom⟩].map .ok) := by
  obtain ⟨_, _, _, _, repeated, _⟩ := ofRules_ranked (wikiRules.take 4)
  obtain ⟨_, _, _, _, _, mixed⟩ := ofRules_ranked wikiRulesRemixed
  have known : ofRules wikiRules = ofRules (wikiRules.take 4) :=
    repeated (wikiRules.take 4) [] _ rfl ⟨{ strategy := .owner }, by decide, rfl⟩
  have same : ofRules wikiRules = ofRules wikiRulesRemixed :=
    known.trans (mixed _ fun strategy => by cases strategy <;> rfl)
  have ascending : wikiRulesRemixed.Pairwise fun a b =>
      decide (a.strategy.rank ≤ b.strategy.rank) = true := by decide
  have tried : AuthCandidate.ofRules wikiRulesRemixed =
      [⟨.openidConnect, .owner⟩, ⟨.cognitoUserPools, .owner⟩, ⟨.awsIam, .signedIn⟩,
        ⟨.awsLambda, .custom⟩] := by
    rw [AuthCandidate.ofRules_eq, List.mergeSort_of_pairwise ascending]
    rfl
  exact ⟨same, by rw [same, ofRules, tried]⟩

end Candidates

end ModelSync
