import ModelSync.Authorization

/-! What the rules of a model give to try. Each rule gives its candidate and none gives anything
else, so a model with rules always has a first candidate, and at most as many as it has rules. -/
namespace ModelSync

namespace AuthCandidate

/-- The candidate that a rule gives. -/
def ofRule (rule : AuthRule) : AuthCandidate := ⟨AuthType.forRule rule, rule.strategy⟩

/-- The candidates kept after those of another rule. -/
def keep (kept : List AuthCandidate) (rule : AuthRule) : List AuthCandidate :=
  if ofRule rule ∈ kept then kept else kept ++ [ofRule rule]

private theorem mem_keep {kept : List AuthCandidate} {rule : AuthRule} {candidate : AuthCandidate} :
    candidate ∈ keep kept rule ↔ candidate ∈ kept ∨ candidate = ofRule rule := by
  unfold keep
  split
  case isTrue known => exact ⟨.inl, fun either => either.elim id fun same => same ▸ known⟩
  case isFalse => simp

theorem mem_foldl_keep {rules : List AuthRule} {kept : List AuthCandidate}
    {candidate : AuthCandidate} :
    candidate ∈ rules.foldl keep kept ↔
      candidate ∈ kept ∨ ∃ rule ∈ rules, candidate = ofRule rule := by
  induction rules generalizing kept with
  | nil => simp
  | cons rule rest ih => simp [ih, mem_keep, or_assoc]

private theorem length_foldl_keep_le (rules : List AuthRule) (kept : List AuthCandidate) :
    (rules.foldl keep kept).length ≤ kept.length + rules.length := by
  induction rules generalizing kept with
  | nil => exact Nat.le_refl _
  | cons rule rest ih =>
    have one : (keep kept rule).length ≤ kept.length + 1 := by
      unfold keep
      split <;> simp
    have others := ih (keep kept rule)
    simp only [List.foldl_cons, List.length_cons]
    omega

theorem ofRules_eq (rules : List AuthRule) :
    ofRules rules =
      (rules.mergeSort fun a b => a.strategy.rank ≤ b.strategy.rank).foldl keep [] := rfl

/-- The candidates are those of the rules. -/
theorem mem_ofRules {rules : List AuthRule} {candidate : AuthCandidate} :
    candidate ∈ ofRules rules ↔ ∃ rule ∈ rules, candidate = ofRule rule := by
  simp [ofRules_eq, mem_foldl_keep]

private theorem length_ofRules_le (rules : List AuthRule) :
    (ofRules rules).length ≤ rules.length := by
  have kept := length_foldl_keep_le
    (rules.mergeSort fun a b => a.strategy.rank ≤ b.strategy.rank) []
  simpa [ofRules_eq] using kept

private theorem ofRules_ne_nil {rules : List AuthRule} (ruled : rules ≠ []) :
    ofRules rules ≠ [] := by
  obtain ⟨rule, listed⟩ := List.exists_mem_of_ne_nil rules ruled
  exact List.ne_nil_of_mem (mem_ofRules.2 ⟨rule, listed, rfl⟩)

end AuthCandidate

namespace Candidates

/-- A source has something to try, never fails, and ends within a number of items. -/
structure Sure (source : Candidates) (count : Nat) : Prop where
  first : (source.attempt? 0).isSome = true
  clean : ∀ position error, source.attempt? position ≠ some (.error error)
  ended : ∀ position, count ≤ position → source.attempt? position = none

theorem sure_fixed (type : AuthType) : (Candidates.fixed type).Sure 1 where
  first := rfl
  clean position error found := by cases position <;> cases found
  ended position past := by
    cases position with
    | zero => cases past
    | succ => rfl

theorem sure_ofRules {rules : List AuthRule} (ruled : rules ≠ []) :
    (ofRules rules).Sure rules.length where
  first := by
    have within := List.length_pos_iff.2 (AuthCandidate.ofRules_ne_nil ruled)
    simp [ofRules, ofList, attempt?, within]
  clean position error found := by
    simp only [ofRules, ofList, attempt?, List.getElem?_map, Option.map_map] at found
    obtain ⟨candidate, -, impossible⟩ := Option.map_eq_some_iff.1 found
    cases impossible
  ended position past := by
    have short := AuthCandidate.length_ofRules_le rules
    simp only [ofRules, ofList, attempt?, List.getElem?_map, Option.map_map, Option.map_eq_none_iff,
      List.getElem?_eq_none_iff]
    omega

end Candidates

end ModelSync
