import ModelSync.Proofs.KeyMap
import ModelSync.Request.RecordSelection

/-! Entries in name order. To put entries in order keeps those of one name as they were among one
another, and nothing else of the order they were listed in: lists that agree on the entries of
each name are put in the same order. -/
namespace ModelSync.Selection

variable {first second entries : List Selection}

/-- The names ascend. A name may occur several times. -/
def Ascending (entries : List Selection) : Prop := entries.Pairwise fun a b => a.name ≤ b.name

/-- The entries of a name. -/
def ofName (name : String) (entries : List Selection) : List Selection :=
  entries.filter fun entry => entry.name = name

theorem perm_sorted (entries : List Selection) : (sorted entries).Perm entries :=
  List.mergeSort_perm _ _

theorem ascending_sorted (entries : List Selection) : Ascending (sorted entries) :=
  pairwise_mergeSort_key Selection.name entries

/-- The entries of a name stay in the order that they were listed in. -/
theorem ofName_sorted (name : String) (entries : List Selection) :
    ofName name (sorted entries) = ofName name entries := by
  refine filter_mergeSort_key Selection.name ?_ entries
  intro a b own other
  exact (of_decide_eq_true own).trans (of_decide_eq_true other).symm

/-- A list in name order is determined by its entries of each name. -/
theorem eq_of_ofName (firstAscends : Ascending first) (secondAscends : Ascending second)
    (same : ∀ name, ofName name first = ofName name second) : first = second := by
  have named {entry : Selection} {entries : List Selection} (listed : entry ∈ entries) :
      entry ∈ ofName entry.name entries := by simp [ofName, listed]
  have listed {entry : Selection} {name : String} {entries : List Selection}
      (found : entry ∈ ofName name entries) : entry ∈ entries := (List.mem_filter.1 found).1
  induction first generalizing second with
  | nil =>
    cases second with
    | nil => rfl
    | cons entry rest => exact absurd (same entry.name) (by simp [ofName])
  | cons entry rest ih =>
    cases second with
    | nil => exact absurd (same entry.name) (by simp [ofName])
    | cons other others =>
      obtain ⟨above, restAscends⟩ := List.pairwise_cons.1 firstAscends
      obtain ⟨otherAbove, othersAscend⟩ := List.pairwise_cons.1 secondAscends
      -- Each head has a name that the other list holds as well, so neither name comes first.
      have least : entry.name = other.name := by
        apply String.le_antisymm
        · rcases List.mem_cons.1 (listed ((same other.name).symm ▸ named List.mem_cons_self)) with
            rfl | later
          · exact String.le_refl _
          · exact above other later
        · rcases List.mem_cons.1 (listed (same entry.name ▸ named List.mem_cons_self)) with
            rfl | later
          · exact String.le_refl _
          · exact otherAbove entry later
      have heads := same entry.name
      rw [ofName, ofName, List.filter_cons_of_pos (by simp), List.filter_cons_of_pos (by simp [least])]
        at heads
      obtain ⟨rfl, _⟩ := List.cons.inj heads
      congr 1
      apply ih restAscends othersAscend
      intro name
      have here := same name
      by_cases own : entry.name = name
      · simpa [ofName, own] using here
      · simpa [ofName, own] using here

/-- Lists that agree on the entries of each name are put in the same order. -/
theorem sorted_eq_of_ofName (same : ∀ name, ofName name first = ofName name second) :
    sorted first = sorted second := by
  apply eq_of_ofName (ascending_sorted first) (ascending_sorted second)
  intro name
  rw [ofName_sorted, ofName_sorted, same]

/-- Entries of different names are put in one order, however they are listed, and whatever follows
them. -/
theorem sorted_append_of_perm (perm : first.Perm second) (distinct : (first.map name).Nodup)
    (besides : List Selection) : sorted (first ++ besides) = sorted (second ++ besides) := by
  apply sorted_eq_of_ofName
  intro name
  have filtered : (ofName name first).Perm (ofName name second) := perm.filter _
  have apart : ((ofName name first).map Selection.name).Nodup :=
    distinct.sublist (List.filter_sublist.map _)
  have alike : ∀ entry ∈ ofName name first, entry.name = name := by simp [ofName]
  simp only [ofName, List.filter_append] at filtered apart alike ⊢
  congr 1
  -- There is at most one entry of the name, and a single entry has one order.
  match left : first.filter fun entry => entry.name = name with
  | [] => exact left.trans (left ▸ filtered).nil_eq
  | [entry] => exact left.trans (List.singleton_perm.1 (left ▸ filtered))
  | entry :: other :: rest =>
    rw [left] at apart alike
    have same : entry.name = other.name := by simp [alike]
    simp [same] at apart

end ModelSync.Selection
