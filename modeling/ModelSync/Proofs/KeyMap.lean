import ModelSync.KeyMap

/-! Maps known by what is found in them. Entries in key order are determined by what they hold under
each key, and a map that is built pair by pair by the last pair for each key. So pairs with
different keys may change places. Values that are sorted by a key stay in order within one key. -/
namespace ModelSync

universe u v

namespace Entries

variable {α : Type u} {β : Type v} {first second entries : Entries α}

theorem mem_of_get? {key : String} {value : α} (found : entries.get? key = some value) :
    (key, value) ∈ entries := by
  induction entries with
  | nil => cases found
  | cons head rest ih =>
    obtain ⟨held, own⟩ := head
    by_cases same : held = key
    · subst same
      simp only [get?, ↓reduceIte, Option.some.injEq] at found
      exact found ▸ List.mem_cons_self
    · simp only [get?, same, ↓reduceIte] at found
      exact List.mem_cons_of_mem _ (ih found)

theorem mem_iff_get? (ordered : entries.Ordered) {key : String} {value : α} :
    (key, value) ∈ entries ↔ entries.get? key = some value :=
  ⟨get?_of_mem ordered, mem_of_get?⟩

theorem Ordered.nodup (ordered : entries.Ordered) : entries.Nodup := by
  refine List.Pairwise.imp ?_ ordered
  rintro a b less rfl
  exact String.lt_irrefl _ less

/-- Entries in key order that hold the same under each key are the same. -/
theorem eq_of_get? (firstOrdered : first.Ordered) (secondOrdered : second.Ordered)
    (same : ∀ key, first.get? key = second.get? key) : first = second := by
  -- Both are strictly ascending, so it is enough that they have the same entries.
  have members : first.Perm second := by
    refine (List.perm_ext_iff_of_nodup firstOrdered.nodup secondOrdered.nodup).2 ?_
    rintro ⟨key, value⟩
    rw [mem_iff_get? firstOrdered, mem_iff_get? secondOrdered, same]
  refine List.Perm.eq_of_pairwise ?_ firstOrdered secondOrdered members
  intro a b _ _ less greater
  exact absurd greater (String.lt_asymm less)

/-- A key before all others comes first. -/
theorem insert_of_before {key : String} {value : α} (before : ∀ entry ∈ entries, key < entry.1) :
    insert key value entries = (key, value) :: entries := by
  cases entries with
  | nil => rfl
  | cons head rest => exact if_pos (before head List.mem_cons_self)

/-- What the entries of a key alone hold under it. -/
theorem get?_ofKey (entries : Entries α) (key : String) :
    Entries.get? (entries.filter fun entry => entry.1 = key) key = entries.get? key := by
  induction entries with
  | nil => rfl
  | cons head rest ih =>
    obtain ⟨held, own⟩ := head
    by_cases same : held = key <;> simp [get?, same, ih]

theorem get?_append (first second : Entries α) (key : String) :
    Entries.get? (first ++ second) key = (first.get? key).or (second.get? key) := by
  induction first with
  | nil => simp [get?]
  | cons head rest ih =>
    obtain ⟨held, own⟩ := head
    by_cases same : held = key <;> simp [get?, same, ih]

private theorem get?_foldl_insert_eq (pairs : List (String × α)) (entries : Entries α)
    (key : String) :
    (pairs.foldl (fun entries pair => entries.insert pair.1 pair.2) entries).get? key =
      (Entries.get? pairs.reverse key).or (entries.get? key) := by
  induction pairs generalizing entries with
  | nil => simp [get?]
  | cons pair rest ih =>
    obtain ⟨own, given⟩ := pair
    rw [List.foldl_cons, ih, get?_insert, List.reverse_cons, get?_append]
    by_cases same : own = key
    · simp [get?, same]
    · simp [get?, same, Ne.symm same]

/-- Of several pairs for a key the last one counts: the first that is met from the end. -/
theorem get?_ofList_eq (pairs : List (String × α)) (key : String) :
    (ofList pairs).get? key = Entries.get? pairs.reverse key := by
  rw [ofList, get?_foldl_insert_eq, get?, Option.or_none]

theorem get?_eq_none_iff {key : String} :
    entries.get? key = none ↔ key ∉ entries.map Prod.fst := by
  rw [mem_keys_iff, ← Option.isSome_iff_exists, Option.not_isSome_iff_eq_none]

/-- Pairs of different keys may change places. -/
theorem ofList_eq_of_ofKey {pairs others : List (String × α)}
    (same : ∀ key,
      (pairs.filter fun pair => pair.1 = key) = others.filter fun pair => pair.1 = key) :
    ofList pairs = ofList others := by
  refine eq_of_get? (ordered_ofList pairs) (ordered_ofList others) fun key => ?_
  rw [get?_ofList_eq, get?_ofList_eq, ← get?_ofKey pairs.reverse, ← get?_ofKey others.reverse,
    List.filter_reverse, List.filter_reverse, same]

private theorem map_foldl_insert (pairs : List (String × α)) (entries : Entries α)
    (change : α → β) :
    (pairs.map fun pair => (pair.1, change pair.2)).foldl
        (fun entries pair => Entries.insert pair.1 pair.2 entries)
        (entries.map fun entry => (entry.1, change entry.2)) =
      (pairs.foldl (fun entries pair => Entries.insert pair.1 pair.2 entries) entries).map
        fun entry => (entry.1, change entry.2) := by
  induction pairs generalizing entries with
  | nil => rfl
  | cons pair rest ih => rw [List.map_cons, List.foldl_cons, List.foldl_cons, ← ih, map_insert]

/-- A change of the values may be made before or after a map is built. -/
theorem ofList_map (pairs : List (String × α)) (change : α → β) :
    ofList (pairs.map fun pair => (pair.1, change pair.2)) =
      (ofList pairs).map fun entry => (entry.1, change entry.2) :=
  map_foldl_insert pairs [] change

end Entries

namespace KeyMap

variable {α : Type u} {first second : KeyMap α}

/-- Maps that hold the same under each key are the same. -/
theorem eq_of_get? (same : ∀ key, first.get? key = second.get? key) : first = second :=
  KeyMap.ext (Entries.eq_of_get? first.ordered second.ordered same)

end KeyMap

/-! ## Sorting by a key -/

section SortedByKey

variable {α : Type u} {κ : Type v} [LE κ] [DecidableLE κ] [Std.IsLinearPreorder κ] (key : α → κ)

private theorem keyLe_trans (a b c : α) (ab : decide (key a ≤ key b) = true)
    (bc : decide (key b ≤ key c) = true) : decide (key a ≤ key c) = true := by
  simp only [decide_eq_true_eq] at ab bc ⊢
  exact Std.le_trans ab bc

private theorem keyLe_total (a b : α) :
    (decide (key a ≤ key b) || decide (key b ≤ key a)) = true := by
  simpa using Std.le_total (a := key a) (b := key b)

/-- Sorted values have ascending keys. -/
theorem pairwise_mergeSort_key (values : List α) :
    (values.mergeSort fun a b => key a ≤ key b).Pairwise fun a b => key a ≤ key b :=
  (List.pairwise_mergeSort (keyLe_trans key) (keyLe_total key) values).imp of_decide_eq_true

/-- Values that all have one key are in the same order before and after sorting. -/
theorem filter_mergeSort_key {kept : α → Bool}
    (level : ∀ a b, kept a = true → kept b = true → key a = key b) (values : List α) :
    (values.mergeSort fun a b => key a ≤ key b).filter kept = values.filter kept := by
  have alike : (values.filter kept).Pairwise fun a b => decide (key a ≤ key b) = true := by
    apply List.pairwise_of_forall_mem_list
    intro a aListed b bListed
    have same := level a b (List.mem_filter.1 aListed).2 (List.mem_filter.1 bListed).2
    exact decide_eq_true (same ▸ Std.le_refl _)
  have found : (values.filter kept).Sublist (values.mergeSort fun a b => key a ≤ key b) :=
    List.sublist_mergeSort (keyLe_trans key) (keyLe_total key) alike List.filter_sublist
  have among : (values.filter kept).Sublist
      ((values.mergeSort fun a b => key a ≤ key b).filter kept) := by
    simpa only [List.filter_filter, Bool.and_self] using found.filter kept
  refine (among.eq_of_length ?_).symm
  exact ((List.mergeSort_perm values _).filter kept).length_eq.symm

end SortedByKey

end ModelSync
