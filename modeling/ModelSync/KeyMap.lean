/-! Finite maps from text keys, kept as entries in ascending key order. Two maps
with the same entries are the same value, so equality of maps is equality of what
they hold. The operations on plain entry lists serve JSON objects too. -/
namespace ModelSync

universe u v

/-- Keyed entries. Every list the library builds is in ascending key order. -/
abbrev Entries (α : Type u) := List (String × α)

namespace Entries

variable {α : Type u} {β : Type v}

/-- Keys strictly ascend, so no key occurs twice. -/
def Ordered (entries : Entries α) : Prop := entries.Pairwise fun a b => a.1 < b.1

/-- The value held under a key. -/
def get? (entries : Entries α) (key : String) : Option α :=
  match entries with
  | [] => none
  | (held, value) :: rest => if held = key then some value else get? rest key

/-- Put a value under a key, replacing what the key held. -/
def insert (key : String) (value : α) : Entries α → Entries α
  | [] => [(key, value)]
  | (held, old) :: rest =>
    if key < held then (key, value) :: (held, old) :: rest
    else if key = held then (key, value) :: rest
    else (held, old) :: insert key value rest

/-- Drop whatever a key holds. -/
def erase (entries : Entries α) (key : String) : Entries α :=
  entries.filter fun entry => entry.1 ≠ key

/-- Of several values for one key the last one is kept. -/
def ofList (pairs : List (String × α)) : Entries α :=
  pairs.foldl (fun entries pair => entries.insert pair.1 pair.2) []

theorem mem_keys_insert {entries : Entries α} {key : String} {value : α} {entry : String × α}
    (member : entry ∈ insert key value entries) : entry = (key, value) ∨ entry ∈ entries := by
  induction entries with
  | nil => simpa [insert] using member
  | cons head rest ih =>
    obtain ⟨held, old⟩ := head
    simp only [insert] at member
    split at member
    · simpa using member
    · split at member
      · rcases List.mem_cons.1 member with found | found
        · exact .inl found
        · exact .inr (List.mem_cons_of_mem _ found)
      · rcases List.mem_cons.1 member with found | found
        · exact .inr (found ▸ List.mem_cons_self)
        · exact (ih found).imp_right (List.mem_cons_of_mem _)

/-- Insertion keeps the keys in ascending order. -/
theorem ordered_insert {entries : Entries α} (ordered : entries.Ordered) (key : String)
    (value : α) : (insert key value entries).Ordered := by
  induction entries with
  | nil => simp [insert, Ordered]
  | cons head rest ih =>
    obtain ⟨held, old⟩ := head
    have above : ∀ entry ∈ rest, held < entry.1 := (List.pairwise_cons.1 ordered).1
    have tail : Ordered rest := (List.pairwise_cons.1 ordered).2
    simp only [insert]
    split
    case isTrue below =>
      refine List.pairwise_cons.2 ⟨fun entry member => ?_, ordered⟩
      rcases List.mem_cons.1 member with found | found
      · exact found ▸ below
      · exact String.lt_trans below (above entry found)
    case isFalse notBelow =>
      split
      case isTrue same =>
        subst same
        exact List.pairwise_cons.2 ⟨above, tail⟩
      case isFalse differs =>
        refine List.pairwise_cons.2 ⟨fun entry member => ?_, ih tail⟩
        rcases mem_keys_insert member with found | found
        · subst found
          rcases String.le_total key held with before | after
          · exact absurd (String.le_antisymm before (String.not_lt.1 notBelow)) differs
          · exact Decidable.byContradiction fun notLess =>
              differs (String.le_antisymm (String.not_lt.1 notLess) (String.not_lt.1 notBelow))
        · exact above entry found

/-- Dropping a key keeps the order of the others. -/
theorem ordered_erase {entries : Entries α} (ordered : entries.Ordered) (key : String) :
    (entries.erase key).Ordered :=
  List.Pairwise.filter _ ordered

theorem ordered_nil : Ordered ([] : Entries α) := List.Pairwise.nil

/-- What is put under a key is found there. -/
theorem get?_insert_self (entries : Entries α) (key : String) (value : α) :
    (insert key value entries).get? key = some value := by
  induction entries with
  | nil => simp [insert, get?]
  | cons head rest ih =>
    obtain ⟨held, old⟩ := head
    simp only [insert]
    split
    case isTrue => simp [get?]
    case isFalse =>
      split
      case isTrue => simp [get?]
      case isFalse differs => simp [get?, Ne.symm differs, ih]

/-- Insertion changes nothing under the other keys. -/
theorem get?_insert_of_ne (entries : Entries α) {key probe : String} (value : α)
    (differs : probe ≠ key) : (insert key value entries).get? probe = entries.get? probe := by
  have unlike : ¬key = probe := fun same => differs same.symm
  induction entries with
  | nil => simp [insert, get?, unlike]
  | cons head rest ih =>
    obtain ⟨held, old⟩ := head
    simp only [insert]
    split
    case isTrue => simp [get?, unlike]
    case isFalse =>
      split
      case isTrue same =>
        subst same
        simp [get?, unlike]
      case isFalse => simp [get?, ih]

theorem get?_insert (entries : Entries α) (key probe : String) (value : α) :
    (insert key value entries).get? probe =
      if probe = key then some value else entries.get? probe := by
  by_cases same : probe = key
  · subst same
    simp [get?_insert_self]
  · simp [get?_insert_of_ne entries value same, same]

/-- A dropped key holds nothing, and the others hold what they held. -/
theorem get?_erase (entries : Entries α) (key probe : String) :
    (entries.erase key).get? probe = if probe = key then none else entries.get? probe := by
  simp only [erase, ne_eq, decide_not]
  induction entries with
  | nil => simp [get?]
  | cons head rest ih =>
    obtain ⟨held, old⟩ := head
    by_cases dropped : held = key
    · subst dropped
      by_cases same : probe = held
      · subst same
        simpa using ih
      · simp [get?, ih, same, Ne.symm same]
    · by_cases same : held = probe
      · subst same
        simp [get?, dropped]
      · simp [get?, ih, dropped, same]

/-- The keys are the texts that something is found under. -/
theorem mem_keys_iff {entries : Entries α} {key : String} :
    key ∈ entries.map Prod.fst ↔ ∃ value, entries.get? key = some value := by
  induction entries with
  | nil => simp [get?]
  | cons head rest ih =>
    obtain ⟨held, old⟩ := head
    by_cases same : held = key
    · simp [get?, same]
    · simp only [List.map_cons, List.mem_cons, get?, same, ↓reduceIte, ← ih]
      exact or_iff_right (Ne.symm same)

/-- In ascending order a key has a single entry. -/
theorem get?_of_mem {entries : Entries α} (ordered : entries.Ordered) {key : String} {value : α}
    (member : (key, value) ∈ entries) : entries.get? key = some value := by
  induction entries with
  | nil => cases member
  | cons head rest ih =>
    obtain ⟨held, old⟩ := head
    obtain ⟨above, tail⟩ := List.pairwise_cons.1 ordered
    rcases List.mem_cons.1 member with same | later
    · cases same
      simp [get?]
    · have differs : held ≠ key := fun same =>
        String.lt_irrefl key (same ▸ above (key, value) later)
      simp [get?, differs, ih tail later]

/-- A change of the values changes what is found. -/
theorem get?_map (entries : Entries α) (change : α → β) (key : String) :
    Entries.get? (entries.map fun entry => (entry.1, change entry.2)) key =
      (entries.get? key).map change := by
  induction entries with
  | nil => rfl
  | cons head rest ih =>
    obtain ⟨held, old⟩ := head
    by_cases same : held = key
    · simp [get?, same]
    · simpa [get?, same] using ih

/-- A change of the values leaves the keys where they are. -/
theorem map_insert (entries : Entries α) (change : α → β) (key : String) (value : α) :
    (insert key value entries).map (fun entry => (entry.1, change entry.2)) =
      Entries.insert key (change value) (entries.map fun entry => (entry.1, change entry.2)) := by
  induction entries with
  | nil => rfl
  | cons head rest ih =>
    obtain ⟨held, old⟩ := head
    simp only [insert, List.map_cons]
    split
    · rfl
    · split
      · rfl
      · rw [List.map_cons, ih]

/-- Of several pairs for one key the last one counts. -/
def IsLast (pairs : List (String × α)) (key : String) (value : α) : Prop :=
  ∃ before after, pairs = before ++ (key, value) :: after ∧ ∀ pair ∈ after, pair.1 ≠ key

theorem isLast_cons {pair : String × α} {rest : List (String × α)} {key : String} {value : α} :
    IsLast (pair :: rest) key value ↔
      IsLast rest key value ∨ pair = (key, value) ∧ ∀ other ∈ rest, other.1 ≠ key := by
  constructor
  · rintro ⟨before, after, same, last⟩
    cases before with
    | nil =>
      obtain ⟨rfl, rfl⟩ := List.cons.inj same
      exact .inr ⟨rfl, last⟩
    | cons first before =>
      obtain ⟨rfl, rfl⟩ := List.cons.inj same
      exact .inl ⟨before, after, rfl, last⟩
  · rintro (⟨before, after, rfl, last⟩ | ⟨rfl, last⟩)
    · exact ⟨pair :: before, after, rfl, last⟩
    · exact ⟨[], rest, rfl, last⟩

private theorem get?_foldl_insert (pairs : List (String × α)) (entries : Entries α) (key : String)
    (value : α) :
    (pairs.foldl (fun entries pair => entries.insert pair.1 pair.2) entries).get? key = some value ↔
      IsLast pairs key value ∨
        (∀ pair ∈ pairs, pair.1 ≠ key) ∧ entries.get? key = some value := by
  induction pairs generalizing entries with
  | nil => simp [IsLast]
  | cons pair rest ih =>
    obtain ⟨own, given⟩ := pair
    rw [List.foldl_cons, ih, isLast_cons, get?_insert, List.forall_mem_cons]
    by_cases same : key = own
    · subst same
      simp [and_comm]
    · simp [same, Ne.symm same]

/-- What a map of pairs holds under a key is the last that was given for it. -/
theorem get?_ofList (pairs : List (String × α)) (key : String) (value : α) :
    (ofList pairs).get? key = some value ↔ IsLast pairs key value := by
  simp [ofList, get?_foldl_insert, get?]

theorem ordered_ofList (pairs : List (String × α)) : (ofList pairs).Ordered := by
  have kept : ∀ entries : Entries α, entries.Ordered →
      (pairs.foldl (fun entries pair => entries.insert pair.1 pair.2) entries).Ordered := by
    induction pairs with
    | nil => exact fun _ ordered => ordered
    | cons pair rest ih => exact fun _ ordered => ih _ (ordered_insert ordered _ _)
  exact kept [] ordered_nil

end Entries

/-- A finite map from text keys. -/
@[ext] structure KeyMap (α : Type u) where
  entries : Entries α
  ordered : entries.Ordered := by simp [Entries.Ordered]

namespace KeyMap

variable {α : Type u}

def empty : KeyMap α where
  entries := []
  ordered := Entries.ordered_nil

instance [DecidableEq α] : DecidableEq (KeyMap α) := fun a b =>
  decidable_of_iff (a.entries = b.entries) KeyMap.ext_iff.symm

/-- The keys in ascending order. -/
def keys (map : KeyMap α) : List String := map.entries.map Prod.fst

def get? (map : KeyMap α) (key : String) : Option α := map.entries.get? key

/-- Put a value under a key, replacing what the key held. -/
def insert (map : KeyMap α) (key : String) (value : α) : KeyMap α where
  entries := map.entries.insert key value
  ordered := Entries.ordered_insert map.ordered key value

/-- Of several values for one key the last one is kept. -/
def ofList (pairs : List (String × α)) : KeyMap α :=
  pairs.foldl (fun map pair => map.insert pair.1 pair.2) empty

end KeyMap

end ModelSync
