import Mathlib.Data.List.Forall2
import ModelSync.Proofs.Json.Structure

/-! Structures that are written more loosely than the library writes them. A member that has its
default may be left out, and members that the structure does not have may be there; at any depth.
What a decoder reads of a field is the same, whichever way it is written. -/
namespace ModelSync

/-- How a field of a structure is written: under a key, with a default if it may be left out, and in
which ways its value may be written otherwise. -/
structure FieldForm where
  key : String
  default : Option Json := none
  inside : Json → Json → Prop := Eq

/-- The field that a structure has under a key. -/
def formFor (forms : List FieldForm) (key : String) : Option FieldForm :=
  forms.find? fun form => form.key = key

/-- What may become of a member. -/
inductive LooseMember (forms : List FieldForm) (key : String) :
    Option Json → Option Json → Prop where
  | absent : LooseMember forms key none none
  | kept {form : FieldForm} {old new : Json} (known : formFor forms key = some form)
      (inside : form.inside old new) : LooseMember forms key (some old) (some new)
  | dropped {form : FieldForm} {old : Json} (known : formFor forms key = some form)
      (default : form.default = some old) : LooseMember forms key (some old) none
  | added {new : Json} (unknown : formFor forms key = none) : LooseMember forms key none (some new)

/-- The members of a structure, written more loosely. -/
def LooseMembers (forms : List FieldForm) (old new : List (String × Json)) : Prop :=
  ∀ key, LooseMember forms key (Entries.get? old key) (Entries.get? new key)

/-- A structure, written more loosely. -/
inductive Loose (forms : List FieldForm) : Json → Json → Prop where
  | object {old new : List (String × Json)} (members : LooseMembers forms old new) :
      Loose forms (.obj old) (.obj new)

/-- A list of which the items are written otherwise. -/
inductive LooseItems (inside : Json → Json → Prop) : Json → Json → Prop where
  | list {old new : List Json} (items : List.Forall₂ inside old new) :
      LooseItems inside (.arr old) (.arr new)

/-- A map of which the values are written otherwise, and its keys are as they were. -/
inductive LooseValues (inside : Json → Json → Prop) : Json → Json → Prop where
  | map {old new : List (String × Json)}
      (values : List.Forall₂ (fun a b => a.1 = b.1 ∧ inside a.2 b.2) old new) :
      LooseValues inside (.obj old) (.obj new)

theorem Loose.exists_members {forms : List FieldForm} {old : List (String × Json)} {json : Json}
    (loose : Loose forms (.obj old) json) :
    ∃ new, json = .obj new ∧ LooseMembers forms old new := by
  cases loose with
  | object members => exact ⟨_, rfl, members⟩

variable {forms : List FieldForm} {old new : List (String × Json)} {key : String} {held : Json}
  {inside : Json → Json → Prop} {α : Type}

namespace LooseMembers

/-- A member without a default stays. -/
theorem required (loose : LooseMembers forms old new)
    (known : formFor forms key = some ⟨key, none, inside⟩)
    (found : Entries.get? old key = some held) :
    ∃ kept, Entries.get? new key = some kept ∧ inside held kept := by
  have member := loose key
  rw [found] at member
  generalize Entries.get? new key = read at member ⊢
  cases member with
  | kept own alike =>
    cases known.symm.trans own
    exact ⟨_, rfl, alike⟩
  | dropped own default =>
    cases known.symm.trans own
    cases default

/-- A member with a default stays, or it had the default. -/
theorem defaulted {default : Json} (loose : LooseMembers forms old new)
    (known : formFor forms key = some ⟨key, some default, inside⟩)
    (found : Entries.get? old key = some held) :
    (∃ kept, Entries.get? new key = some kept ∧ inside held kept) ∨
      Entries.get? new key = none ∧ held = default := by
  have member := loose key
  rw [found] at member
  generalize Entries.get? new key = read at member ⊢
  cases member with
  | kept own alike =>
    cases known.symm.trans own
    exact .inl ⟨_, rfl, alike⟩
  | dropped own given =>
    cases known.symm.trans own
    exact .inr ⟨rfl, (Option.some.inj given).symm⟩

/-- A field of the structure is not added. -/
theorem absent {form : FieldForm} (loose : LooseMembers forms old new)
    (known : formFor forms key = some form) (missing : Entries.get? old key = none) :
    Entries.get? new key = none := by
  have member := loose key
  rw [missing] at member
  generalize Entries.get? new key = read at member ⊢
  cases member with
  | absent => rfl
  | added unknown =>
    rw [known] at unknown
    cases unknown

/-- Only the members that are written matter, when no field is added. -/
theorem of_written {pairs : List (String × Json)}
    (written : ∀ key ∈ pairs.map Prod.fst,
      LooseMember forms key (Entries.get? pairs.reverse key) (Entries.get? new key))
    (others : ∀ key ∈ new.map Prod.fst, key ∈ pairs.map Prod.fst ∨ formFor forms key = none) :
    LooseMembers forms (Entries.ofList pairs) new := by
  intro key
  rw [Entries.get?_ofList_eq]
  by_cases mine : key ∈ pairs.map Prod.fst
  · exact written key mine
  · rw [Entries.get?_eq_none_iff.2 (by simpa using mine)]
    cases found : Entries.get? new key with
    | none => exact .absent
    | some held =>
      have listed : key ∈ new.map Prod.fst :=
        List.mem_map.2 ⟨_, Entries.mem_of_get? found, rfl⟩
      exact .added ((others key listed).resolve_left mine)

/-- What is written of the fields of a structure is one of the ways to write them. -/
theorem ofList_self {pairs : List (String × Json)}
    (each : ∀ entry ∈ pairs, ∃ form, formFor forms entry.1 = some form ∧
      form.inside entry.2 entry.2) :
    LooseMembers forms (Entries.ofList pairs) (Entries.ofList pairs) := by
  intro key
  cases found : Entries.get? (Entries.ofList pairs) key with
  | none => exact .absent
  | some held =>
    rw [Entries.get?_ofList_eq] at found
    obtain ⟨form, known, inside⟩ := each _ (List.mem_reverse.1 (Entries.mem_of_get? found))
    exact .kept known inside

end LooseMembers

/-! ## Reading -/

variable {decode : Decoder α} {encode : α → Json} {value fallback : α}

namespace LooseMembers

/-- A field without a default is read. -/
theorem field_required (loose : LooseMembers forms old new) (held : Json)
    (known : formFor forms key = some ⟨key, none, inside⟩)
    (found : Entries.get? old key = some held)
    (reads : ∀ kept, inside held kept → decode kept = .ok value) :
    Decode.field new key decode = .ok (some value) := by
  obtain ⟨kept, read, alike⟩ := loose.required known found
  simp only [Decode.field, read, reads kept alike]
  rfl

/-- A field with a default is read, or it had the default. -/
theorem field_defaulted {default : Json} (loose : LooseMembers forms old new) (held : Json)
    (known : formFor forms key = some ⟨key, some default, inside⟩)
    (found : Entries.get? old key = some held)
    (reads : ∀ kept, inside held kept → decode kept = .ok value)
    (same : held = default → value = fallback) :
    ∃ read, Decode.field new key decode = .ok read ∧ read.getD fallback = value := by
  rcases loose.defaulted known found with ⟨kept, read, alike⟩ | ⟨missing, given⟩
  · refine ⟨some value, ?_, rfl⟩
    simp only [Decode.field, read, reads kept alike]
    rfl
  · refine ⟨none, ?_, (same given).symm⟩
    simp only [Decode.field, missing]

/-- A field that is written only where there is a value. -/
theorem field_optional {written : Option α} (loose : LooseMembers forms old new)
    (encode : α → Json) (known : formFor forms key = some ⟨key, none, inside⟩)
    (found : Entries.get? old key = written.map encode)
    (reads : ∀ value kept, inside (encode value) kept →
      Decode.optional decode kept = .ok (some value)) :
    ∃ read, Decode.field new key (Decode.optional decode) = .ok read ∧ read.join = written := by
  cases written with
  | none =>
    refine ⟨none, ?_, rfl⟩
    simp only [Decode.field, loose.absent known found]
  | some value =>
    exact ⟨some (some value), loose.field_required _ known found (reads value), rfl⟩

/-- A field without a default and with a value that is written in one way. -/
theorem field_plain (loose : LooseMembers forms old new) (held : Json)
    (known : formFor forms key = some { key }) (found : Entries.get? old key = some held)
    (done : decode held = .ok value) : Decode.field new key decode = .ok (some value) :=
  loose.field_required held known found fun _ same => same ▸ done

/-- A field with a default and with a value that is written in one way. -/
theorem field_plainDefaulted {default : Json} (loose : LooseMembers forms old new) (held : Json)
    (known : formFor forms key = some { key, default := some default })
    (found : Entries.get? old key = some held) (done : decode held = .ok value)
    (same : held = default → value = fallback) :
    ∃ read, Decode.field new key decode = .ok read ∧ read.getD fallback = value :=
  loose.field_defaulted held known found (fun _ same => same ▸ done) same

end LooseMembers

theorem list_of_looseItems {values : List α} {json : Json}
    (loose : LooseItems inside (.arr (values.map encode)) json)
    (reads : ∀ value kept, inside (encode value) kept → decode kept = .ok value) :
    Decode.list decode json = .ok values := by
  cases loose with
  | @list _ items alike =>
    refine (Decode.items_eq_ok_iff fun _ _ => Iff.rfl).2 ?_
    exact (List.forall₂_map_left_iff.1 alike).imp reads

theorem looseItems_self (each : ∀ value, inside (encode value) (encode value)) (values : List α) :
    LooseItems inside (.arr (values.map encode)) (.arr (values.map encode)) :=
  .list (List.forall₂_map_left_iff.2 (List.forall₂_map_right_iff.2
    (List.forall₂_same.2 fun value _ => each value)))

theorem looseValues_self (each : ∀ value, inside (encode value) (encode value))
    (entries : Entries α) :
    LooseValues inside (.obj (entries.map fun entry => (entry.1, encode entry.2)))
      (.obj (entries.map fun entry => (entry.1, encode entry.2))) :=
  .map (List.forall₂_map_left_iff.2 (List.forall₂_map_right_iff.2
    (List.forall₂_same.2 fun entry _ => ⟨rfl, each entry.2⟩)))

private theorem members_of_forall₂ {entries : Entries α} {read : List (String × Json)}
    (ordered : entries.Ordered)
    (alike : List.Forall₂ (fun entry member => entry.1 = member.1 ∧
      decode member.2 = .ok entry.2) entries read) :
    Decode.members decode read = .ok ⟨entries, ordered⟩ := by
  induction alike with
  | nil => rfl
  | @cons entry member rest later own _ ih =>
    obtain ⟨key, value⟩ := entry
    obtain ⟨held, json⟩ := member
    obtain ⟨rfl, done⟩ := own
    obtain ⟨above, tail⟩ := List.pairwise_cons.1 ordered
    rw [Decode.members, done, ih tail]
    refine congrArg Except.ok (KeyMap.ext ?_)
    exact Entries.insert_of_before above

theorem map_of_looseValues {map : KeyMap α} {json : Json}
    (loose : LooseValues inside
      (.obj (map.entries.map fun entry => (entry.1, encode entry.2))) json)
    (reads : ∀ value kept, inside (encode value) kept → decode kept = .ok value) :
    Decode.map decode json = .ok map := by
  cases loose with
  | @map _ read alike =>
    rw [List.forall₂_map_left_iff] at alike
    refine members_of_forall₂ map.ordered (alike.imp ?_)
    rintro entry member ⟨same, own⟩
    exact ⟨same, reads _ _ own⟩

end ModelSync
