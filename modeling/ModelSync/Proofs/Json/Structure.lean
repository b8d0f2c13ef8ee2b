import Mathlib.Data.List.Forall2
import ModelSync.Json.Decode
import ModelSync.Proofs.Except
import ModelSync.Proofs.KeyMap

/-! Structures by their parts, which an object has under names and a list at positions. A way to
write a value is a relation between the two, given apart from the decoders. The `_eq_ok_iff` lemmas
tie each decoder to such a relation: it reads what is written that way, as the value that it is
written of, and nothing else. -/
namespace ModelSync

namespace Json

/-- A part of a structure: under a name in an object, at a position in a list. -/
def part? : Json → String → Nat → Option Json
  | .obj members, name, _ => Entries.get? members name
  | .arr elements, _, position => elements[position]?
  | _, _, _ => none

/-- What a part holds that may be null: a null is as good as no part. -/
def given? : Option Json → Option Json
  | some .null => none
  | part => part

theorem part?_ofMembers (pairs : List (String × Json)) (name : String) (position : Nat) :
    (ofMembers pairs).part? name position = Entries.get? pairs.reverse name :=
  Entries.get?_ofList_eq pairs name

theorem given?_given? (part : Option Json) : given? (given? part) = given? part := by
  match part with
  | none | some .null => rfl
  | some (.bool _) | some (.num _) | some (.str _) | some (.arr _) | some (.obj _) => rfl

/-- A null may be written for what is not there. -/
theorem given?_getD_null (part : Option Json) : given? (some (part.getD .null)) = given? part := by
  cases part <;> rfl

end Json

/-- A structure is an object, or a list with no more elements than it has fields. -/
inductive Structured (size : Nat) : Json → Prop where
  | object (members : List (String × Json)) : Structured size (.obj members)
  | list {elements : List Json} (fits : elements.length ≤ size) : Structured size (.arr elements)

/-- A list is written item by item, and may be left out if it is empty. -/
inductive Listed {α : Type} (written : α → Json → Prop) : List α → Option Json → Prop where
  | absent : Listed written [] none
  | items {values : List α} {elements : List Json} (each : List.Forall₂ written values elements) :
      Listed written values (some (.arr elements))

variable {α : Type} {written : α → Json → Prop} {values : List α} {part : Option Json}

namespace Listed

theorem eq_nil_iff (listed : Listed written values part) :
    values = [] ↔ part = none ∨ part = some (.arr []) := by
  cases listed with
  | absent => simp
  | items each => cases each <;> simp

/-- Values that are written in some way may be written in another, if each of them may. -/
theorem map {other : α → Json → Prop} {encode : α → Json} (listed : Listed written values part)
    (each : ∀ value json, written value json → other value (encode value)) :
    Listed other values (some (.arr (values.map encode))) := by
  refine .items (List.forall₂_map_right_iff.2 ?_)
  cases listed with
  | absent => exact .nil
  | items alike =>
    induction alike with
    | nil => exact .nil
    | cons own _ ih => exact .cons (each _ _ own) ih

end Listed

namespace Decode

variable {decode : Decoder α} {name : String} {members : List (String × Json)}
  {elements : List Json} {read : Option α} {value : α} {json : Json}

/-- What is read of a part, which may be absent. -/
inductive Reads (decode : Decoder α) : Option Json → Option α → Prop where
  | absent : Reads decode none none
  | found {json : Json} {value : α} (read : decode json = .ok value) :
      Reads decode (some json) (some value)

theorem reads_none_iff : Reads decode none read ↔ .ok none = (.ok read : Except DecodeError _) := by
  constructor
  · rintro ⟨⟩
    rfl
  · rintro ⟨⟩
    exact .absent

theorem reads_some_iff : Reads decode (some json) read ↔ some <$> decode json = .ok read := by
  rw [Except.map_eq_ok_iff]
  constructor
  · rintro (_ | done)
    exact ⟨_, done, rfl⟩
  · rintro ⟨value, done, rfl⟩
    exact .found done

/-! ## Parts of an object and of a list -/

theorem field_eq_ok_iff :
    field members name decode = .ok read ↔ Reads decode (Entries.get? members name) read := by
  rw [field]
  cases Entries.get? members name with
  | none => exact reads_none_iff.symm
  | some json => exact reads_some_iff.symm

theorem present_eq_ok_iff : present name read = .ok value ↔ read = some value := by
  cases read <;> simp [present]

theorem element_eq_ok_iff {position : Nat} :
    element elements position decode = .ok read ↔ Reads decode elements[position]? read := by
  rw [element]
  cases elements[position]? with
  | none => exact reads_none_iff.symm
  | some json => exact reads_some_iff.symm

theorem requiredElement_eq_ok_iff {shape : Shape} {position : Nat} :
    requiredElement shape elements position decode = .ok value ↔
      Reads decode elements[position]? (some value) := by
  rw [requiredElement, Except.bind_eq_ok_iff, ← element_eq_ok_iff]
  constructor
  · rintro ⟨_ | held, found, done⟩
    · cases done
    · cases done
      exact found
  · exact fun found => ⟨some value, found, rfl⟩

/-- A structure is read by its parts if both of its readers go by them. -/
theorem struct_eq_ok_iff {shape : Shape} {parts : α → Json → Prop}
    {ofMembers : List (String × Json) → Except DecodeError α}
    {ofElements : List Json → Except DecodeError α}
    (object : ∀ members, ofMembers members = .ok value ↔ parts value (.obj members))
    (list : ∀ elements, ofElements elements = .ok value ↔ parts value (.arr elements)) :
    struct shape ofMembers ofElements json = .ok value ↔
      Structured shape.size json ∧ parts value json := by
  cases json with
  | obj members =>
    rw [← object]
    exact (and_iff_right (.object members)).symm
  | arr elements =>
    rw [← list, struct, Except.bind_eq_ok_iff]
    constructor
    · rintro ⟨read, found, done⟩
      by_cases fits : elements.length ≤ shape.size
      · rw [if_pos fits] at done
        cases done
        exact ⟨.list fits, found⟩
      · rw [if_neg fits] at done
        cases done
    · rintro ⟨⟨⟩ | ⟨fits⟩, found⟩
      exact ⟨value, found, if_pos fits⟩
  | null | bool | num | str =>
    refine iff_of_false ?_ ?_
    · rintro ⟨⟩
    · rintro ⟨⟨⟩, _⟩

/-! ## Texts and numbers -/

theorem text_eq_ok_iff {content : String} : text json = .ok content ↔ json = .str content := by
  cases json <;> simp [text, mismatch]

theorem natural_eq_ok_iff {bound number : Nat} {expected : Expected} :
    natural bound expected json = .ok number ↔
      number < bound ∧ ∃ bounded, json = .num (.integer number bounded) := by
  constructor
  · intro done
    match json, done with
    | .num (.integer whole bounded), done =>
      simp only [natural] at done
      split at done
      case isTrue fits =>
        cases done
        obtain ⟨number, rfl⟩ := Int.eq_ofNat_of_zero_le fits.1
        exact ⟨fits.2, bounded, rfl⟩
      case isFalse => cases done
  · rintro ⟨fits, bounded, rfl⟩
    exact if_pos ⟨Int.natCast_nonneg number, fits⟩

theorem unsigned32_eq_ok_iff {count : UInt32} :
    unsigned32 json = .ok count ↔ json = .ofUInt32 count := by
  simp only [unsigned32, Except.map_eq_ok_iff, natural_eq_ok_iff]
  constructor
  · rintro ⟨number, ⟨fits, bounded, rfl⟩, rfl⟩
    simp only [Json.ofUInt32, Number.ofUInt32, UInt32.toNat_ofNat_of_lt' fits]
  · rintro rfl
    exact ⟨count.toNat, ⟨count.toNat_lt, _, rfl⟩, UInt32.ofNat_toNat⟩

/-- A part that has to be there, of a value that is written in one way. -/
theorem reads_required_iff {held : Json} (one : ∀ json, decode json = .ok value ↔ json = held) :
    Reads decode part (some value) ↔ part = some held := by
  constructor
  · rintro (_ | done)
    rw [(one _).1 done]
  · rintro rfl
    exact .found ((one held).2 rfl)

theorem reads_text_iff {content : String} :
    Reads text part (some content) ↔ part = some (.str content) :=
  reads_required_iff fun _ => text_eq_ok_iff

theorem reads_unsigned32_iff {count : UInt32} :
    Reads unsigned32 part (some count) ↔ part = some (.ofUInt32 count) :=
  reads_required_iff fun _ => unsigned32_eq_ok_iff

/-! ## Lists and options -/

/-- Items are read one by one, and in their order. -/
theorem items_eq_ok_iff (one : ∀ value json, decode json = .ok value ↔ written value json) :
    items decode elements = .ok values ↔ List.Forall₂ written values elements := by
  induction elements generalizing values with
  | nil => rw [items, List.forall₂_nil_right_iff, Except.ok.injEq, eq_comm]
  | cons json rest ih =>
    simp only [items, Except.bind_eq_ok_iff, one, ih, List.forall₂_cons_right_iff]
    constructor
    · rintro ⟨first, own, others, alike, done⟩
      cases done
      exact ⟨first, others, own, alike, rfl⟩
    · rintro ⟨first, others, own, alike, rfl⟩
      exact ⟨first, own, others, alike, rfl⟩

theorem list_eq_ok_iff (one : ∀ value json, decode json = .ok value ↔ written value json) :
    list decode json = .ok values ↔ Listed written values (some json) := by
  constructor
  · intro done
    cases json with
    | arr elements => exact .items ((items_eq_ok_iff one).1 done)
    | null | bool | num | str | obj => cases done
  · rintro (_ | each)
    exact (items_eq_ok_iff one).2 each

/-- A list that is empty where it is left out. -/
theorem reads_list_iff (one : ∀ value json, decode json = .ok value ↔ written value json) :
    (∃ read, Reads (list decode) part read ∧ read.getD [] = values) ↔
      Listed written values part := by
  constructor
  · rintro ⟨_, _ | done, rfl⟩
    · exact .absent
    · exact (list_eq_ok_iff one).1 done
  · intro listed
    cases part with
    | none =>
      cases listed
      exact ⟨none, .absent, rfl⟩
    | some json => exact ⟨some values, .found ((list_eq_ok_iff one).2 listed), rfl⟩

theorem optional_value (json : Json) :
    optional Decode.value json = .ok (Json.given? (some json)) := by
  cases json <;> rfl

/-- A value that is not there where it is null or left out. -/
theorem reads_optional_iff {held : Option Json} :
    (∃ read, Reads (optional Decode.value) part read ∧ read.join = held) ↔
      Json.given? part = held := by
  constructor
  · rintro ⟨_, _ | done, rfl⟩
    · rfl
    · rw [optional_value] at done
      exact Except.ok.inj done
  · rintro rfl
    cases part with
    | none => exact ⟨none, .absent, rfl⟩
    | some json => exact ⟨some (Json.given? (some json)), .found (optional_value json), rfl⟩

end Decode

end ModelSync
