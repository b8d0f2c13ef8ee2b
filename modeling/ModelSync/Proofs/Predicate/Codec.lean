import ModelSync.Predicate.Codec
import ModelSync.Proofs.KeyMap
import ModelSync.Proofs.Predicate.Reading

/-! Predicates are read back as they were written: every predicate, also one that has no filter,
with every literal as it is. What is written is read alike whether it is given directly or set
aside, so that a predicate stays the same at any depth. -/
namespace ModelSync

theorem Operator.decode_encode (buffered : Bool) (operator : Operator) :
    Operator.decode buffered operator.encode = .ok operator := by
  cases operator with
  | compare comparison operand => cases comparison <;> rfl
  | between low high => rfl

theorem GroupKind.decode_encode (buffered : Bool) (kind : GroupKind) :
    GroupKind.decode buffered kind.encode = .ok kind := by
  cases kind <;> rfl

namespace Predicate

variable {members : List (String × Json)} {children : List Predicate}

/-- An object with the members of a leaf. -/
theorem decodeFrom_leaf {field : String} {operator : Operator} (buffered : Bool)
    (type : Entries.get? members "type" = some (.str "operation"))
    (asked : Entries.get? members "field" = some (.str field))
    (how : Entries.get? members "operator" = some operator.encode) :
    decodeFrom buffered (.obj members) = .ok (.leaf field operator) := by
  simp only [decodeFrom, leafOfMembers, Decode.field, type, asked, how,
    operator.decode_encode true]
  rfl

private theorem childrenMember_eq (members : List (String × Json)) :
    childrenMember members =
      match Entries.get? members "predicates" with
      | none => .ok none
      | some json => some <$> decodeChildren json := by
  induction members with
  | nil => rfl
  | cons member rest ih =>
    obtain ⟨key, json⟩ := member
    by_cases same : key = "predicates" <;> simp [childrenMember, Entries.get?, same, ih]

private theorem decodeItems_encodeChildren
    (each : ∀ child ∈ children, decodeFrom true child.encode = .ok child) :
    decodeItems (encodeChildren children) = .ok children := by
  induction children with
  | nil => rfl
  | cons child rest ih =>
    obtain ⟨own, others⟩ := List.forall_mem_cons.1 each
    rw [encodeChildren, decodeItems, own, ih others]
    rfl

/-- An object with the members of a group whose children are read back. -/
theorem decodeFrom_group {kind : GroupKind} (buffered : Bool)
    (type : Entries.get? members "type" = some (.str "group"))
    (how : Entries.get? members "group" = some kind.encode)
    (held : Entries.get? members "predicates" = some (.arr (encodeChildren children)))
    (each : ∀ child ∈ children, decodeFrom true child.encode = .ok child) :
    decodeFrom buffered (.obj members) = .ok (.group kind children) := by
  simp only [decodeFrom, childrenMember_eq, Decode.field, type, how, held, decodeChildren,
    kind.decode_encode true, decodeItems_encodeChildren each]
  rfl

/-- A predicate is read back, given directly or set aside. -/
theorem decodeFrom_encode (buffered : Bool) (predicate : Predicate) :
    decodeFrom buffered predicate.encode = .ok predicate := by
  -- The children of a group are always set aside, whatever the group is.
  induction predicate using induction_on_children generalizing buffered with
  | all => cases buffered <;> rfl
  | leaf field operator =>
    refine decodeFrom_leaf buffered ?_ ?_ ?_ <;> simp [Entries.get?_ofList_eq, Entries.get?]
  | group kind children ih =>
    refine decodeFrom_group buffered ?_ ?_ ?_ fun child listed => ih child listed true <;>
      simp [Entries.get?_ofList_eq, Entries.get?]

/-- Every predicate is read back from what it is written as, so that it has the same filter then, or
the same fault. -/
theorem encoding_read_back (predicate : Predicate) :
    decode predicate.encode = .ok predicate ∧
      compile <$> decode predicate.encode = .ok predicate.compile := by
  have back : decode predicate.encode = .ok predicate := decodeFrom_encode false predicate
  rw [back]
  exact ⟨rfl, rfl⟩

end Predicate

end ModelSync
