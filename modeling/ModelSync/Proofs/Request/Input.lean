import ModelSync.Proofs.Schema.Expansion
import ModelSync.Request.Builders

/-! What mutations send of a record. The input is fixed key by key: the last field that
contributes to a key gives its value, and a null under the field of an owner rule is left out.
A field is refused exactly if its value has the wrong shape. -/
namespace ModelSync

namespace ModelField

/-- Fields that another model or the backend looks after are not sent. -/
def IsSent (field : ModelField) : Prop := field.isReadOnly = false ∧ field.isHasMany = false

/-- The entry that stands for a value of a field: a reference becomes the key of the record it
refers to, under the target name, and anything else is kept. -/
inductive Carries (field : ModelField) : Json → String → Json → Prop where
  | nothing {target : String} (reference : field.targetName? = some target) :
      field.Carries .null target .null
  | key {target key : String} (reference : field.targetName? = some target) :
      field.Carries (.str key) target (.str key)
  | record {target key : String} {members : List (String × Json)}
      (reference : field.targetName? = some target)
      (held : Entries.get? members idField = some (.str key)) :
      field.Carries (.obj members) target (.str key)
  | own {value : Json} (plain : field.targetName? = none) : field.Carries value field.name value

/-- A reference is null, a key or a record with a key; any other list field is a list or null. -/
def Accepts (field : ModelField) (value : Json) : Prop :=
  match field.targetName? with
  | some _ =>
    value = .null ∨ (∃ key, value = .str key) ∨
      ∃ members key, value = .obj members ∧ Entries.get? members idField = some (.str key)
  | none => field.isArray = true → value = .null ∨ ∃ items, value = .arr items

/-- What is wrong with a value that a field does not accept. -/
def refusal (field : ModelField) (value : Json) : FieldFault :=
  match field.targetName?, value with
  | none, _ => .notList
  | some _, .obj _ => .referenceWithoutId
  | some _, _ => .notReference

theorem Carries.unique {field : ModelField} {value first second : Json} {key other : String}
    (one : field.Carries value key first) (two : field.Carries value other second) :
    key = other ∧ first = second := by
  cases one <;> cases two <;> simp_all

end ModelField

namespace Schema

variable {schema : Schema} {record : RecordView} {field : ModelField} {fields : List ModelField}
  {value sent : Json} {key : String} {failure : BuildError}

/-! ## Single fields -/

theorem inputEntry_of_accepts (schema : Schema) (accepted : field.Accepts value) :
    ∃ key sent, schema.inputEntry field value = .ok (key, sent) ∧ field.Carries value key sent := by
  unfold ModelField.Accepts at accepted
  cases reference : field.targetName? with
  | some target =>
    simp only [reference] at accepted
    simp only [inputEntry, reference]
    rcases accepted with rfl | ⟨key, rfl⟩ | ⟨members, key, rfl, held⟩
    · exact ⟨target, .null, rfl, .nothing reference⟩
    · exact ⟨target, .str key, rfl, .key reference⟩
    · have found : schema.referenceKey field (.obj members) = .ok (.str key) := by
        simp only [referenceKey, held]
      exact ⟨target, .str key, by rw [found]; rfl, .record reference held⟩
  | none =>
    simp only [reference] at accepted
    have listed : schema.checkList field value = .ok () := by
      cases array : field.isArray with
      | false => simp [checkList, array]
      | true =>
        rcases accepted array with rfl | ⟨items, rfl⟩
        · simp [checkList, array]
        · simp [checkList, array]
    exact ⟨field.name, value, by simp only [inputEntry, reference, listed]; rfl, .own reference⟩

theorem inputEntry_of_refused (schema : Schema) (refused : ¬ field.Accepts value) :
    schema.inputEntry field value =
      .error (.field schema.name field.name (field.refusal value)) := by
  unfold ModelField.Accepts at refused
  unfold ModelField.refusal
  cases reference : field.targetName? with
  | some target =>
    simp only [reference, not_or, not_exists, not_and] at refused
    obtain ⟨notNull, notKey, notRecord⟩ := refused
    simp only [inputEntry, reference]
    cases value with
    | null => exact absurd rfl notNull
    | str key => exact absurd rfl (notKey key)
    | obj members =>
      have missing : schema.referenceKey field (.obj members) =
          schema.fieldFault field.name .referenceWithoutId := by
        simp only [referenceKey]
        split
        case h_1 key held => exact absurd held (notRecord members key rfl)
        case h_2 => rfl
      rw [missing]
      rfl
    | bool | num | arr => rfl
  | none =>
    simp only [reference, Classical.not_imp, not_or, not_exists] at refused
    obtain ⟨array, notNull, notItems⟩ := refused
    have unlisted : schema.checkList field value = schema.fieldFault field.name .notList := by
      cases value with
      | null => exact absurd rfl notNull
      | arr items => exact absurd rfl (notItems items)
      | _ => simp [checkList, array]
    simp only [inputEntry, reference, unlisted]
    rfl

private theorem carries_of_inputEntry (done : schema.inputEntry field value = .ok (key, sent)) :
    field.Carries value key sent := by
  by_cases accepted : field.Accepts value
  · obtain ⟨own, kept, found, carries⟩ := schema.inputEntry_of_accepts accepted
    rw [found] at done
    cases done
    exact carries
  · rw [schema.inputEntry_of_refused accepted] at done
    cases done

/-! ## The fields of a record -/

/-- A field that is sent has a value in the record, which stands for this entry. -/
def Contributes (record : RecordView) (field : ModelField) (key : String) (sent : Json) : Prop :=
  field.IsSent ∧ ∃ value, record.value field.name = .ok (some value) ∧ field.Carries value key sent

/-- The last field that contributes to a key contributes this value. -/
def LastGiven (record : RecordView) (fields : List ModelField) (key : String) (sent : Json) :
    Prop :=
  ∃ before field after, fields = before ++ field :: after ∧ Contributes record field key sent ∧
    ∀ later ∈ after, ∀ other, ¬ Contributes record later key other

/-- The entries that fields contribute, in declaration order. -/
inductive Entered (record : RecordView) : List ModelField → List (String × Json) → Prop where
  | nil : Entered record [] []
  | skipped {field : ModelField} {rest : List ModelField} {entries : List (String × Json)}
      (silent : ∀ key sent, ¬ Contributes record field key sent)
      (later : Entered record rest entries) : Entered record (field :: rest) entries
  | sent {field : ModelField} {rest : List ModelField} {entries : List (String × Json)}
      {key : String} {sent : Json} (given : Contributes record field key sent)
      (later : Entered record rest entries) :
      Entered record (field :: rest) ((key, sent) :: entries)

theorem Contributes.unique {first second : Json} {other : String}
    (one : Contributes record field key first) (two : Contributes record field other second) :
    key = other ∧ first = second := by
  obtain ⟨_, value, read, carries⟩ := one
  obtain ⟨_, again, reread, carried⟩ := two
  rw [read] at reread
  cases reread
  exact carries.unique carried

/-- What a field contributes is a single entry. -/
theorem Contributes.eq_iff {own : String} {kept : Json} (given : Contributes record field own kept) :
    (key, sent) = (own, kept) ↔ Contributes record field key sent := by
  constructor
  · rintro ⟨⟩
    exact given
  · intro again
    obtain ⟨rfl, rfl⟩ := again.unique given
    rfl

theorem lastGiven_cons {rest : List ModelField} :
    LastGiven record (field :: rest) key sent ↔
      LastGiven record rest key sent ∨
        Contributes record field key sent ∧
          ∀ later ∈ rest, ∀ other, ¬ Contributes record later key other := by
  constructor
  · rintro ⟨before, last, after, same, given, latest⟩
    cases before with
    | nil =>
      obtain ⟨rfl, rfl⟩ := List.cons.inj same
      exact .inr ⟨given, latest⟩
    | cons first before =>
      obtain ⟨rfl, rfl⟩ := List.cons.inj same
      exact .inl ⟨before, last, after, rfl, given, latest⟩
  · rintro (⟨before, last, after, rfl, given, latest⟩ | ⟨given, latest⟩)
    · exact ⟨field :: before, last, after, rfl, given, latest⟩
    · exact ⟨[], field, rest, rfl, given, latest⟩

/-- The steps of reading a field, told apart by what the record holds. -/
theorem inputEntries_cons (schema : Schema) (record : RecordView) (field : ModelField)
    (rest : List ModelField) :
    schema.inputEntries record (field :: rest) =
      if field.isReadOnly || field.isHasMany then schema.inputEntries record rest
      else do
        match ← record.value field.name with
        | none => schema.inputEntries record rest
        | some value =>
          let entry ← schema.inputEntry field value
          let entries ← schema.inputEntries record rest
          return entry :: entries := rfl

theorem isSent_iff : field.IsSent ↔ (field.isReadOnly || field.isHasMany) = false := by
  simp [ModelField.IsSent]

/-- A field that is read adds nothing, since it is not sent or the record does not hold it, or it
adds an entry. -/
theorem cases_of_inputEntries {rest : List ModelField} {entries : List (String × Json)}
    (done : schema.inputEntries record (field :: rest) = .ok entries) :
    (¬ field.IsSent ∨ record.value field.name = .ok none) ∧
        schema.inputEntries record rest = .ok entries ∨
      ∃ value entry others, field.IsSent ∧ record.value field.name = .ok (some value) ∧
        schema.inputEntry field value = .ok entry ∧
        schema.inputEntries record rest = .ok others ∧ entries = entry :: others := by
  rw [inputEntries_cons] at done
  split at done
  case isTrue unsent =>
    refine .inl ⟨.inl fun sent => ?_, done⟩
    rw [isSent_iff.1 sent] at unsent
    cases unsent
  case isFalse kept =>
    obtain ⟨held, read, done⟩ := Except.exists_of_bind_ok done
    cases held with
    | none => exact .inl ⟨.inr read, done⟩
    | some value =>
      obtain ⟨entry, entered, done⟩ := Except.exists_of_bind_ok done
      obtain ⟨others, after, done⟩ := Except.exists_of_bind_ok done
      cases done
      exact .inr ⟨value, entry, others, isSent_iff.2 (by simpa using kept), read, entered, after, rfl⟩

private theorem entered_of_inputEntries {entries : List (String × Json)}
    (done : schema.inputEntries record fields = .ok entries) : Entered record fields entries := by
  induction fields generalizing entries with
  | nil =>
    cases done
    exact .nil
  | cons field rest ih =>
    rcases cases_of_inputEntries done with
      ⟨silent, done⟩ | ⟨value, ⟨key, sent⟩, others, isSent, read, entered, after, rfl⟩
    · refine .skipped ?_ (ih done)
      rintro key sent ⟨isSent, value, present, _⟩
      rcases silent with unsent | absent
      · exact unsent isSent
      · rw [absent] at present
        cases present
    · have own : Contributes record field key sent :=
        ⟨isSent, value, read, carries_of_inputEntry entered⟩
      exact .sent own (ih after)

private theorem Entered.mem_iff {entries : List (String × Json)}
    (entered : Entered record fields entries) :
    (key, sent) ∈ entries ↔ ∃ field ∈ fields, Contributes record field key sent := by
  induction entered with
  | nil => simp
  | skipped silent _ ih => simp [ih, silent]
  | @sent field rest entries own kept given _ ih =>
    simp only [List.mem_cons, exists_eq_or_imp, ih, given.eq_iff]

/-- The last entry for a key is that of the last field that contributes to it. -/
theorem Entered.isLast_iff {entries : List (String × Json)}
    (entered : Entered record fields entries) :
    Entries.IsLast entries key sent ↔ LastGiven record fields key sent := by
  induction entered with
  | nil => simp [Entries.IsLast, LastGiven]
  | skipped silent _ ih => simp [lastGiven_cons, ih, silent]
  | @sent field rest entries own kept given later ih =>
    rw [Entries.isLast_cons, lastGiven_cons, ih]
    have after : (∀ pair ∈ entries, pair.1 ≠ key) ↔
        ∀ later ∈ rest, ∀ other, ¬ Contributes record later key other := by
      constructor
      · intro last field listed other more
        exact last (key, other) (later.mem_iff.2 ⟨field, listed, more⟩) rfl
      · rintro last ⟨_, other⟩ listed rfl
        obtain ⟨field, among, more⟩ := later.mem_iff.1 listed
        exact last field among other more
    rw [eq_comm, given.eq_iff, after]

/-! ## The input -/

/-- The key is the field of an owner rule. -/
def IsOwnerKey (schema : Schema) (key : String) : Prop :=
  ∃ rule ∈ schema.ownerRules, rule.ownerField = key

/-- What is left of an input holds under each key what it held, except for nulls under the fields of
owner rules. -/
theorem get?_withoutNullOwners (input : Entries Json) :
    (schema.withoutNullOwners input).get? key = some value ↔
      input.get? key = some value ∧ ¬ (value = .null ∧ schema.IsOwnerKey key) := by
  unfold withoutNullOwners IsOwnerKey
  induction schema.ownerRules generalizing input with
  | nil => simp
  | cons rule rest ih =>
    simp only [List.foldl_cons, ih, List.mem_cons, exists_eq_or_imp]
    split
    case h_1 null =>
      rw [Entries.get?_erase]
      by_cases same : key = rule.ownerField
      · subst same
        simpa [null] using Eq.symm
      · simp [same, Ne.symm same]
    case h_2 filled =>
      apply and_congr_right
      intro held
      -- A null under the field of this rule would have been dropped.
      apply not_congr
      apply and_congr_right
      intro null
      refine (or_iff_right ?_).symm
      intro same
      subst same null
      exact filled held

private theorem ordered_withoutNullOwners {input : Entries Json} (ordered : input.Ordered) :
    (schema.withoutNullOwners input).Ordered := by
  unfold withoutNullOwners
  induction schema.ownerRules generalizing input with
  | nil => exact ordered
  | cons rule rest ih =>
    refine ih ?_
    dsimp only
    split
    · exact Entries.ordered_erase ordered _
    · exact ordered

/-- An input of a record: in key order, each key holds what the last field gives that contributes to
it, but for nulls under the fields of owner rules. -/
structure InputOf (schema : Schema) (record : RecordView) (input : Entries Json) : Prop where
  ordered : input.Ordered
  exact : ∀ key value, input.get? key = some value ↔
    LastGiven record schema.fields key value ∧ ¬ (value = .null ∧ schema.IsOwnerKey key)

private theorem inputOf_of_mutationInput {input : Entries Json}
    (done : schema.mutationInput record = .ok input) : schema.InputOf record input := by
  obtain ⟨_, _, done⟩ := Except.exists_of_bind_ok done
  split at done
  · cases done
  · obtain ⟨entries, read, done⟩ := Except.exists_of_bind_ok done
    cases done
    have entered := entered_of_inputEntries read
    refine ⟨ordered_withoutNullOwners (Entries.ordered_ofList entries), ?_⟩
    intro key value
    rw [get?_withoutNullOwners, Entries.get?_ofList, entered.isLast_iff]

/-- What an input with some added entries keeps to: no null stands under the field of an owner rule,
nulls of other fields stay, and all but the added entries are contributed by fields that are
declared and sent. -/
structure Keeps (schema : Schema) (record : RecordView) (added : List (String × Json))
    (input : Entries Json) : Prop where
  ownersFilled : ∀ key, schema.IsOwnerKey key → input.get? key ≠ some .null
  nullsKept : ∀ key, LastGiven record schema.fields key .null → ¬ schema.IsOwnerKey key →
    (∀ entry ∈ added, entry.1 ≠ key) → input.get? key = some .null
  declared : ∀ key value, (key, value) ∈ input →
    (key, value) ∈ added ∨ ∃ field ∈ schema.fields, Contributes record field key value

private theorem InputOf.keeps {input : Entries Json} (exact : schema.InputOf record input) :
    schema.Keeps record [] input where
  ownersFilled key owner null := ((exact.exact key .null).1 null).2 ⟨rfl, owner⟩
  nullsKept key given other _ := (exact.exact key .null).2 ⟨given, fun owner => other owner.2⟩
  declared key value listed := by
    have held := Entries.get?_of_mem exact.ordered listed
    obtain ⟨⟨before, field, after, fields, given, _⟩, _⟩ := (exact.exact key value).1 held
    exact .inr ⟨field, by simp [fields], given⟩

private theorem Keeps.insert {input : Entries Json} (keeps : schema.Keeps record [] input)
    (filled : value ≠ .null) :
    schema.Keeps record [(key, value)] (Entries.insert key value input) where
  ownersFilled other owner null := by
    rw [Entries.get?_insert] at null
    split at null
    · exact filled (Option.some.inj null)
    · exact keeps.ownersFilled other owner null
  nullsKept other given ordinary apart := by
    have differs : other ≠ key := (apart (key, value) (by simp)).symm
    rw [Entries.get?_insert_of_ne _ _ differs]
    exact keeps.nullsKept other given ordinary nofun
  declared other sent listed := by
    rcases Entries.mem_keys_insert listed with same | before
    · exact .inl (by simp [same])
    · exact .inr ((keeps.declared other sent before).resolve_left nofun)

/-! ## Requests -/

variable {request : Request} {predicate : Predicate} {version : UInt64} {id : String}

/-- A creation sends the input of the record. -/
theorem createRequest_iff :
    schema.createRequest record = .ok request ↔
      ∃ input, schema.mutationInput record = .ok input ∧
        schema.mutationRequest .create input none = .ok request :=
  Except.bind_eq_ok_iff

/-- An update sends the input of the record with the version, and the predicate as its condition. -/
theorem updateRequest_iff :
    schema.updateRequest record version predicate = .ok request ↔
      ∃ input, schema.mutationInput record = .ok input ∧
        ∃ condition, predicate.compile = .ok condition ∧
          schema.mutationRequest .update
            (Entries.insert versionField (Json.ofUInt64 version) input) condition = .ok request := by
  simp only [updateRequest, Except.bind_eq_ok_iff]

/-- A deletion sends the identifier with the version, and the predicate as its condition. -/
theorem deleteRequest_iff :
    schema.deleteRequest id version predicate = .ok request ↔
      ∃ condition, predicate.compile = .ok condition ∧
        schema.mutationRequest .delete
          (.ofList [(idField, .str id), (versionField, Json.ofUInt64 version)]) condition =
          .ok request :=
  Except.bind_eq_ok_iff

private theorem value?_mutationRequest {change : Change} {input : Entries Json}
    {condition : Option Filter}
    {request : Request} (built : schema.mutationRequest change input condition = .ok request) :
    request.value? "input" = some (.obj input) := by
  obtain ⟨selection, _, done⟩ := Except.exists_of_bind_ok built
  cases done
  cases condition with
  | none => simp [Request.value?, Request.bindSome, Request.bind, KeyMap.get?, KeyMap.insert,
      Entries.get?_insert]
  | some filter => simp [Request.value?, Request.bindSome, Request.bind, KeyMap.get?, KeyMap.insert,
      Entries.get?_insert]

theorem exists_mutationRequest (valid : schema.validate = .ok ()) (change : Change)
    (input : Entries Json) (condition : Option Filter) :
    ∃ request, schema.mutationRequest change input condition = .ok request := by
  obtain ⟨entries, selected⟩ := recordSelection_eq_ok_iff.2 valid
  exact ⟨_, Except.bind_eq_ok_iff.2 ⟨entries, selected, rfl⟩⟩

theorem validate_of_mutationInput {input : Entries Json}
    (done : schema.mutationInput record = .ok input) : schema.validate = .ok () := by
  obtain ⟨_, valid, _⟩ := Except.exists_of_bind_ok done
  exact valid

/-- The input of a creation is exactly what the fields of the record give. An update sends the
input of the creation with the version put into it. Neither holds a null under the field of an
owner rule, the other nulls stay, and nothing is sent besides but what declared fields that are
sent contribute. -/
theorem inputs_exact (schema : Schema) (record : RecordView) :
    (∀ created, schema.createRequest record = .ok created →
      ∃ input, created.value? "input" = some (.obj input) ∧ schema.InputOf record input ∧
        schema.Keeps record [] input) ∧
      ∀ version predicate updated, schema.updateRequest record version predicate = .ok updated →
        ∃ created, ∃ input : Entries Json, schema.createRequest record = .ok created ∧
          created.value? "input" = some (.obj input) ∧ schema.InputOf record input ∧
          let versioned := Entries.insert versionField (Json.ofUInt64 version) input
          updated.value? "input" = some (.obj versioned) ∧ versioned.Ordered ∧
            (∀ key, versioned.get? key =
              if key = versionField then some (Json.ofUInt64 version) else input.get? key) ∧
            schema.Keeps record [(versionField, Json.ofUInt64 version)] versioned := by
  constructor
  · intro created built
    obtain ⟨input, read, built⟩ := Except.exists_of_bind_ok built
    have exact := inputOf_of_mutationInput read
    exact ⟨input, value?_mutationRequest built, exact, exact.keeps⟩
  · intro version predicate updated built
    obtain ⟨input, read, built⟩ := Except.exists_of_bind_ok built
    obtain ⟨condition, _, built⟩ := Except.exists_of_bind_ok built
    have exact := inputOf_of_mutationInput read
    obtain ⟨created, creation⟩ :=
      exists_mutationRequest (validate_of_mutationInput read) .create input none
    refine ⟨created, input, Except.bind_eq_ok_iff.2 ⟨input, read, creation⟩,
      value?_mutationRequest creation, exact, value?_mutationRequest built,
      Entries.ordered_insert exact.ordered _ _, fun key => Entries.get?_insert _ _ _ _, ?_⟩
    exact exact.keeps.insert nofun

/-- An entry of the journal that names its author twice, and neither an editor nor an owner. -/
def morning : RecordView :=
  .ofFields "Entry" "e1"
    [("author", .obj [("id", .str "alice"), ("name", .str "Alice")]), ("authorId", .str "bob"),
      ("comments", .arr []), ("createdAt", .null), ("editor", .null), ("id", .str "e1"),
      ("mood", .str "good"), ("owner", .null), ("text", .null)] []

/-- What is sent of it: the later author, and a null that is no owner's. -/
def morningInput : Entries Json :=
  [("authorId", .str "bob"), ("id", .str "e1"), ("text", .null)]

theorem mutationInput_morning : journal.mutationInput morning = .ok morningInput := by
  rw [mutationInput, validate_journal]
  rfl

theorem morning_sent :
    ∃ created updated, journal.createRequest morning = .ok created ∧
      journal.updateRequest morning 7 .all = .ok updated ∧
      journal.InputOf morning morningInput ∧
      created.value? "input" = some (.obj morningInput) ∧
      updated.value? "input" = some (.obj (("_version", Json.ofUInt64 7) :: morningInput)) := by
  obtain ⟨created, creation⟩ := exists_mutationRequest validate_journal .create morningInput none
  have built : journal.createRequest morning = .ok created :=
    Except.bind_eq_ok_iff.2 ⟨_, mutationInput_morning, creation⟩
  obtain ⟨updated, update⟩ := exists_mutationRequest validate_journal .update
    (Entries.insert versionField (Json.ofUInt64 7) morningInput) none
  have rebuilt : journal.updateRequest morning 7 .all = .ok updated :=
    Except.bind_eq_ok_iff.2 ⟨_, mutationInput_morning, update⟩
  have same {input : Entries Json} (sent : created.value? "input" = some (.obj input)) :
      input = morningInput := by
    simpa [value?_mutationRequest creation] using sent.symm
  obtain ⟨input, sent, exact, _⟩ := (inputs_exact journal morning).1 created built
  obtain rfl := same sent
  obtain ⟨again, input, rebuilt', resent, _, versioned, _⟩ :=
    (inputs_exact journal morning).2 7 .all updated rebuilt
  cases built.symm.trans rebuilt'
  obtain rfl := same resent
  exact ⟨created, updated, built, rebuilt, exact, sent, versioned⟩

end Schema

end ModelSync
