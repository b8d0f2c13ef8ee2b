import ModelSync.Request.Document
import ModelSync.Schema

/-! Requests whose names are all names, and what their documents are spelled with. Such a document
holds the characters of names and a few marks, so that no text with a meaning of its own gets in. -/
namespace ModelSync

/-! ## Names -/

theorem exists_of_isName {name : String} (named : isName name = true) :
    ∃ first rest, name.toList = first :: rest ∧ isNameStart first = true := by
  cases spelled : name.toList with
  | nil => simp [isName, spelled] at named
  | cons first rest =>
    simp only [isName, spelled, Bool.and_eq_true] at named
    exact ⟨first, rest, rfl, named.1⟩

private theorem isNamePart_of_isNameStart {char : Char} (start : isNameStart char = true) :
    isNamePart char = true := by
  simp only [isNameStart, isNamePart, Char.isAlphanum, Bool.or_eq_true] at start ⊢
  exact start.imp_right .inl

theorem parts_of_isName {name : String} (named : isName name = true) :
    name.toList.all isNamePart = true := by
  cases spelled : name.toList with
  | nil => rfl
  | cons first rest =>
    simp only [isName, spelled, Bool.and_eq_true] at named
    rw [List.all_cons, isNamePart_of_isNameStart named.1, named.2]
    rfl

/-- What names are put together from is one again if it starts with a name. -/
theorem isName_append {first rest : String} (named : isName first = true)
    (parts : rest.toList.all isNamePart = true) : isName (first ++ rest) = true := by
  cases spelled : first.toList with
  | nil => simp [isName, spelled] at named
  | cons char chars =>
    simp only [isName, String.toList_append, spelled, List.cons_append, List.all_append,
      Bool.and_eq_true] at named ⊢
    exact ⟨named.1, named.2, parts⟩

/-- A name is one with something before and after it that may stand there. -/
theorem isName_around {before name after : String} (starts : isName before = true)
    (named : isName name = true) (ends : after.toList.all isNamePart = true) :
    isName (before ++ name ++ after) = true :=
  isName_append (isName_append starts (parts_of_isName named)) ends

/-- A type is written as a name, followed by a mark if null does not belong to it. -/
def IsTypeName (type : String) : Prop :=
  ∃ name, isName name = true ∧ (type = name ∨ type = name ++ "!")

/-! ## Entries at every depth -/

/-- An entry is listed, or selected at some depth below a listed one. -/
inductive Selection.Among : Selection → List Selection → Prop where
  | listed {entry : Selection} {entries : List Selection} (member : entry ∈ entries) :
      Among entry entries
  | inside {entry outer : Selection} {entries : List Selection} (member : outer ∈ entries)
      (deeper : Among entry outer.children) : Among entry entries

/-- What is true of the listed entries, and of those below an entry that it is true of, is true at
every depth. -/
theorem Selection.Among.holds {motive : Selection → Prop} {entry : Selection}
    {entries : List Selection} (among : Among entry entries)
    (known : ∀ outer ∈ entries, motive outer)
    (below : ∀ outer, motive outer → ∀ inner ∈ outer.children, motive inner) : motive entry := by
  induction among with
  | listed member => exact known _ member
  | inside member _ ih => exact ih (below _ (known _ member))

/-- Entries are taken one after the other, and those below an entry before those that follow. -/
theorem Selection.induction_on_entries {motive : List Selection → Prop} (nil : motive [])
    (cons : ∀ name children rest, motive children → motive rest →
      motive (.node name children :: rest)) (entries : List Selection) : motive entries :=
  match entries with
  | [] => nil
  | .node name children :: rest =>
    cons name children rest (induction_on_entries nil cons children)
      (induction_on_entries nil cons rest)

/-- The entries have names, and so do all entries below them. -/
def Selection.AllNamed (entries : List Selection) : Prop :=
  ∀ entry, Selection.Among entry entries → isName entry.name = true

theorem Selection.allNamed_iff {entries : List Selection} :
    AllNamed entries ↔ ∀ entry ∈ entries, isName entry.name = true ∧ AllNamed entry.children := by
  constructor
  · intro named entry member
    exact ⟨named entry (.listed member), fun inner deeper => named inner (.inside member deeper)⟩
  · intro named entry among
    cases among with
    | listed member => exact (named entry member).1
    | inside member deeper => exact (named _ member).2 entry deeper

@[simp] theorem Selection.allNamed_nil : AllNamed [] := allNamed_iff.2 nofun

@[simp] theorem Selection.allNamed_cons {name : String} {children rest : List Selection} :
    AllNamed (.node name children :: rest) ↔
      isName name = true ∧ AllNamed children ∧ AllNamed rest := by
  rw [allNamed_iff, List.forall_mem_cons, ← allNamed_iff, and_assoc]
  rfl

@[simp] theorem Selection.allNamed_leaf_cons {name : String} {rest : List Selection} :
    AllNamed (.leaf name :: rest) ↔ isName name = true ∧ AllNamed rest := by
  rw [leaf, allNamed_cons, and_iff_right allNamed_nil]

@[simp] theorem Selection.allNamed_append {entries others : List Selection} :
    AllNamed (entries ++ others) ↔ AllNamed entries ∧ AllNamed others := by
  rw [allNamed_iff, List.forall_mem_append, ← allNamed_iff, ← allNamed_iff]

/-- Everything that a request brings into its document by name is a name. -/
structure Request.WellNamed (request : Request) : Prop where
  operation : isName request.name = true
  root : isName request.field = true
  declared : ∀ name type, request.variableType? name = some type →
    isName name = true ∧ IsTypeName type
  selected : Selection.AllNamed request.selection

theorem Request.WellNamed.of_mem {request : Request} (named : request.WellNamed)
    {entry : String × Binding} (member : entry ∈ request.bindings.entries) :
    isName entry.1 = true ∧ IsTypeName entry.2.type := by
  refine named.declared entry.1 entry.2.type ?_
  simp [variableType?, KeyMap.get?, Entries.get?_of_mem request.bindings.ordered member]

private theorem Request.variableType?_bind (request : Request) (name type other : String)
    (value : Json) :
    (request.bind name type value).variableType? other =
      if other = name then some type else request.variableType? other := by
  unfold variableType?
  rw [show (request.bind name type value).bindings.get? other = _ from Entries.get?_insert _ _ _ _]
  by_cases same : other = name
  · simp [same]
  · simp [same, KeyMap.get?]

namespace Request.WellNamed

theorem make {kind : OperationKind} {name field model : String} {selection : List Selection}
    (operation : isName name = true) (root : isName field = true)
    (selected : Selection.AllNamed selection) :
    (Request.make kind name field model selection).WellNamed where
  operation := operation
  root := root
  declared := nofun
  selected := selected

theorem bind {request : Request} (named : request.WellNamed) {name type : String}
    (nameFits : isName name = true) (typeFits : IsTypeName type) (value : Json) :
    (request.bind name type value).WellNamed where
  operation := named.operation
  root := named.root
  declared other kind bound := by
    rw [variableType?_bind] at bound
    by_cases same : other = name
    · rw [if_pos same, Option.some.injEq] at bound
      subst same bound
      exact ⟨nameFits, typeFits⟩
    · rw [if_neg same] at bound
      exact named.declared other kind bound
  selected := named.selected

end Request.WellNamed

/-! ## The characters of a document -/

/-- The characters between names on a line. -/
def isMark (char : Char) : Bool := [' ', '$', ':', ',', '!', '(', ')', '\x7b', '\x7d'].contains char

/-- What a document is spelled with: parts of names, marks and ends of lines. -/
def IsDocumentChar (char : Char) : Prop :=
  isNamePart char = true ∨ isMark char = true ∨ char = '\n'

/-- The text holds nothing but names and marks. -/
def Spelled (text : String) : Prop :=
  (text.toList.all fun char => isNamePart char || isMark char) = true

instance (text : String) : Decidable (Spelled text) :=
  inferInstanceAs (Decidable ((text.toList.all fun char => isNamePart char || isMark char) = true))

theorem spelled_iff {text : String} :
    Spelled text ↔ ∀ char ∈ text.toList, isNamePart char = true ∨ isMark char = true := by
  simp [Spelled]

@[simp] theorem spelled_append {first second : String} :
    Spelled (first ++ second) ↔ Spelled first ∧ Spelled second := by
  simp only [spelled_iff, String.toList_append, List.forall_mem_append]

private theorem spelled_of_isName {name : String} (named : isName name = true) : Spelled name := by
  rw [spelled_iff]
  intro char listed
  exact .inl (List.all_eq_true.1 (parts_of_isName named) char listed)

private theorem spelled_of_isTypeName {type : String} (named : IsTypeName type) : Spelled type := by
  obtain ⟨name, isNamed, rfl | rfl⟩ := named
  · exact spelled_of_isName isNamed
  · exact spelled_append.2 ⟨spelled_of_isName isNamed, by decide⟩

@[simp] theorem spelled_indent (depth : Nat) : Spelled (indent depth) := by
  rw [spelled_iff]
  intro char listed
  obtain ⟨_, rfl⟩ : ¬2 * depth = 0 ∧ char = ' ' := by simpa [indent] using listed
  exact .inr (by decide)

@[simp] theorem spelled_openBrace : Spelled openBrace := by decide

@[simp] theorem spelled_closeBrace : Spelled closeBrace := by decide

@[simp] theorem OperationKind.spelled_name (kind : OperationKind) : Spelled kind.name := by
  cases kind <;> decide

private theorem spelled_intercalate {parts : List String} (spelled : ∀ part ∈ parts, Spelled part) :
    Spelled (String.intercalate ", " parts) := by
  induction parts with
  | nil => decide
  | cons part rest ih =>
    obtain ⟨own, others⟩ := List.forall_mem_cons.1 spelled
    cases rest with
    | nil => simpa using own
    | cons next later =>
      rw [String.intercalate_cons_cons, spelled_append, spelled_append]
      exact ⟨⟨own, by decide⟩, ih others⟩

private theorem Request.spelled_parenthesized {parts : List String}
    (spelled : ∀ part ∈ parts, Spelled part) : Spelled (parenthesized parts) := by
  unfold parenthesized
  split
  · decide
  · rw [spelled_append, spelled_append]
    exact ⟨⟨by decide, spelled_intercalate spelled⟩, by decide⟩

namespace Selection

variable {depth : Nat} {name : String} {first : Selection} {others rest : List Selection}

/-- An entry with nothing below it is one line. -/
theorem linesOfAll_leaf : linesOfAll depth (.node name [] :: rest) =
    (indent depth ++ name) :: linesOfAll depth rest := by
  simp [linesOfAll, lines]

/-- Any other entry is a block. -/
theorem linesOfAll_block : linesOfAll depth (.node name (first :: others) :: rest) =
    (indent depth ++ name ++ openBrace) :: (linesOfAll (depth + 1) (first :: others) ++
      (indent depth ++ closeBrace) :: linesOfAll depth rest) := by
  simp [linesOfAll, lines]

private theorem spelled_linesOfAll {entries : List Selection} (named : AllNamed entries) :
    ∀ line ∈ linesOfAll depth entries, Spelled line := by
  induction entries using induction_on_entries generalizing depth with
  | nil => simp [linesOfAll]
  | cons name children rest below others =>
    obtain ⟨own, deeper, later⟩ := allNamed_cons.1 named
    have spelled := spelled_of_isName own
    cases children with
    | nil =>
      rw [linesOfAll_leaf, List.forall_mem_cons]
      exact ⟨spelled_append.2 ⟨spelled_indent depth, spelled⟩, others later⟩
    | cons first more =>
      rw [linesOfAll_block, List.forall_mem_cons, List.forall_mem_append, List.forall_mem_cons]
      exact ⟨by simp [spelled], below deeper, by simp, others later⟩

end Selection

namespace Request

variable {request : Request}

/-- No line of the document holds anything but names and marks. -/
theorem WellNamed.spelled_lines (named : request.WellNamed) :
    ∀ line ∈ request.lines, Spelled line := by
  have declared : Spelled (parenthesized request.declarations) := by
    apply spelled_parenthesized
    intro part listed
    obtain ⟨entry, member, rfl⟩ := List.mem_map.1 listed
    obtain ⟨name, type⟩ := named.of_mem member
    simp only [spelled_append]
    exact ⟨⟨⟨by decide, spelled_of_isName name⟩, by decide⟩, spelled_of_isTypeName type⟩
  have taken : Spelled (parenthesized request.arguments) := by
    apply spelled_parenthesized
    intro part listed
    obtain ⟨entry, member, rfl⟩ := List.mem_map.1 listed
    have name := spelled_of_isName (named.of_mem member).1
    simp only [spelled_append]
    exact ⟨⟨name, by decide⟩, name⟩
  have blank : Spelled " " := by decide
  simp only [lines, List.forall_mem_append, List.forall_mem_cons]
  refine ⟨⟨⟨?_, ?_, by simp⟩, ?_⟩, by simp, by simp, by simp⟩
  · simp [blank, spelled_of_isName named.operation, declared]
  · simp [spelled_of_isName named.root, taken]
  · exact Selection.spelled_linesOfAll named.selected

/-- The document holds nothing but names and marks, on lines of their own. -/
theorem WellNamed.spelled_document (named : request.WellNamed) :
    ∀ char ∈ request.document.toList, IsDocumentChar char := by
  have spelled := named.spelled_lines
  unfold document
  generalize request.lines = lines at spelled ⊢
  induction lines with
  | nil => simp
  | cons line rest ih =>
    obtain ⟨own, others⟩ := List.forall_mem_cons.1 spelled
    simp only [List.map_cons, String.join_cons, String.toList_append, List.forall_mem_append]
    refine ⟨⟨?_, by simp [IsDocumentChar]⟩, ih others⟩
    intro char listed
    rcases spelled_iff.1 own char listed with part | mark
    · exact .inl part
    · exact .inr (.inl mark)

end Request

end ModelSync
