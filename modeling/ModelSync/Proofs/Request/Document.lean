import ModelSync.Proofs.Request.Spelling
import ModelSync.Proofs.Text.Cutting

/-! A document says which request it belongs to. The text is cut into lines, and a line at the
first character that no name has; an entry, the opening of a block and its end differ in what is
left after the blanks. What is not read off are the values of the variables, which are sent beside
the document. -/
namespace ModelSync

/-! ## Parts of a line -/

private theorem comma_not_mem_name {name : String} (named : isName name = true) :
    ',' ∉ name.toList := by
  intro listed
  exact absurd (List.all_eq_true.1 (parts_of_isName named) ',' listed) (by decide)

private theorem comma_not_mem_type {type : String} (named : IsTypeName type) :
    ',' ∉ type.toList := by
  obtain ⟨name, isNamed, rfl | rfl⟩ := named
  · exact comma_not_mem_name isNamed
  · simp [comma_not_mem_name isNamed]

/-- Names are cut off where no name goes on. -/
theorem eq_of_names {first second firstRest secondRest : String} (firstNamed : isName first = true)
    (secondNamed : isName second = true) (firstStops : Stops isNamePart firstRest.toList)
    (secondStops : Stops isNamePart secondRest.toList)
    (same : first ++ firstRest = second ++ secondRest) :
    first = second ∧ firstRest = secondRest := by
  have chars := congrArg String.toList same
  simp only [String.toList_append] at chars
  -- The rests need not be told apart here: a name ends where no part of a name follows.
  obtain ⟨front, back⟩ := cut_unique (List.all_eq_true.1 (parts_of_isName firstNamed))
    (List.all_eq_true.1 (parts_of_isName secondNamed)) firstStops secondStops chars
  exact ⟨String.toList_inj.1 front, String.toList_inj.1 back⟩

private theorem OperationKind.isName_name (kind : OperationKind) : isName kind.name = true := by
  cases kind <;> decide

private theorem OperationKind.eq_of_name {first second : OperationKind}
    (same : first.name = second.name) : first = second := by
  cases first <;> cases second <;> first | rfl | exact absurd same (by decide)

namespace Request

/-- Parts between parentheses end before the block is opened, and there are none where the block is
opened at once. -/
theorem eq_of_parenthesized {first second : List String}
    (firstFree : ∀ part ∈ first, ',' ∉ part.toList)
    (secondFree : ∀ part ∈ second, ',' ∉ part.toList)
    (same : parenthesized first = parenthesized second) : first = second := by
  cases first with
  | nil =>
    cases second with
    | nil => rfl
    | cons part rest => simpa [parenthesized] using congrArg String.toList same
  | cons part rest =>
    cases second with
    | nil => simpa [parenthesized] using congrArg String.toList same
    | cons other others =>
      apply eq_of_intercalate firstFree secondFree (by simp) (by simp)
      simpa [parenthesized, String.append_assoc] using same

/-- What follows the name of an operation or of a root field is part of no name. -/
theorem stops_parenthesized (parts : List String) :
    Stops isNamePart (parenthesized parts ++ openBrace).toList := by
  cases parts with
  | nil =>
    intro char first
    obtain rfl : ' ' = char := by simpa [parenthesized, openBrace] using first
    decide
  | cons part rest =>
    intro char first
    obtain rfl : '(' = char := by simpa [parenthesized] using first
    decide

/-- An operation or a root field is read off its line, with its parts. -/
theorem eq_of_opening {first second : String} {firstParts secondParts : List String}
    (firstNamed : isName first = true) (secondNamed : isName second = true)
    (firstFree : ∀ part ∈ firstParts, ',' ∉ part.toList)
    (secondFree : ∀ part ∈ secondParts, ',' ∉ part.toList)
    (same : first ++ parenthesized firstParts ++ openBrace =
      second ++ parenthesized secondParts ++ openBrace) :
    first = second ∧ firstParts = secondParts := by
  rw [String.append_assoc, String.append_assoc] at same
  obtain ⟨name, rest⟩ := eq_of_names firstNamed secondNamed (stops_parenthesized _)
    (stops_parenthesized _) same
  exact ⟨name, eq_of_parenthesized firstFree secondFree ((String.append_left_inj _).1 rest)⟩

end Request

/-! ## Lines of entries -/

namespace Selection

variable {depth : Nat} {name other : String} {children others : List Selection}

/-- The line that an entry begins with. -/
def opening (depth : Nat) (name : String) (children : List Selection) : String :=
  indent depth ++ (name ++ if children.isEmpty then "" else openBrace)

/-- The other lines of an entry, before what follows it. -/
def block (depth : Nat) (children : List Selection) (rest : List String) : List String :=
  if children.isEmpty then rest
  else linesOfAll (depth + 1) children ++ (indent depth ++ closeBrace) :: rest

theorem linesOfAll_cons {rest : List Selection} {later : List String} :
    linesOfAll depth (.node name children :: rest) ++ later =
      opening depth name children :: block depth children (linesOfAll depth rest ++ later) := by
  cases children with
  | nil => simp [linesOfAll_leaf, opening, block]
  | cons first more => simp [linesOfAll_block, opening, block, String.append_assoc]

/-- The name of an entry is read off its first line, and whether there are entries below it. -/
theorem eq_of_opening (named : isName name = true) (otherNamed : isName other = true)
    (same : opening depth name children = opening depth other others) :
    name = other ∧ children.isEmpty = others.isEmpty := by
  have stops (entries : List Selection) :
      Stops isNamePart (if entries.isEmpty then "" else openBrace).toList := by
    cases entries with
    | nil => simp [Stops]
    | cons entry rest =>
      simp [Stops, openBrace]
      decide
  obtain ⟨names, marks⟩ := eq_of_names named otherNamed (stops children) (stops others)
    ((String.append_right_inj _).1 same)
  refine ⟨names, ?_⟩
  cases children <;> cases others <;> simp_all [openBrace]

/-- No entry begins with the line that ends a block. -/
theorem opening_ne_close (named : isName name = true) (lower : Nat) :
    opening depth name children ≠ indent lower ++ closeBrace := by
  intro same
  obtain ⟨first, rest, spelled, start⟩ := exists_of_isName named
  have unlike (mark : Char) (other : isNameStart mark = false) : first ≠ mark := by
    rintro rfl
    simp [other] at start
  have blanks (depth : Nat) : ∀ char ∈ (indent depth).toList, (char == ' ') = true := by
    simp [indent]
  have chars := congrArg String.toList same
  simp only [opening, String.toList_append, spelled, List.cons_append] at chars
  obtain ⟨_, marks⟩ := cut_unique (blanks depth) (blanks lower)
    (by simp [Stops, unlike ' ' (by decide)]) (by simp [Stops, closeBrace]) chars
  exact unlike '\x7d' (by decide) (List.cons.inj marks).1

/-- Entries are read off their lines up to the end of the block that they stand in. The end of a
block inside has entries before it, so that each block is read as its entries were written. -/
theorem eq_of_linesOfAll {lower : Nat} {first second : List Selection}
    {firstLater secondLater : List String} (firstNamed : AllNamed first)
    (secondNamed : AllNamed second)
    (same : linesOfAll depth first ++ (indent lower ++ closeBrace) :: firstLater =
      linesOfAll depth second ++ (indent lower ++ closeBrace) :: secondLater) :
    first = second ∧ firstLater = secondLater := by
  induction first using induction_on_entries
    generalizing depth lower second firstLater secondLater with
  | nil =>
    cases second with
    | nil => exact ⟨rfl, (List.cons.inj same).2⟩
    | cons entry rest =>
      obtain ⟨name, children⟩ := entry
      rw [linesOfAll_cons] at same
      exact absurd (List.cons.inj same).1.symm (opening_ne_close (allNamed_cons.1 secondNamed).1 _)
  | cons name children rest below after =>
    obtain ⟨named, childrenNamed, restNamed⟩ := allNamed_cons.1 firstNamed
    rw [linesOfAll_cons] at same
    cases second with
    | nil => exact absurd (List.cons.inj same).1 (opening_ne_close named _)
    | cons entry others =>
      obtain ⟨other, inner⟩ := entry
      obtain ⟨otherNamed, innerNamed, othersNamed⟩ := allNamed_cons.1 secondNamed
      rw [linesOfAll_cons] at same
      obtain ⟨line, lines⟩ := List.cons.inj same
      obtain ⟨rfl, bare⟩ := eq_of_opening named otherNamed line
      unfold block at lines
      rw [bare] at lines
      -- Below an entry the block ends at its own depth, and what follows is read on from there.
      by_cases leaf : inner.isEmpty = true
      · obtain rfl := List.isEmpty_iff.1 leaf
        obtain rfl := List.isEmpty_iff.1 bare
        obtain ⟨rfl, later⟩ := after restNamed othersNamed lines
        exact ⟨rfl, later⟩
      · rw [if_neg leaf, if_neg leaf] at lines
        obtain ⟨rfl, following⟩ := below childrenNamed innerNamed lines
        obtain ⟨rfl, later⟩ := after restNamed othersNamed following
        exact ⟨rfl, later⟩

end Selection

/-! ## Whole documents -/

namespace Request

variable {request first second : Request}

/-- The types of the variables, by name. -/
def variableTypes (request : Request) : Entries String :=
  request.bindings.entries.map fun entry => (entry.1, entry.2.type)

private theorem get?_variableTypes (request : Request) (name : String) :
    request.variableTypes.get? name = request.variableType? name :=
  Entries.get?_map request.bindings.entries Binding.type name

private theorem WellNamed.of_mem_types (named : request.WellNamed) {entry : String × String}
    (member : entry ∈ request.variableTypes) : isName entry.1 = true ∧ IsTypeName entry.2 := by
  obtain ⟨binding, bound, rfl⟩ := List.mem_map.1 member
  exact named.of_mem bound

/-- A variable as it is declared. -/
def declaration (entry : String × String) : String := "$" ++ entry.1 ++ ": " ++ entry.2

theorem declarations_eq (request : Request) :
    request.declarations = request.variableTypes.map declaration := by
  simp [declarations, variableTypes, declaration]

private theorem comma_not_mem_declarations (named : request.WellNamed) :
    ∀ part ∈ request.declarations, ',' ∉ part.toList := by
  intro part listed
  obtain ⟨entry, member, rfl⟩ := List.mem_map.1 listed
  obtain ⟨name, type⟩ := named.of_mem member
  simp [comma_not_mem_name name, comma_not_mem_type type]

private theorem comma_not_mem_arguments (named : request.WellNamed) :
    ∀ part ∈ request.arguments, ',' ∉ part.toList := by
  intro part listed
  obtain ⟨entry, member, rfl⟩ := List.mem_map.1 listed
  simp [comma_not_mem_name (named.of_mem member).1]

/-- A variable and its type are read off the declaration. -/
theorem eq_of_declaration {entry other : String × String} (named : isName entry.1 = true)
    (otherNamed : isName other.1 = true) (same : declaration entry = declaration other) :
    entry = other := by
  simp only [declaration, String.append_assoc, String.append_right_inj] at same
  have stops (type : String) : Stops isNamePart (": " ++ type).toList := by
    simp [Stops]
    decide
  obtain ⟨names, types⟩ := eq_of_names named otherNamed (stops _) (stops _) same
  exact Prod.ext names ((String.append_right_inj _).1 types)

private theorem eq_of_declarations {types others : Entries String}
    (named : ∀ entry ∈ types, isName entry.1 = true)
    (otherNamed : ∀ entry ∈ others, isName entry.1 = true)
    (same : types.map declaration = others.map declaration) : types = others := by
  induction types generalizing others with
  | nil => exact (List.map_eq_nil_iff.1 same.symm).symm
  | cons entry rest ih =>
    cases others with
    | nil => cases same
    | cons other more =>
      obtain ⟨own, later⟩ := List.forall_mem_cons.1 named
      obtain ⟨ownOther, laterOther⟩ := List.forall_mem_cons.1 otherNamed
      obtain ⟨head, tail⟩ := List.cons.inj same
      rw [eq_of_declaration own ownOther head, ih later laterOther tail]

private theorem WellNamed.newline_not_mem_lines (named : request.WellNamed) :
    ∀ line ∈ request.lines, '\n' ∉ line.toList := by
  intro line listed broken
  exact absurd (spelled_iff.1 (named.spelled_lines line listed) '\n' broken) (by decide)

/-- The kind, the name and the variables of an operation are read off the first line. -/
theorem eq_of_operation (firstNamed : first.WellNamed) (secondNamed : second.WellNamed)
    (same : first.kind.name ++ " " ++ first.name ++ parenthesized first.declarations ++ openBrace =
      second.kind.name ++ " " ++ second.name ++ parenthesized second.declarations ++ openBrace) :
    first.kind = second.kind ∧ first.name = second.name ∧
      first.variableTypes = second.variableTypes := by
  simp only [String.append_assoc] at same
  have stops (rest : String) : Stops isNamePart (" " ++ rest).toList := by
    simp [Stops]
    decide
  obtain ⟨kinds, rest⟩ := eq_of_names first.kind.isName_name second.kind.isName_name
    (stops _) (stops _) same
  obtain ⟨names, declared⟩ := eq_of_opening firstNamed.operation secondNamed.operation
    (comma_not_mem_declarations firstNamed) (comma_not_mem_declarations secondNamed)
    (by simpa only [String.append_assoc] using (String.append_right_inj _).1 rest)
  refine ⟨OperationKind.eq_of_name kinds, names, ?_⟩
  rw [declarations_eq, declarations_eq] at declared
  exact eq_of_declarations (fun entry member => (firstNamed.of_mem_types member).1)
    (fun entry member => (secondNamed.of_mem_types member).1) declared

/-- The root field is read off the second line. -/
theorem eq_of_root (firstNamed : first.WellNamed) (secondNamed : second.WellNamed)
    (same : indent 1 ++ first.field ++ parenthesized first.arguments ++ openBrace =
      indent 1 ++ second.field ++ parenthesized second.arguments ++ openBrace) :
    first.field = second.field := by
  simp only [String.append_assoc, String.append_right_inj] at same
  exact (eq_of_opening firstNamed.root secondNamed.root (comma_not_mem_arguments firstNamed)
    (comma_not_mem_arguments secondNamed) (by simpa only [String.append_assoc] using same)).1

/-- Two requests with the same document differ in the values of their variables only, and in the
model that they are about. The selections are the same trees: in order, as deep, and with what is
selected twice. -/
theorem document_determines (firstNamed : first.WellNamed) (secondNamed : second.WellNamed)
    (same : first.document = second.document) :
    first.kind = second.kind ∧ first.name = second.name ∧ first.field = second.field ∧
      (∀ name, first.variableType? name = second.variableType? name) ∧
      first.selection = second.selection := by
  have lines := eq_of_join_lines firstNamed.newline_not_mem_lines
    secondNamed.newline_not_mem_lines same
  simp only [Request.lines, List.cons_append, List.nil_append] at lines
  obtain ⟨operation, rest⟩ := List.cons.inj lines
  obtain ⟨root, entries⟩ := List.cons.inj rest
  obtain ⟨kind, name, types⟩ := eq_of_operation firstNamed secondNamed operation
  refine ⟨kind, name, eq_of_root firstNamed secondNamed root, ?_, ?_⟩
  · intro variableName
    rw [← get?_variableTypes, types, get?_variableTypes]
  · exact (Selection.eq_of_linesOfAll firstNamed.selected secondNamed.selected entries).1

/-- A page of entries that selects a city twice. -/
def cityPage (token : String) : Request :=
  (make .query "SyncEntries" "syncEntries" "Entry"
    [.node "items" [.leaf "id", .node "place" [.leaf "city", .leaf "city"]], .leaf "nextToken"])
    |>.nextPage token

private theorem wellNamed_cityPage (token : String) : (cityPage token).WellNamed := by
  have selected : Selection.AllNamed (cityPage token).selection := by
    simp only [cityPage, nextPage, bind, make, Selection.allNamed_cons,
      Selection.allNamed_leaf_cons, Selection.allNamed_nil]
    decide
  exact .bind (.make (by decide) (by decide) selected) (by decide) ⟨"String", by decide, .inl rfl⟩ _

theorem cityPages_alike :
    (cityPage "first").value? "nextToken" = some (.str "first") ∧
      (cityPage "second").value? "nextToken" = some (.str "second") ∧
      (cityPage "first").WellNamed ∧ (cityPage "second").WellNamed ∧
      (cityPage "first").document = (cityPage "second").document ∧
      (∀ name, (cityPage "first").variableType? name = (cityPage "second").variableType? name) ∧
      (cityPage "first").selection = (cityPage "second").selection := by
  have first := wellNamed_cityPage "first"
  have second := wellNamed_cityPage "second"
  have same : (cityPage "first").document = (cityPage "second").document := rfl
  obtain ⟨_, _, _, types, selection⟩ := document_determines first second same
  exact ⟨rfl, rfl, first, second, same, types, selection⟩

end Request

end ModelSync
