import ModelSync.Text.Blank

/-! Words of a text. The scan for words finds the maximal runs free of white space: those that fill
the text up to its ends or to white space on either side. So words that are written in a row, with
white space between them, are read back as they are. -/
namespace ModelSync.Text

/-- A word of a text: it is not empty, has no white space, and has only white space next to it. -/
def IsWord (text word : List Char) : Prop :=
  word ≠ [] ∧ (∀ char ∈ word, isBlank char = false) ∧
    ∃ before after, text = before ++ word ++ after ∧
      (∀ char ∈ before.getLast?, isBlank char = true) ∧
      ∀ char ∈ after.head?, isBlank char = true

variable {carry text front rest word : List Char} {blank : Char}

/-- What is a word after white space is one with a text before. -/
theorem IsWord.after (isWord : IsWord rest word) (isBlank : isBlank blank = true) :
    IsWord (front ++ blank :: rest) word := by
  obtain ⟨filled, solid, before, after, rfl, left, right⟩ := isWord
  refine ⟨filled, solid, front ++ blank :: before, after, by simp, ?_, right⟩
  cases before with
  | nil => simpa using isBlank
  | cons first others => simpa using left

/-- A word that a text begins with ends at white space. -/
theorem isWord_append_blank (filled : word ≠ []) (solid : ∀ char ∈ word, isBlank char = false)
    (isBlank : isBlank blank = true) : IsWord (word ++ blank :: rest) word :=
  ⟨filled, solid, [], blank :: rest, rfl, by simp, by simpa using isBlank⟩

theorem isWord_self (filled : word ≠ []) (solid : ∀ char ∈ word, isBlank char = false) :
    IsWord word word :=
  ⟨filled, solid, [], [], by simp, by simp, by simp⟩

/-- What is found is a word of the run being read and the text after it. -/
theorem isWord_of_mem_wordsFrom (solid : ∀ char ∈ carry, isBlank char = false)
    (found : word ∈ wordsFrom carry text) : IsWord (carry.reverse ++ text) word := by
  have run {chars : List Char} (solid : ∀ char ∈ chars, isBlank char = false) :
      ∀ char ∈ chars.reverse, isBlank char = false := by simpa using solid
  fun_induction wordsFrom carry text with
  | case1 carry empty => simp at found
  | case2 carry filled =>
    obtain rfl : word = carry.reverse := by simpa using found
    simpa using isWord_self (by simpa using filled) (run solid)
  | case3 carry char rest blank empty ih =>
    exact (ih nofun found).after blank
  | case4 carry char rest blank filled ih =>
    rcases List.mem_cons.1 found with rfl | later
    · exact isWord_append_blank (by simpa using filled) (run solid) blank
    · exact (ih nofun later).after blank
  | case5 carry char rest solidChar ih =>
    have longer : ∀ other ∈ char :: carry, isBlank other = false :=
      List.forall_mem_cons.2 ⟨by simpa using solidChar, solid⟩
    simpa using ih longer found

/-- The words on both sides of white space. -/
theorem wordsFrom_append_blank (isBlank : isBlank blank = true) :
    wordsFrom carry (text ++ blank :: rest) = wordsFrom carry text ++ wordsFrom [] rest := by
  fun_induction wordsFrom carry text with
  | case1 carry empty => simp [wordsFrom, isBlank, empty]
  | case2 carry filled => simp [wordsFrom, isBlank, filled]
  | case3 carry char others blankChar empty ih => simp [wordsFrom, blankChar, empty, ih]
  | case4 carry char others blankChar filled ih => simp [wordsFrom, blankChar, filled, ih]
  | case5 carry char others solidChar ih => simp [wordsFrom, solidChar, ih]

/-- A text without white space is a word, if there is anything in it. -/
theorem wordsFrom_of_solid (solid : ∀ char ∈ text, isBlank char = false)
    (filled : carry.reverse ++ text ≠ []) : wordsFrom carry text = [carry.reverse ++ text] := by
  induction text generalizing carry with
  | nil => simpa [wordsFrom] using filled
  | cons char rest ih =>
    obtain ⟨own, others⟩ := List.forall_mem_cons.1 solid
    simp [wordsFrom, own, ih others]

private theorem mem_wordsFrom_of_isWord (isWord : IsWord text word) : word ∈ wordsFrom [] text := by
  obtain ⟨filled, solid, before, after, rfl, left, right⟩ := isWord
  have alone : wordsFrom [] word = [word] :=
    wordsFrom_of_solid solid (by rwa [List.reverse_nil, List.nil_append])
  -- The white space next to the word is where the scan cuts: first after it, then before it.
  have front : word ∈ wordsFrom [] (word ++ after) := by
    cases after with
    | nil => simp [alone]
    | cons blank rest =>
      rw [wordsFrom_append_blank (right blank (by simp)), alone]
      exact List.mem_cons_self
  rcases List.eq_nil_or_concat before with rfl | ⟨others, blank, rfl⟩
  · simpa using front
  · simp only [List.concat_eq_append, List.append_assoc, List.cons_append, List.nil_append]
    rw [wordsFrom_append_blank (left blank (by simp))]
    exact List.mem_append_right _ front

/-- The words of a text are what the scan finds. -/
theorem mem_words_iff {text word : String} :
    word ∈ words text ↔ IsWord text.toList word.toList := by
  constructor
  · intro listed
    obtain ⟨chars, found, rfl⟩ := List.mem_map.1 listed
    have isWord : IsWord text.toList chars := isWord_of_mem_wordsFrom (List.forall_mem_nil _) found
    simpa using isWord
  · intro isWord
    exact List.mem_map.2 ⟨word.toList, mem_wordsFrom_of_isWord isWord, by simp⟩

/-! ## Words written into a text -/

/-- A word that can be read back from a text: there is something in it, and no white space. -/
def IsSolid (word : List Char) : Prop := word ≠ [] ∧ ∀ char ∈ word, isBlank char = false

/-- Words in a row, with some white space between each two of them. -/
inductive Joined : List (List Char) → List Char → Prop where
  | nil : Joined [] []
  | single (word : List Char) : Joined [word] word
  | cons {next text gap : List Char} {others : List (List Char)} (word : List Char)
      (wide : gap ≠ []) (blank : ∀ char ∈ gap, isBlank char = true)
      (later : Joined (next :: others) text) : Joined (word :: next :: others) (word ++ gap ++ text)

/-- A text holds words in a row, with white space before and after them or none. -/
def Spells (text : String) (names : List String) : Prop :=
  ∃ before row after, text.toList = before ++ row ++ after ∧
    (∀ char ∈ before, isBlank char = true) ∧ (∀ char ∈ after, isBlank char = true) ∧
    Joined (names.map String.toList) row

/-- White space in front of a text is passed over. -/
theorem wordsFrom_blank_append {gap : List Char} (blank : ∀ char ∈ gap, isBlank char = true)
    (rest : List Char) : wordsFrom [] (gap ++ rest) = wordsFrom [] rest := by
  induction gap with
  | nil => rfl
  | cons char others ih =>
    obtain ⟨own, later⟩ := List.forall_mem_cons.1 blank
    simp [wordsFrom, own, ih later]

/-- White space of any length cuts a text, where there is some. -/
theorem wordsFrom_append_gap {gap : List Char} (wide : gap ≠ [])
    (blank : ∀ char ∈ gap, isBlank char = true) (text rest : List Char) :
    wordsFrom [] (text ++ gap ++ rest) = wordsFrom [] text ++ wordsFrom [] rest := by
  cases gap with
  | nil => exact absurd rfl wide
  | cons char others =>
    obtain ⟨own, later⟩ := List.forall_mem_cons.1 blank
    rw [List.append_assoc, List.cons_append, wordsFrom_append_blank own,
      wordsFrom_blank_append later]

private theorem wordsFrom_of_joined {names : List (List Char)} {row : List Char}
    (joined : Joined names row) (solid : ∀ word ∈ names, IsSolid word) :
    wordsFrom [] row = names := by
  induction joined with
  | nil => rfl
  | single word =>
    obtain ⟨filled, free⟩ := solid word List.mem_cons_self
    exact wordsFrom_of_solid free (by rwa [List.reverse_nil, List.nil_append])
  | cons word wide blank later ih =>
    obtain ⟨⟨filled, free⟩, others⟩ := List.forall_mem_cons.1 solid
    have own : wordsFrom [] word = [word] :=
      wordsFrom_of_solid free (by rwa [List.reverse_nil, List.nil_append])
    rw [wordsFrom_append_gap wide blank, own, ih others, List.singleton_append]

/-- Words are read back from a text that holds them. -/
theorem words_of_spells {text : String} {names : List String} (spells : Spells text names)
    (solid : ∀ name ∈ names, IsSolid name.toList) : words text = names := by
  obtain ⟨before, row, after, split, front, back, joined⟩ := spells
  have read : wordsFrom [] row = names.map String.toList :=
    wordsFrom_of_joined joined (List.forall_mem_map.2 solid)
  have around : wordsFrom [] text.toList = wordsFrom [] row := by
    rw [split]
    by_cases wide : after = []
    · rw [wide, List.append_nil, wordsFrom_blank_append front]
    · have cut := wordsFrom_append_gap wide back (before ++ row) []
      have nothing : wordsFrom [] [] = [] := rfl
      rwa [List.append_nil, nothing, List.append_nil, wordsFrom_blank_append front] at cut
  rw [words, around, read, List.map_map]
  simp [Function.comp_def]

end ModelSync.Text
