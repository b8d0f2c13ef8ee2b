/-! Texts that can be cut apart in one way only. A text that stops being of a class is cut where it
stops, a list of lines at the line breaks, and a list of parts at the separators, if the lines
and parts are free of them. -/
namespace ModelSync

/-- The text does not go on with a character of the class. -/
def Stops (kind : Char → Bool) (text : List Char) : Prop :=
  ∀ char ∈ text.head?, kind char = false

variable {kind : Char → Bool}

private theorem takeWhile_of_stops {text : List Char} (stops : Stops kind text) :
    text.takeWhile kind = [] := by
  cases text with
  | nil => rfl
  | cons char rest => simp [stops char (by simp)]

/-- Two texts that stop being of a class are cut at the same place. -/
theorem cut_unique {left right restLeft restRight : List Char}
    (leftIn : ∀ char ∈ left, kind char = true) (rightIn : ∀ char ∈ right, kind char = true)
    (leftStops : Stops kind restLeft) (rightStops : Stops kind restRight)
    (same : left ++ restLeft = right ++ restRight) : left = right ∧ restLeft = restRight := by
  have front := congrArg (List.takeWhile kind) same
  rw [List.takeWhile_append_of_pos leftIn, List.takeWhile_append_of_pos rightIn,
    takeWhile_of_stops leftStops, takeWhile_of_stops rightStops] at front
  simp only [List.append_nil] at front
  subst front
  exact ⟨rfl, List.append_cancel_left same⟩

/-- A text is cut at the first of a character that it has none of before. -/
theorem cut_at {mark : Char} {left right restLeft restRight : List Char} (leftFree : mark ∉ left)
    (rightFree : mark ∉ right) (same : left ++ mark :: restLeft = right ++ mark :: restRight) :
    left = right ∧ restLeft = restRight := by
  have other {text : List Char} (free : mark ∉ text) : ∀ char ∈ text, (char != mark) = true := by
    intro char listed
    simpa using fun found : char = mark => free (found ▸ listed)
  have stops (rest : List Char) : Stops (· != mark) (mark :: rest) := by simp [Stops]
  obtain ⟨front, back⟩ := cut_unique (other leftFree) (other rightFree) (stops _) (stops _) same
  exact ⟨front, (List.cons.inj back).2⟩

/-- Lines without breaks are read off the text that they make. -/
theorem eq_of_join_lines {first second : List String}
    (firstFree : ∀ line ∈ first, '\n' ∉ line.toList)
    (secondFree : ∀ line ∈ second, '\n' ∉ line.toList)
    (same : String.join (first.map fun line => line ++ "\n") =
      String.join (second.map fun line => line ++ "\n")) : first = second := by
  induction first generalizing second with
  | nil =>
    cases second with
    | nil => rfl
    | cons line rest => simpa using congrArg String.toList same
  | cons line rest ih =>
    cases second with
    | nil => simpa using congrArg String.toList same
    | cons other others =>
      obtain ⟨lineFree, restFree⟩ := List.forall_mem_cons.1 firstFree
      obtain ⟨otherFree, othersFree⟩ := List.forall_mem_cons.1 secondFree
      have chars := congrArg String.toList same
      simp only [List.map_cons, String.join_cons, String.toList_append, List.append_assoc] at chars
      obtain ⟨front, back⟩ := cut_at lineFree otherFree chars
      rw [String.toList_inj.1 front, ih restFree othersFree (String.toList_inj.1 back)]

/-- Parts without the separator are read off the text that lists them. -/
theorem eq_of_intercalate {first second : List String}
    (firstFree : ∀ part ∈ first, ',' ∉ part.toList)
    (secondFree : ∀ part ∈ second, ',' ∉ part.toList) (firstSome : first ≠ [])
    (secondSome : second ≠ [])
    (same : String.intercalate ", " first = String.intercalate ", " second) : first = second := by
  induction first generalizing second with
  | nil => exact absurd rfl firstSome
  | cons part rest ih =>
    obtain ⟨other, others, rfl⟩ := List.exists_cons_of_ne_nil secondSome
    obtain ⟨partFree, restFree⟩ := List.forall_mem_cons.1 firstFree
    obtain ⟨otherFree, othersFree⟩ := List.forall_mem_cons.1 secondFree
    have chars := congrArg String.toList same
    cases rest with
    | nil =>
      cases others with
      | nil => simpa using same
      | cons next later =>
        simp only [String.intercalate_singleton, String.intercalate_cons_cons,
          String.toList_append] at chars
        exact absurd (by simp [chars]) partFree
    | cons next later =>
      cases others with
      | nil =>
        simp only [String.intercalate_singleton, String.intercalate_cons_cons,
          String.toList_append] at chars
        exact absurd (by simp [← chars]) otherFree
      | cons next' later' =>
        simp only [String.intercalate_cons_cons, String.toList_append, List.append_assoc] at chars
        obtain ⟨front, back⟩ := cut_at partFree otherFree chars
        have later := String.toList_inj.1 (List.cons.inj back).2
        rw [String.toList_inj.1 front, ih restFree othersFree (by simp) (by simp) later]

end ModelSync
