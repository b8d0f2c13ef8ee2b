import ModelSync.Text.Blank

/-! Lines of a file that sets variables. A value in quotes may go on over several lines, so
lines are joined until every quote is closed. A `#` after a single blank begins a comment,
which ends the line whatever quotes it contains. -/
namespace ModelSync.EnvFile

/-- What the end of a line would be inside of. -/
inductive LineContext where
  | plain
  /-- Right after a blank. -/
  | blank
  | escape
  | double
  | doubleEscape
  | single
  | singleEscape
deriving DecidableEq

/-- The context after a character. A blank that follows a blank is plain again. -/
def LineContext.next (context : LineContext) (char : Char) : LineContext :=
  match context, char with
  | .escape, _ => .plain
  | .doubleEscape, _ => .double
  | .singleEscape, _ => .single
  | .double, '\\' => .doubleEscape
  | .double, '"' => .plain
  | .double, _ => .double
  | .single, '\\' => .singleEscape
  | .single, '\'' => .plain
  | .single, _ => .single
  | _, '\\' => .escape
  | _, '"' => .double
  | _, '\'' => .single
  | .blank, _ => .plain
  | .plain, other =>
    if Text.isBlank other && other != '\n' && other != '\r' then .blank else .plain

/-- How a physical line ends. -/
inductive LineEnd where
  | within (context : LineContext)
  /-- A comment begins after these characters. -/
  | comment (before : List Char)

/-- Follow a physical line to its end; `before` holds what was read, last first. -/
def lineEnd (context : LineContext) (before : List Char) : List Char → LineEnd
  | [] => .within context
  | char :: rest =>
    if context = .blank ∧ char = '#' then .comment before.reverse
    else lineEnd (context.next char) (char :: before) rest

/-- The lines as they stand in the text, each with its line break; `carry` holds the line
being read, last character first. -/
def physicalLines (carry : List Char) : List Char → List (List Char)
  | [] => if carry.isEmpty then [] else [carry.reverse]
  | char :: rest =>
    if char = '\n' then (char :: carry).reverse :: physicalLines [] rest
    else physicalLines (char :: carry) rest

/-- Without blanks in front. -/
def dropBlanks (chars : List Char) : List Char := chars.dropWhile Text.isBlank

/-- The first character that is no blank begins a comment. -/
def isComment (line : List Char) : Bool := (dropBlanks line).head? == some '#'

/-- Without the line break. -/
def dropLineBreak (line : List Char) : List Char :=
  match line.reverse with
  | '\n' :: '\r' :: rest => rest.reverse
  | '\n' :: rest => rest.reverse
  | _ => line

/-- Join physical lines; `carry` holds the part of an unfinished line that ends in a
context. At the end of the text an unfinished line is no line at all, which is reported as
nothing. -/
def joinLines (carry : List Char) (context : LineContext) :
    List (List Char) → List (Option (List Char))
  | [] => if context = .plain then [] else [none]
  | line :: rest =>
    let whole := carry ++ line
    if isComment whole then some [] :: joinLines [] .plain rest
    else
      match lineEnd context [] line with
      | .comment before => some (carry ++ before) :: joinLines [] .plain rest
      | .within .plain => some (dropLineBreak whole) :: joinLines [] .plain rest
      | .within unfinished => joinLines whole unfinished rest

/-- The lines of a file. A mark of the byte order in front of the text is ignored. -/
def lines (text : String) : List (Option (List Char)) :=
  let chars :=
    match text.toList with
    | '\uFEFF' :: rest => rest
    | chars => chars
  joinLines [] .plain (physicalLines [] chars)

end ModelSync.EnvFile
