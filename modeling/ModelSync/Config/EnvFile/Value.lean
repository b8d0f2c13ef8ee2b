import ModelSync.Text.Alphanumeric

/-! Values in a file that sets variables. Single quotes keep everything as it is; elsewhere
a backslash keeps the next character and a dollar sign refers to another variable. After an
unquoted blank only a comment may follow. -/
namespace ModelSync.EnvFile

/-- What the next character of a value stands inside of. -/
inductive ValueContext where
  | text
  | escape
  /-- Single quotes. -/
  | single
  /-- The name of a variable, held last character first. -/
  | reference (name : List Char)
  /-- The name of a variable between braces. -/
  | braced (name : List Char)
  /-- Behind the value. -/
  | behind
  | comment

/-- The state of reading a value. The output is held last character first. -/
structure ValueReader where
  context : ValueContext := .text
  /-- Double quotes are open. -/
  inDouble : Bool := false
  output : List Char := []

namespace ValueReader

def goTo (reader : ValueReader) (context : ValueContext) : ValueReader := { reader with context }

/-- Put a character out; text follows. -/
def put (reader : ValueReader) (char : Char) : ValueReader :=
  { reader with context := .text, output := char :: reader.output }

/-- Put out the value of a variable; text follows. -/
def substitute (reader : ValueReader) (lookup : String → String) (name : List Char) :
    ValueReader :=
  { reader with
    context := .text
    output := (lookup (String.ofList name.reverse)).toList.reverse ++ reader.output }

/-- A character of plain text. -/
def readText (reader : ValueReader) (char : Char) : ValueReader :=
  match char, reader.inDouble with
  | '$', _ => reader.goTo (.reference [])
  | '\\', _ => reader.goTo .escape
  | '"', inDouble => { reader with inDouble := !inDouble }
  | '\'', false => reader.goTo .single
  | ' ', false | '\t', false => reader.goTo .behind
  | other, _ => reader.put other

/-- An escaped character: one with a meaning of its own, or the line break. -/
def readEscaped? (reader : ValueReader) (char : Char) : Option ValueReader :=
  match char with
  | '\\' | '\'' | '"' | '$' | ' ' => some (reader.put char)
  | 'n' => some (reader.put '\n')
  | _ => none

/-- A character after a dollar sign. The first one that cannot be in the name is put out
as it is, unless it begins another reference. -/
def readReference (reader : ValueReader) (lookup : String → String) (name : List Char)
    (char : Char) : ValueReader :=
  if Text.isAlphanumeric char then reader.goTo (.reference (char :: name))
  else if char = '\x7b' ∧ name = [] then reader.goTo (.braced [])
  else
    let substituted := reader.substitute lookup name
    if char = '$' then substituted.goTo (.reference []) else substituted.put char

/-- Read one character. -/
def step? (lookup : String → String) (reader : ValueReader) (char : Char) : Option ValueReader :=
  match reader.context with
  | .text => some (reader.readText char)
  | .escape => reader.readEscaped? char
  | .single =>
    if char = '\'' then some (reader.goTo .text)
    else some { reader with output := char :: reader.output }
  | .reference name => some (reader.readReference lookup name char)
  | .braced name =>
    if char = '\x7d' then some (reader.substitute lookup name)
    else some (reader.goTo (.braced (char :: name)))
  | .behind =>
    if char = ' ' ∨ char = '\t' then some reader
    else if char = '#' then some (reader.goTo .comment)
    else none
  | .comment => some reader

/-- The value once everything is read. Quotes and braces have to be closed. -/
def value? (lookup : String → String) (reader : ValueReader) : Option String :=
  match reader.context, reader.inDouble with
  | .single, _ | .braced _, _ | _, true => none
  | .reference name, false =>
    some (String.ofList (reader.substitute lookup name).output.reverse)
  | _, false => some (String.ofList reader.output.reverse)

end ValueReader

/-- The value that a text denotes, given the values of other variables. -/
def value? (lookup : String → String) (chars : List Char) : Option String :=
  (chars.foldlM (ValueReader.step? lookup) {}).bind (ValueReader.value? lookup)

end ModelSync.EnvFile
