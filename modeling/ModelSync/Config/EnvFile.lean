import ModelSync.Config
import ModelSync.Config.EnvFile.Line
import ModelSync.Config.EnvFile.Value

/-! Files that set variables, one `KEY=value` a line. Blank lines and comments are skipped.
A line that makes no sense ends the file; what was set before it stays. -/
namespace ModelSync

/-- Variables as they are given to a program: texts, or bytes that may be no text. -/
structure GivenVariables where
  texts : List (String × String)
  bytes : List (String × ByteArray)

/-- Bytes that are not UTF-8 give no text. -/
def GivenVariables.environment (given : GivenVariables) : Environment := fun key =>
  match given.bytes.lookup key with
  | some bytes => String.fromUTF8? bytes
  | none => given.texts.lookup key

namespace EnvFile

/-- A character that may begin a key. -/
def isKeyStart (char : Char) : Bool := char.isAlpha || char == '_'

/-- A character that may follow in a key. -/
def isKeyPart (char : Char) : Bool := char.isAlphanum || char == '_' || char == '.'

/-- The key in front of a text, and what follows after blanks. -/
def key? (chars : List Char) : Option (String × List Char) :=
  if chars.head?.any isKeyStart then
    some (String.ofList (chars.takeWhile isKeyPart), dropBlanks (chars.dropWhile isKeyPart))
  else none

/-- The key of a line, and what follows the equals sign after blanks. The word `export` may
stand in front of the key, or be the key. -/
def assignment? (chars : List Char) : Option (String × List Char) := do
  match ← key? chars with
  | (key, '=' :: value) => some (key, dropBlanks value)
  | ("export", rest) =>
    match ← key? rest with
    | (key, '=' :: value) => some (key, dropBlanks value)
    | _ => none
  | _ => none

/-- A line of a file. -/
inductive Entry where
  | blank
  | setting (key value : String)

/-- What a line says, if it makes sense. -/
def entry? (lookup : String → String) (line : List Char) : Option Entry :=
  let chars := dropBlanks (dropBlanks line.reverse).reverse
  if chars.isEmpty || isComment chars then some .blank
  else do
    let (key, value) ← assignment? chars
    if value.isEmpty || isComment value then some (.setting key "")
    else (value? lookup value).map (.setting key)

end EnvFile

namespace Environment

/-- Set a variable that is not set yet. -/
def withDefault (environment : Environment) (key value : String) : Environment := fun probe =>
  environment probe <|> if probe = key then some value else none

/-- The value that a reference to a variable stands for. -/
def reference (environment : Environment) (key : String) : String := (environment key).getD ""

/-- Take up the lines of a file, as far as they make sense. -/
def withLines (environment : Environment) : List (Option (List Char)) → Environment
  | [] | none :: _ => environment
  | some line :: rest =>
    match EnvFile.entry? environment.reference line with
    | none => environment
    | some .blank => environment.withLines rest
    | some (.setting key value) => (environment.withDefault key value).withLines rest

/-- Variables of a file are used where the environment has none; of two equal keys in the
file the first counts. -/
def withFile (environment : Environment) (text : String) : Environment :=
  environment.withLines (EnvFile.lines text)

end Environment

/-- Read a configuration from the environment and, if there is one, a file. -/
def Config.load (environment : Environment) (file : Option String) : Except ConfigError Config :=
  Config.ofEnvironment (file.elim environment environment.withFile)

end ModelSync
