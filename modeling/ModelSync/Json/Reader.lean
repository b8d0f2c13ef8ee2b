import ModelSync.Json.Value

/-! Reading JSON text in one pass. A lexer groups characters into tokens, and a stack of
unfinished lists and objects takes up the tokens; both are state machines, so reading is
a fold over the text. -/
namespace ModelSync.Json

/-! ## Tokens -/

/-- A mark, a word (number, literal) or a string. -/
inductive Token where
  | openList
  | closeList
  | openObject
  | closeObject
  | comma
  | colon
  | word (chars : List Char)
  | text (value : String)

/-- What the lexer is inside of. Collected characters are held last first. -/
inductive Lexeme where
  | between
  | word (chars : List Char)
  | text (chars : List Char)
  | escape (chars : List Char)
  /-- Digits of a numeric escape, after the first half of a surrogate pair if one was
  read. -/
  | code (chars : List Char) (high : Option Nat) (digits : Nat) (value : Nat)
  /-- The first half of a surrogate pair was read; the second half must follow. -/
  | half (chars : List Char) (high : Nat) (backslash : Bool)

/-- The lexer's state: where it is, and the tokens so far, last first. -/
structure Lexer where
  inside : Lexeme
  tokens : List Token

private def isSpace (char : Char) : Bool :=
  char == ' ' || char == '\n' || char == '\r' || char == '\t'

private def mark? : Char → Option Token
  | '[' => some .openList
  | ']' => some .closeList
  | '\x7b' => some .openObject
  | '\x7d' => some .closeObject
  | ',' => some .comma
  | ':' => some .colon
  | _ => none

private def hexValue? (char : Char) : Option Nat :=
  if char.isDigit then some (char.toNat - '0'.toNat)
  else if 'a' ≤ char && char ≤ 'f' then some (char.toNat - 'a'.toNat + 10)
  else if 'A' ≤ char && char ≤ 'F' then some (char.toNat - 'A'.toNat + 10)
  else none

private def shortEscape? : Char → Option Char
  | '"' => some '"'
  | '\\' => some '\\'
  | '/' => some '/'
  | 'b' => some '\x08'
  | 'f' => some '\x0c'
  | 'n' => some '\n'
  | 'r' => some '\r'
  | 't' => some '\t'
  | _ => none

/-- A complete numeric escape. A first surrogate waits for a second one; a second one
completes the pair; anything else out of place is refused. -/
private def completeCode? (chars : List Char) (high : Option Nat) (value : Nat) :
    Option Lexeme :=
  let isHigh := 0xD800 ≤ value && value < 0xDC00
  let isLow := 0xDC00 ≤ value && value < 0xE000
  match high with
  | none =>
    if isHigh then some (.half chars value false)
    else if isLow then none
    else some (.text (Char.ofNat value :: chars))
  | some first =>
    if isLow then
      some (.text (Char.ofNat (0x10000 + (first - 0xD800) * 0x400 + (value - 0xDC00)) :: chars))
    else none

private def Lexer.finishWord (lexer : Lexer) : Lexer :=
  match lexer.inside with
  | .word chars => ⟨.between, .word chars.reverse :: lexer.tokens⟩
  | _ => lexer

private def Lexer.step? (lexer : Lexer) (char : Char) : Option Lexer :=
  match lexer.inside with
  | .between | .word _ =>
    if isSpace char then some lexer.finishWord
    else if char == '"' then
      let finished := lexer.finishWord
      some ⟨.text [], finished.tokens⟩
    else
      match mark? char with
      | some token =>
        let finished := lexer.finishWord
        some ⟨.between, token :: finished.tokens⟩
      | none =>
        match lexer.inside with
        | .word chars => some ⟨.word (char :: chars), lexer.tokens⟩
        | _ => some ⟨.word [char], lexer.tokens⟩
  | .text chars =>
    if char == '"' then some ⟨.between, .text (String.ofList chars.reverse) :: lexer.tokens⟩
    else if char == '\\' then some ⟨.escape chars, lexer.tokens⟩
    else if char.toNat < 0x20 then none
    else some ⟨.text (char :: chars), lexer.tokens⟩
  | .escape chars =>
    if char == 'u' then some ⟨.code chars none 0 0, lexer.tokens⟩
    else (shortEscape? char).map fun escaped => ⟨.text (escaped :: chars), lexer.tokens⟩
  | .code chars high digits value => do
    let digit ← hexValue? char
    let next := value * 16 + digit
    if digits < 3 then some ⟨.code chars high (digits + 1) next, lexer.tokens⟩
    else
      let inside ← completeCode? chars high next
      some ⟨inside, lexer.tokens⟩
  | .half chars high backslash =>
    if !backslash && char == '\\' then some ⟨.half chars high true, lexer.tokens⟩
    else if backslash && char == 'u' then some ⟨.code chars (some high) 0 0, lexer.tokens⟩
    else none

/-- The tokens of a text. -/
def tokens? (text : String) : Option (List Token) := do
  let lexer ← text.toList.foldlM Lexer.step? ⟨.between, []⟩
  let finished := lexer.finishWord
  match finished.inside with
  | .between => some finished.tokens.reverse
  | _ => none

/-! ## Values -/

/-- A list or object whose end has not been read. The items of a list are held last
first. -/
inductive Frame where
  | list (items : List Json)
  | object (members : Entries Json) (key : String)

/-- What may come next. -/
inductive Expect where
  | value
  | valueOrClose
  | keyOrClose (members : Entries Json)
  | key (members : Entries Json)
  | colon (members : Entries Json) (key : String)
  /-- A value is complete: a comma or the end of its container follows. -/
  | after (value : Json)

/-- The state of reading: unfinished containers, innermost first, and what comes next. -/
structure Reading where
  stack : List Frame
  expects : Expect

private def wordValue? (chars : List Char) : Option Json :=
  if chars == ['n', 'u', 'l', 'l'] then some .null
  else if chars == ['t', 'r', 'u', 'e'] then some (.bool true)
  else if chars == ['f', 'a', 'l', 's', 'e'] then some (.bool false)
  else (Number.ofChars? chars).map .num

/-- Take up the first token of a value. -/
private def beginValue? (stack : List Frame) : Token → Option Reading
  | .word chars => (wordValue? chars).map fun value => ⟨stack, .after value⟩
  | .text value => some ⟨stack, .after (.str value)⟩
  | .openList => some ⟨.list [] :: stack, .valueOrClose⟩
  | .openObject => some ⟨stack, .keyOrClose []⟩
  | _ => none

private def Reading.step? (reading : Reading) (token : Token) : Option Reading :=
  match reading.expects, token with
  | .value, token => beginValue? reading.stack token
  | .valueOrClose, .closeList =>
    match reading.stack with
    | .list items :: stack => some ⟨stack, .after (.arr items.reverse)⟩
    | _ => none
  | .valueOrClose, token => beginValue? reading.stack token
  | .keyOrClose members, .closeObject => some ⟨reading.stack, .after (.obj members)⟩
  | .keyOrClose members, .text key => some ⟨reading.stack, .colon members key⟩
  | .key members, .text key => some ⟨reading.stack, .colon members key⟩
  | .colon members key, .colon => some ⟨.object members key :: reading.stack, .value⟩
  | .after value, .comma =>
    match reading.stack with
    | .list items :: stack => some ⟨.list (value :: items) :: stack, .value⟩
    | .object members key :: stack => some ⟨stack, .key (Entries.insert key value members)⟩
    | [] => none
  | .after value, .closeList =>
    match reading.stack with
    | .list items :: stack => some ⟨stack, .after (.arr (value :: items).reverse)⟩
    | _ => none
  | .after value, .closeObject =>
    match reading.stack with
    | .object members key :: stack =>
      some ⟨stack, .after (.obj (Entries.insert key value members))⟩
    | _ => none
  | _, _ => none

/-- The value that a text denotes. A repeated key keeps its last value. -/
def parse? (text : String) : Option Json := do
  let tokens ← tokens? text
  let reading ← tokens.foldlM Reading.step? ⟨[], .value⟩
  match reading.stack, reading.expects with
  | [], .after value => some value
  | _, _ => none

end ModelSync.Json
