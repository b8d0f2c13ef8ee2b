/-! White space as Unicode defines the property, with trimming and splitting by it.
The zero-width space, the byte order mark and the control characters U+001C to U+001F
do not have the property. -/
namespace ModelSync.Text

/-- The 25 characters with the White_Space property, as inclusive ranges. -/
def blankRanges : List (Nat × Nat) :=
  [(0x09, 0x0D), (0x20, 0x20), (0x85, 0x85), (0xA0, 0xA0), (0x1680, 0x1680),
    (0x2000, 0x200A), (0x2028, 0x2029), (0x202F, 0x202F), (0x205F, 0x205F),
    (0x3000, 0x3000)]

/-- The character is white space. -/
def isBlank (char : Char) : Bool :=
  blankRanges.any fun range => range.1 ≤ char.toNat && char.toNat ≤ range.2

/-- Without white space at either end. -/
def trim (text : String) : String :=
  let front := text.toList.dropWhile isBlank
  String.ofList (front.reverse.dropWhile isBlank).reverse

/-- The maximal runs free of white space; `carry` holds the run being read, last
character first. -/
def wordsFrom (carry : List Char) : List Char → List (List Char)
  | [] => if carry.isEmpty then [] else [carry.reverse]
  | char :: rest =>
    if isBlank char then
      if carry.isEmpty then wordsFrom [] rest else carry.reverse :: wordsFrom [] rest
    else wordsFrom (char :: carry) rest

/-- The words of a text. -/
def words (text : String) : List String := (wordsFrom [] text.toList).map String.ofList

end ModelSync.Text
