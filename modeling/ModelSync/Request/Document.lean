import ModelSync.Json.Printer
import ModelSync.Request

/-! The text of a request. A document is a list of lines: the operation with its
variables, the root field with its arguments, and the selection, one entry a line and
indented by depth. Variables appear in ascending name order. -/
namespace ModelSync

/-- What opens a block. -/
def openBrace : String := " \x7b"

/-- What closes a block. -/
def closeBrace : String := "\x7d"

/-- The blanks before a line at a depth. -/
def indent (depth : Nat) : String := String.ofList (List.replicate (2 * depth) ' ')

mutual

/-- The lines of an entry. One with children opens a block. -/
def Selection.lines (depth : Nat) : Selection → List String
  | .node name [] => [indent depth ++ name]
  | .node name (first :: rest) =>
    (indent depth ++ name ++ openBrace) ::
      Selection.linesOfAll (depth + 1) (first :: rest) ++ [indent depth ++ closeBrace]

/-- The lines of several entries. -/
def Selection.linesOfAll (depth : Nat) : List Selection → List String
  | [] => []
  | entry :: rest => Selection.lines depth entry ++ Selection.linesOfAll depth rest

end

namespace Request

/-- Parts between parentheses, or nothing where there are no parts. -/
def parenthesized (parts : List String) : String :=
  if parts.isEmpty then "" else "(" ++ String.intercalate ", " parts ++ ")"

/-- The variables as the operation declares them. -/
def declarations (request : Request) : List String :=
  request.bindings.entries.map fun entry => "$" ++ entry.1 ++ ": " ++ entry.2.type

/-- The variables as the root field takes them. -/
def arguments (request : Request) : List String :=
  request.bindings.entries.map fun entry => entry.1 ++ ": $" ++ entry.1

/-- The lines of the document. -/
def lines (request : Request) : List String :=
  [request.kind.name ++ " " ++ request.name ++ parenthesized request.declarations ++ openBrace,
    indent 1 ++ request.field ++ parenthesized request.arguments ++ openBrace] ++
    Selection.linesOfAll 2 request.selection ++ [indent 1 ++ closeBrace, closeBrace]

/-- The document text. -/
def document (request : Request) : String :=
  String.join (request.lines.map fun line => line ++ "\n")

/-- What is sent: the document and the values of its variables. -/
def payload (request : Request) : Json :=
  .ofMembers [("query", .str request.document), ("variables", .obj request.variableValues)]

/-- The text of what is sent. -/
def wireText (request : Request) : String := request.payload.text

end Request

end ModelSync
