import ModelSync.Json.Decode

/-! Requests: a root operation with its variables and selection. The document is kept in
structured form, so that further variables can be bound after it was built. -/
namespace ModelSync

/-- The kind of root operation. -/
inductive OperationKind where
  | query
  | mutation
  | subscription
deriving DecidableEq

/-- The kinds by their names, in declaration order. -/
def OperationKind.named : List (String × OperationKind) :=
  [("query", .query), ("mutation", .mutation), ("subscription", .subscription)]

/-- The keyword of a kind. -/
def OperationKind.name : OperationKind → String
  | .query => "query"
  | .mutation => "mutation"
  | .subscription => "subscription"

def OperationKind.encode (kind : OperationKind) : Json := .str kind.name

def OperationKind.decode : Decoder OperationKind := Decode.oneOf OperationKind.named

/-- An entry of a selection set, with the entries selected below it. -/
inductive Selection where
  | node (name : String) (children : List Selection)

namespace Selection

/-- An entry with nothing selected below it. -/
def leaf (name : String) : Selection := .node name []

def name : Selection → String
  | .node name _ => name

def children : Selection → List Selection
  | .node _ children => children

end Selection

/-- A variable's declared type and its value. -/
structure Binding where
  type : String
  value : Json

/-- An operation with its variables. Every variable is passed to the root field as an
argument of the same name. -/
structure Request where
  kind : OperationKind
  name : String
  /-- The root field. -/
  field : String
  model : String
  bindings : KeyMap Binding
  selection : List Selection

namespace Request

/-- A request without variables. -/
def make (kind : OperationKind) (name field model : String) (selection : List Selection) :
    Request :=
  ⟨kind, name, field, model, .empty, selection⟩

/-- Bind a variable; a name that is bound already is bound anew. -/
def bind (request : Request) (name type : String) (value : Json) : Request :=
  { request with bindings := request.bindings.insert name ⟨type, value⟩ }

/-- Continue a paginated query from the token of the page before. -/
def nextPage (request : Request) (token : String) : Request :=
  request.bind "nextToken" "String" (.str token)

/-- The value of a variable. -/
def value? (request : Request) (name : String) : Option Json :=
  (request.bindings.get? name).map Binding.value

/-- The declared type of a variable. -/
def variableType? (request : Request) (name : String) : Option String :=
  (request.bindings.get? name).map Binding.type

/-- The values of the variables, by name. -/
def variableValues (request : Request) : List (String × Json) :=
  request.bindings.entries.map fun entry => (entry.1, entry.2.value)

end Request

end ModelSync
