import ModelSync.Predicate.Filter
import ModelSync.Request.Input
import ModelSync.Request.RecordSelection

/-! The requests a client sends for one model: synchronizing queries, mutations and
subscriptions. The same schema, record and predicate always give the same document, and
any failure aborts the whole request. -/
namespace ModelSync

/-- The change feed that a subscription listens to. -/
inductive Feed where
  | onCreate
  | onUpdate
  | onDelete
deriving DecidableEq

/-- The feeds by their JSON names, in declaration order. -/
def Feed.named : List (String × Feed) :=
  [("onCreate", .onCreate), ("onUpdate", .onUpdate), ("onDelete", .onDelete)]

/-- The verb of a feed in the names of requests. -/
def Feed.verb : Feed → String
  | .onCreate => "Create"
  | .onUpdate => "Update"
  | .onDelete => "Delete"

/-- The JSON name of a feed. -/
def Feed.name (feed : Feed) : String := "on" ++ feed.verb

def Feed.encode (feed : Feed) : Json := .str feed.name

def Feed.decode : Decoder Feed := Decode.oneOf Feed.named

/-- What a mutation does to a record. -/
inductive Change where
  | create
  | update
  | delete
deriving DecidableEq

/-- The verb of a change in the names of requests. -/
def Change.verb : Change → String
  | .create => "Create"
  | .update => "Update"
  | .delete => "Delete"

/-- The verb at the beginning of a root field. -/
def Change.fieldVerb : Change → String
  | .create => "create"
  | .update => "update"
  | .delete => "delete"

namespace Request

/-- Bind a variable if there is a value for it. -/
def bindSome (request : Request) (name type : String) (value : Option Json) : Request :=
  match value with
  | some value => request.bind name type value
  | none => request

end Request

namespace Schema

/-- The filter of a synchronizing query, which has to be a group: a single leaf becomes
the only child of a conjunction. -/
def syncFilter (predicate : Predicate) : Except BuildError (Option Filter) :=
  match predicate with
  | .leaf _ _ => Predicate.compile (.group .and [predicate])
  | _ => predicate.compile

/-- A query for the records changed since the last synchronization, or for all records.
The limit bounds a page. -/
def syncRequest (schema : Schema) (lastSync : Option UInt64) (limit : Option UInt32)
    (predicate : Predicate) : Except BuildError Request := do
  let items ← schema.recordSelection
  let filter ← syncFilter predicate
  let request := Request.make .query s!"Sync{schema.plural}" s!"sync{schema.plural}" schema.name
    [.node "items" items, .leaf "nextToken", .leaf "startedAt"]
  return request
    |>.bindSome "lastSync" "AWSTimestamp" (lastSync.map Json.ofUInt64)
    |>.bindSome "limit" "Int" (limit.map Json.ofUInt32)
    |>.bindSome "filter" s!"Model{schema.name}FilterInput" (filter.map Json.obj)

/-- A mutation with an input and, if there is one, a condition. -/
def mutationRequest (schema : Schema) (change : Change) (input : Entries Json)
    (condition : Option Filter) : Except BuildError Request := do
  let selection ← schema.recordSelection
  let request := Request.make .mutation (change.verb ++ schema.name)
    (change.fieldVerb ++ schema.name) schema.name selection
  return request
    |>.bind "input" s!"{change.verb}{schema.name}Input!" (.obj input)
    |>.bindSome "condition" s!"Model{schema.name}ConditionInput" (condition.map Json.obj)

/-- Create a record. -/
def createRequest (schema : Schema) (record : RecordView) : Except BuildError Request := do
  let input ← schema.mutationInput record
  schema.mutationRequest .create input none

/-- Update a record that is still at the expected version and matches the predicate. -/
def updateRequest (schema : Schema) (record : RecordView) (expectedVersion : UInt64)
    (predicate : Predicate) : Except BuildError Request := do
  let input ← schema.mutationInput record
  let versioned := Entries.insert versionField (Json.ofUInt64 expectedVersion) input
  let condition ← predicate.compile
  schema.mutationRequest .update versioned condition

/-- Delete a record that is still at the expected version and matches the predicate. -/
def deleteRequest (schema : Schema) (id : String) (expectedVersion : UInt64)
    (predicate : Predicate) : Except BuildError Request := do
  let input := Entries.ofList
    [(idField, .str id), (versionField, Json.ofUInt64 expectedVersion)]
  let condition ← predicate.compile
  schema.mutationRequest .delete input condition

/-- Subscribe to a change feed of the model. -/
def subscriptionRequest (schema : Schema) (feed : Feed) : Except BuildError Request := do
  let selection ← schema.recordSelection
  return Request.make .subscription s!"On{feed.verb}{schema.name}" s!"on{feed.verb}{schema.name}"
    schema.name selection

end Schema

end ModelSync
