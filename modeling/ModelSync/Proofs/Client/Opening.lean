import ModelSync.Proofs.Client.Registry
import ModelSync.Proofs.Request.Acceptance
import ModelSync.Proofs.Subscription.Ownership

/-! Opening a subscription. It is done in parts, of which the first ones can fail: the request is
made, the subscription is built, what has ended is dropped from the registry, and the new one is
entered. A failure finds nothing to undo, and is that of the schema. -/
namespace ModelSync

variable {α : Type}

private theorem Schema.subscriptionRequest_of_invalid {schema : Schema} {fault : BuildError}
    (invalid : schema.validate = .error fault) (feed : Feed) :
    schema.subscriptionRequest feed = .error fault := by
  rw [Schema.subscriptionRequest, Schema.recordSelection, validate_eq_error_iff.1 invalid]
  rfl

namespace Client

/-- Open a subscription to a change feed, part by part. What was done before a failure stays done.
The result is the number of the subscription. -/
def opening (schema : Schema) (feed : Feed) (decode : Decoder (Response α)) :
    ExceptT SubscriptionError (StateM (Client α)) Nat := do
  let request ← ofExcept ((schema.subscriptionRequest feed).mapError .build)
  let client ← get
  let operation ← ofExcept <| Operation.ofParts
    { request := some request
      candidates := some (client.candidatesFor schema)
      decorator := client.decoratorFor schema
      hasEndpoint := true
      hasRuntime := true
      decode }
  modify (·.add operation)
  modify pruned
  modify (·.register client.operations.length)
  return client.operations.length

variable {client : Client α} {schema : Schema}

private theorem pruned_add (client : Client α) (operation : Operation α)
    (idle : operation.state.isTerminal = false) :
    (client.add operation).pruned = client.pruned.add operation := by
  have same (id : Nat) : (client.add operation).isTerminal id = client.isTerminal id := by
    rw [isTerminal, isTerminal, add_operation?]
    split
    · subst_vars
      simp [idle, operation?_length]
    · rfl
  unfold pruned
  simp only [same]
  rfl

/-- Part by part, opening a subscription comes to the same as in one step. -/
theorem opening_eq (client : Client α) (schema : Schema) (feed : Feed)
    (decode : Decoder (Response α)) :
    (opening schema feed decode).run.run client =
      match client.subscribe schema feed decode with
      | .error failure => (.error failure, client)
      | .ok later => (.ok client.operations.length, later) := by
  cases built : schema.subscriptionRequest feed with
  | error failure =>
    simp only [opening, subscribe_of_error built, built]
    rfl
  | ok request =>
    simp only [opening, subscribe_of_ok built, built]
    rw [← pruned_add]
    · rfl
    · rfl

/-- A new subscription is entered at the end of the registry, where it cannot be yet. -/
theorem registry_register_new (orderly : Orderly client) (operation : Operation α) :
    ((client.pruned.add operation).register client.operations.length).registry =
      client.pruned.registry ++ [client.operations.length] := by
  have unlisted : client.operations.length ∉ client.pruned.registry := by
    intro listed
    have known := orderly.known _ (List.mem_filter.1 listed).1
    simp [operation?_length] at known
  unfold register isRegistered add
  rw [if_neg (by simpa using unlisted)]

/-- Whether a subscription can be opened is up to the schema. If it is refused the client is as it
was. Else there is one more subscription, idle and silent; all others are as they were, and those
among the tracked ones that have not ended are tracked still, and the new one with them. -/
theorem opening_atomic (config : Config) (claims : Option Claims) (answers : ReleaseAnswers)
    (moves : List (ClientMove α)) (schema : Schema) (feed : Feed)
    (decode : Decoder (Response α)) :
    let client := (fresh config claims answers : Client α).run moves
    let result := (opening schema feed decode).run.run client
    client.subscribe schema feed decode = result.1.map (fun _ => result.2) ∧
      match schema.validate with
      | .error fault => result = (.error (.build fault), client)
      | .ok () =>
        result.1 = .ok client.operations.length ∧
        (∃ operation, result.2.operations = client.operations ++ [operation] ∧
          operation.state = .idle ∧ operation.subscriptionId? = none ∧ operation.events = [] ∧
          operation.calls = [] ∧ operation.released = []) ∧
        result.2.registry =
          (client.registry.filter fun id => !client.isTerminal id) ++ [client.operations.length] ∧
        result.2.endpointCalls = client.endpointCalls ∧ result.2.released = client.released := by
  intro client result
  have opened : result = _ := client.opening_eq schema feed decode
  cases valid : schema.validate with
  | error fault =>
    rw [subscribe_of_error (Schema.subscriptionRequest_of_invalid valid feed)] at opened ⊢
    rw [opened]
    exact ⟨rfl, rfl⟩
  | ok =>
    obtain ⟨request, built⟩ := Schema.subscriptionRequest_eq_ok_iff.2 valid
    rw [subscribe_of_ok built] at opened ⊢
    have orderly : Orderly client := orderly_run (orderly_fresh config claims answers) moves
    rw [opened]
    refine ⟨rfl, rfl, ⟨_, register_operations _ _, rfl, rfl, rfl, rfl, rfl⟩,
      registry_register_new orderly _, ?_⟩
    rw [register_eq_tracking]
    exact ⟨rfl, rfl⟩

/-- A model whose name is none for a document. -/
def misnamed : Schema := ⟨"1st", none, [], .empty, []⟩

/-- Two subscriptions are opened, and the second is canceled. -/
def oneEnded : List (ClientMove Unit) :=
  [.subscribe ownedNotes .onCreate Operation.samplePlan.decode,
    .subscribe ownedNotes .onCreate Operation.samplePlan.decode, .cancel 1]

theorem oneEnded_opening :
    let client := (fresh {} none fun _ _ => .ok () : Client Unit).run oneEnded
    let open? (schema : Schema) :=
      (opening schema .onUpdate Operation.samplePlan.decode).run.run client
    client.registry = [0, 1] ∧
      open? misnamed = (.error (.build (.schema "1st" (.invalidName "1st"))), client) ∧
      (open? ownedNotes).1 = .ok 2 ∧ (open? ownedNotes).2.registry = [0, 2] := by
  intro client open?
  obtain ⟨selection, built⟩ := ownedNotes_request
  have valid : ownedNotes.validate = .ok () := Schema.subscriptionRequest_eq_ok_iff.1 ⟨_, built⟩
  have invalid : misnamed.validate = .error (.schema "1st" (.invalidName "1st")) := by
    have unfit : misnamed.checkNames misnamed.ownNames =
        .error (.schema "1st" (.invalidName "1st")) := by decide
    rw [Schema.validate, Schema.expand, unfit]
    rfl
  have reached : client.registry = [0, 1] ∧ client.operations.length = 2 ∧
      client.isTerminal 0 = false ∧ client.isTerminal 1 = true := by
    simp only [client, oneEnded, run, List.foldl, apply, subscribe_of_ok built]
    exact ⟨rfl, rfl, rfl, rfl⟩
  obtain ⟨registry, count, going, ended⟩ := reached
  have refused := (opening_atomic {} none (fun _ _ => .ok ()) oneEnded misnamed .onUpdate
    Operation.samplePlan.decode).2
  have opened := (opening_atomic {} none (fun _ _ => .ok ()) oneEnded ownedNotes .onUpdate
    Operation.samplePlan.decode).2
  rw [invalid] at refused
  rw [valid] at opened
  obtain ⟨number, -, tracked, -⟩ := opened
  refine ⟨registry, refused, number.trans (congrArg _ count), tracked.trans ?_⟩
  simp [show (fresh {} none (fun _ _ => .ok ()) : Client Unit).run oneEnded = client from rfl,
    registry, count, going, ended]

end Client

end ModelSync
