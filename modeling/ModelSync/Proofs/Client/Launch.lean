import ModelSync.Proofs.Client.Registry
import ModelSync.Proofs.Request.Acceptance
import ModelSync.Proofs.Subscription.Launch
import ModelSync.Proofs.Subscription.Ownership

/-! What comes of a subscription that a client opens. The client takes its candidates from the rules
of the model only if there are some, so there always is one to try: once started, the subscription
comes to call the endpoint, or fails since its request could not be decorated. -/
namespace ModelSync

variable {α : Type}

theorem Candidates.Sure.mono {source : Candidates} {count more : Nat} (sure : source.Sure count)
    (larger : count ≤ more) : source.Sure more where
  first := sure.first
  clean := sure.clean
  ended position past := sure.ended position (Nat.le_trans larger past)

namespace Client

/-- However a client is configured, the candidates of a model are to be relied on. -/
theorem sure_candidatesFor (client : Client α) (schema : Schema) :
    (client.candidatesFor schema).Sure (schema.rules.length + 1) := by
  unfold candidatesFor
  split
  case isTrue declared =>
    have ruled : schema.rules ≠ [] := by simpa using (Bool.and_eq_true_iff.1 declared).2
    exact (Candidates.sure_ofRules ruled).mono (Nat.le_succ _)
  case isFalse => exact (Candidates.sure_fixed _).mono (Nat.le_add_left 1 _)

private theorem exists_opened (client : Client α) {schema : Schema}
    (valid : schema.validate = .ok ()) (feed : Feed) (decode : Decoder (Response α)) :
    ∃ opened plan, client.subscribe schema feed decode = .ok opened ∧
      opened.operation? client.operations.length =
        some (.make plan (client.candidatesFor schema)) := by
  obtain ⟨request, built⟩ := Schema.subscriptionRequest_eq_ok_iff.2 valid
  refine ⟨_, ⟨request, client.decoratorFor schema, decode⟩, subscribe_of_ok built decode, ?_⟩
  rw [operation?, register_operations]
  exact (client.pruned.add_operation? _ _).trans (if_pos rfl)

/-- A subscription to a valid model can be opened, however the client is configured. Whatever
happens then, it tells of no error about its candidates or the model. Once its loop has made its
first step, not having been canceled before, it has called the endpoint or has failed since its
request could not be decorated, and that is all it tells. The first step is over after a number of
small steps that the rules of the model bound. -/
theorem opened_tries (client : Client α) {schema : Schema} (valid : schema.validate = .ok ())
    (feed : Feed) (decode : Decoder (Response α)) :
    let id := client.operations.length
    ∃ opened, client.subscribe schema feed decode = .ok opened ∧
      (∀ moves, ∃ operation, (opened.run moves).operation? id = some operation ∧
        operation.Unsourced) ∧
      (∀ before after earlier, (opened.run before).operation? id = some earlier →
        earlier.HasStepped → earlier.state ≠ .canceled →
        ∃ operation, (opened.run (before ++ after)).operation? id = some operation ∧
          operation.Tried) ∧
      ∀ before during, 4 * schema.rules.length + 9 ≤ during.countP (ClientMove.isStep id) →
        ∃ earlier, (opened.run (before ++ .start id :: during)).operation? id = some earlier ∧
          (earlier.state = .canceled ∨ earlier.HasStepped) := by
  intro id
  obtain ⟨opened, plan, done, held⟩ := client.exists_opened valid feed decode
  have sure := client.sure_candidatesFor schema
  have reached (moves : List (ClientMove α)) :
      ∃ own, (opened.run moves).operation? id =
        some ((Operation.make plan (client.candidatesFor schema)).run own) := by
    obtain ⟨own, later, -⟩ := opened.advances_run moves id _ held
    exact ⟨own, later⟩
  refine ⟨opened, done, fun moves => ?_, fun before after earlier found stepped kept => ?_,
    fun before during long => ?_⟩
  · obtain ⟨own, later⟩ := reached moves
    exact ⟨_, later, Operation.unsourced_run plan sure own⟩
  · obtain ⟨own, first⟩ := reached before
    obtain rfl := Option.some.inj (found.symm.trans first)
    obtain ⟨more, later, -⟩ := (opened.run before).advances_run after id _ first
    refine ⟨_, by rw [run_append]; exact later, ?_⟩
    rw [← Operation.run_append]
    exact Operation.tried_run plan sure own more stepped kept
  · obtain ⟨own, first⟩ := reached before
    have started : ((opened.run before).apply (.start id)).operation? id =
        some (((Operation.make plan (client.candidatesFor schema)).run own).apply .start) := by
      rw [apply_of_subject _ rfl, update_operation?, if_pos rfl, first]
      rfl
    obtain ⟨more, later, counted⟩ :=
      ((opened.run before).apply (.start id)).advances_run during id _ started
    refine ⟨_, by rw [run_append]; exact later, ?_⟩
    rw [← Operation.run_concat]
    have turned := ((Operation.make plan (client.candidatesFor schema)).run own).transition_apply
      .start
    rcases turned.start_begins (Operation.coherent_run plan _ own) with begun | canceled
    · rw [← Operation.run_concat] at begun
      rw [← Operation.run_append]
      exact .inr (Operation.hasStepped_run plan sure _ more begun (by rw [counted]; omega))
    · rw [← Operation.run_concat] at canceled
      have ended := Operation.phase_of_terminal (by rw [canceled]; rfl) more
      exact .inl (by rw [Operation.state, ended]; exact canceled)

/-- A caller without a name, for a model whose notes belong to their owners. -/
def nameless : Client Unit :=
  fresh { defaultAuthType := .cognitoUserPools } (some fun _ _ => .ok none) fun _ _ => .ok ()

/-- A subscription is started, and makes the first step of its loop. -/
def firstStep : List Move := [.start, .step 0, .step 0, .step 0, .step 0]

theorem nameless_undecorated :
    ∃ opened, nameless.subscribe ownedNotes .onCreate Operation.samplePlan.decode = .ok opened ∧
      ∃ operation,
        (opened.run ((firstStep ++ [Move.start]).map (ClientMove.of 0))).operation? 0 =
          some operation ∧
        operation.Tried ∧ operation.state = .failed ∧ operation.events.length = 2 := by
  obtain ⟨selection, built⟩ := ownedNotes_request
  have valid : ownedNotes.validate = .ok () := Schema.subscriptionRequest_eq_ok_iff.1 ⟨_, built⟩
  obtain ⟨opened, done, -, tries, -⟩ :=
    nameless.opened_tries valid .onCreate Operation.samplePlan.decode
  let idle : Operation Unit :=
    .make ⟨noteRequest selection, nameless.decoratorFor ownedNotes, Operation.samplePlan.decode⟩
      (.fixed .cognitoUserPools)
  have held : opened.operation? 0 = some idle := by
    have same := (subscribe_of_ok built Operation.samplePlan.decode).symm.trans done
    rw [← Except.ok.inj same]
    rfl
  have runs (moves : List Move) :
      (opened.run (moves.map (ClientMove.of 0))).operation? 0 = some (idle.run moves) := by
    rw [run_of_operation?, held, Option.map_some]
  obtain ⟨operation, later, tried⟩ := tries _ ([Move.start].map (ClientMove.of 0)) _
    (runs firstStep) ⟨nofun, .inr rfl⟩ nofun
  rw [← List.map_append] at later
  obtain rfl := Option.some.inj (later.symm.trans (runs (firstStep ++ [Move.start])))
  exact ⟨opened, done, _, later, tried, rfl, rfl⟩

end Client

end ModelSync
