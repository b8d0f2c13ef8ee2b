import Mathlib.Data.List.Basic
import ModelSync.Proofs.Client.Shutdown

/-! What a shutdown counts. It takes every tracked subscription out of the registry and counts it,
whether or not there is anything left to cancel. A subscription that has ended stays tracked until
the registry is pruned, so the number is that of the subscriptions that the shutdown cancels together
with those that had ended before. -/
namespace ModelSync

variable {α : Type}

/-- The state after a cancellation. -/
def SubscriptionState.afterCancel (state : SubscriptionState) : SubscriptionState :=
  if state.isTerminal then state else .canceled

private theorem SubscriptionState.afterCancel_afterCancel (state : SubscriptionState) :
    state.afterCancel.afterCancel = state.afterCancel := by
  cases state <;> rfl

private theorem Operation.state_cancel (operation : Operation α)
    (answer : Except EndpointError Unit) :
    (operation.cancel answer).state = operation.state.afterCancel := by
  unfold cancel state
  rw [(operation.beginCancel.finishCancel_phase answer).1]
  unfold beginCancel
  cases phase : operation.phase <;> simp [phase, Phase.state, SubscriptionState.afterCancel,
    SubscriptionState.isTerminal]

namespace Client

/-- The state of a subscription, tracked or not. -/
def state? (client : Client α) (id : Nat) : Option SubscriptionState :=
  (client.operation? id).map Operation.state

/-- How many subscriptions a sweep finds in the registry. -/
def sweepCount (client : Client α) : List Nat → Nat
  | [] => 0
  | id :: rest =>
    if client.isRegistered id then ((client.unregister id).cancel id).sweepCount rest + 1
    else client.sweepCount rest

/-- The tracked subscriptions that are canceled later and were not before. -/
def canceledIn (client later : Client α) : List Nat :=
  client.registry.filter fun id =>
    client.state? id ≠ some .canceled && later.state? id = some .canceled

/-- The tracked subscriptions that have ended. -/
def endedIn (client : Client α) : List Nat := client.registry.filter client.isTerminal

variable {client : Client α} {id : Nat} {order : List Nat}

/-! ### Counting -/

private theorem sweepCount_eq (once : order.Nodup) (tracked : ∀ id ∈ order, id ∈ client.registry) :
    client.sweepCount order = order.length := by
  induction order generalizing client with
  | nil => rfl
  | cons id rest ih =>
    obtain ⟨outside, once⟩ := List.nodup_cons.1 once
    obtain ⟨own, others⟩ := List.forall_mem_cons.1 tracked
    have found : client.isRegistered id = true := by simpa [isRegistered] using own
    -- Those to come are still tracked, since none is listed twice.
    have still : ∀ other ∈ rest, other ∈ ((client.unregister id).cancel id).registry := by
      intro other listed
      have apart : other ≠ id := fun same => outside (same ▸ listed)
      simpa [cancel_eq_update, unregister, apart] using others other listed
    rw [sweepCount, if_pos found, ih once still, List.length_cons]

/-! ### States -/

private theorem isTerminal_iff_state? :
    client.isTerminal id = true ↔ ∃ state, client.state? id = some state ∧ state.isTerminal = true := by
  unfold isTerminal state?
  cases client.operation? id <;> simp

private theorem state?_cancel (client : Client α) (id other : Nat) :
    (client.cancel id).state? other =
      if other = id then (client.state? other).map .afterCancel else client.state? other := by
  unfold state?
  rw [cancel_eq_update, update_operation?]
  split
  · subst_vars
    cases client.operation? other <;> simp [Operation.state_cancel]
  · rfl

/-- Cancellations of several subscriptions leave each in the state that its own one leads to. -/
theorem state?_foldl_cancel (client : Client α) (ids : List Nat) (id : Nat) :
    (ids.foldl cancel client).state? id =
      if id ∈ ids then (client.state? id).map .afterCancel else client.state? id := by
  induction ids generalizing client with
  | nil => rfl
  | cons first rest ih =>
    rw [List.foldl_cons, ih, state?_cancel]
    by_cases same : id = first
    · subst same
      cases client.state? id <;> simp [SubscriptionState.afterCancel_afterCancel]
    · simp [same]

/-- A sweep of the registry cancels what is tracked and has not ended. -/
theorem state?_sweep (orderly : Orderly client) (listed : order.Perm client.registry)
    (tracked : id ∈ client.registry) :
    ∃ state, client.state? id = some state ∧
      (client.sweep order).state? id = some state.afterCancel := by
  obtain ⟨operation, held⟩ := Option.isSome_iff_exists.1 (orderly.known id tracked)
  have state : client.state? id = some operation.state := by rw [state?, held, Option.map_some]
  refine ⟨operation.state, state, ?_⟩
  have swept : (client.sweep order).state? id = (order.foldl cancel client).state? id := by
    rw [sweep_of_perm orderly.once listed]
    rfl
  rw [swept, state?_foldl_cancel, if_pos (listed.mem_iff.2 tracked), state, Option.map_some]

/-- Those that a sweep cancels are those that had not ended. -/
theorem canceledIn_sweep (orderly : Orderly client) (listed : order.Perm client.registry) :
    client.canceledIn (client.sweep order) =
      client.registry.filter fun id => !client.isTerminal id := by
  refine List.filter_congr fun id tracked => ?_
  obtain ⟨state, before, after⟩ := state?_sweep orderly listed tracked
  have ended : client.isTerminal id = state.isTerminal := by
    rw [Bool.eq_iff_iff, isTerminal_iff_state?]
    simp [before]
  rw [before, after, ended]
  cases state <;> rfl

/-! ### The number of a shutdown -/

/-- In every state that a client can reach a shutdown counts the tracked subscriptions. Whatever the
order in which it takes them, each that has not ended is canceled and the others stay as they are.
So the number is that of the subscriptions it cancels exactly if none of those tracked had ended. -/
theorem shutdown_counts_tracked (config : Config) (claims : Option Claims)
    (answers : ReleaseAnswers) (moves : List (ClientMove α)) :
    let client := (fresh config claims answers : Client α).run moves
    client.shutdown = client.cancelAll ∧ client.shutdown.1 = client.sweep client.registry ∧
      ∀ order : List Nat, order.Perm client.registry →
        client.sweepCount order = client.shutdown.2 ∧
        (∀ id ∈ client.registry, ∃ state, client.state? id = some state ∧
          (client.sweep order).state? id = some state.afterCancel) ∧
        client.shutdown.2 =
          (client.canceledIn (client.sweep order)).length + client.endedIn.length ∧
        (client.shutdown.2 = (client.canceledIn (client.sweep order)).length ↔
          ∀ id ∈ client.registry, client.isTerminal id = false) := by
  intro client
  have orderly : Orderly client := orderly_run (orderly_fresh config claims answers) moves
  refine ⟨rfl, shutdown_eq_sweep orderly.once, fun order listed => ?_⟩
  have counted : client.sweepCount order = client.registry.length :=
    (sweepCount_eq (listed.nodup_iff.2 orderly.once) fun _ => listed.mem_iff.1).trans
      listed.length_eq
  have split : client.registry.length =
      (client.canceledIn (client.sweep order)).length + client.endedIn.length := by
    rw [canceledIn_sweep orderly listed, endedIn,
      List.length_eq_length_filter_add client.isTerminal, Nat.add_comm]
  have alive :
      client.endedIn.length = 0 ↔ ∀ id ∈ client.registry, client.isTerminal id = false := by
    rw [List.length_eq_zero_iff, endedIn, List.filter_eq_nil_iff]
    simp only [Bool.not_eq_true]
  refine ⟨counted, fun id tracked => state?_sweep orderly listed tracked, split, ?_⟩
  rw [← alive]
  show client.registry.length = _ ↔ _
  omega

/-- A client that opens two subscriptions. -/
def twoOpened : List (ClientMove Unit) :=
  [.subscribe ownedNotes .onCreate Operation.samplePlan.decode,
    .subscribe ownedNotes .onCreate Operation.samplePlan.decode]

/-- Where none has ended, those that are counted are canceled, the last one first as well. -/
theorem twoOpened_counted :
    let client := (fresh {} none fun _ _ => .ok () : Client Unit).run (twoOpened ++ [.start 0])
    [1, 0].Perm client.registry ∧
      client.shutdown.2 = (client.canceledIn (client.sweep [1, 0])).length := by
  intro client
  obtain ⟨selection, built⟩ := ownedNotes_request
  have reached : client.registry = [0, 1] ∧ client.isTerminal 0 = false ∧
      client.isTerminal 1 = false := by
    simp only [client, twoOpened, run, List.cons_append, List.nil_append, List.foldl, apply,
      subscribe_of_ok built]
    exact ⟨rfl, rfl, rfl⟩
  obtain ⟨registry, first, second⟩ := reached
  have listed : [1, 0].Perm client.registry := by
    rw [registry]
    exact .swap 0 1 []
  obtain ⟨-, -, counted⟩ :=
    shutdown_counts_tracked {} none (fun _ _ => .ok ()) (twoOpened ++ [.start 0])
  refine ⟨listed, (counted [1, 0] listed).2.2.2.2 ?_⟩
  show ∀ id ∈ client.registry, client.isTerminal id = false
  simp [registry, first, second]

/-- A subscription that was canceled before is counted once more. -/
theorem ended_counted_again :
    let client := (fresh {} none fun _ _ => .ok () : Client Unit).run (twoOpened ++ [.cancel 0])
    client.registry = [0, 1] ∧ client.state? 0 = some .canceled ∧ client.shutdown.2 = 2 ∧
      client.canceledIn client.shutdown.1 = [1] := by
  intro client
  obtain ⟨selection, built⟩ := ownedNotes_request
  simp only [client, twoOpened, run, List.cons_append, List.nil_append, List.foldl, apply,
    subscribe_of_ok built]
  exact ⟨rfl, rfl, rfl, rfl⟩

end Client

end ModelSync
