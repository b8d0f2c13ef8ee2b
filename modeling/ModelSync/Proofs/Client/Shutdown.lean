import ModelSync.Proofs.Client.Registry
import ModelSync.Proofs.Subscription.Ownership

/-! Shutting a client down. A shutdown takes the tracked subscriptions out of the registry one by
one, in an order that the registry does not promise, and cancels each. Cancellations of different
subscriptions do not disturb one another, so the order is not seen in any of them, then or later. -/
namespace ModelSync

variable {α : Type}

/-- The endpoint answers a release by the id alone. -/
def ReleaseAnswers.Steady (answers : ReleaseAnswers) : Prop :=
  ∀ number other id, answers number id = answers other id

namespace Client

/-- Take subscriptions out of the registry one by one, and cancel each of them. What is not tracked
any more when its turn comes is left alone. -/
def sweep (client : Client α) (order : List Nat) : Client α :=
  order.foldl (fun client id =>
    if client.isRegistered id then (client.unregister id).cancel id else client) client

variable {client : Client α}

/-! ### The registry during a sweep -/

private theorem cancel_tracking (client : Client α) (registry : List Nat) (id : Nat) :
    (client.tracking registry).cancel id = (client.cancel id).tracking registry := by
  unfold cancel update tracking
  cases client.operations[id]? <;> rfl

private theorem foldl_cancel_tracking (client : Client α) (registry ids : List Nat) :
    ids.foldl cancel (client.tracking registry) =
      (ids.foldl cancel client).tracking registry := by
  induction ids generalizing client with
  | nil => rfl
  | cons id rest ih => rw [List.foldl_cons, cancel_tracking, ih, List.foldl_cons]

/-- A sweep cancels what it is given, and that alone is no longer tracked. -/
theorem sweep_eq {order : List Nat} (once : order.Nodup)
    (tracked : ∀ id ∈ order, id ∈ client.registry) :
    client.sweep order =
      (order.foldl cancel client).tracking (client.registry.filter (· ∉ order)) := by
  induction order generalizing client with
  | nil =>
    rw [List.filter_eq_self.2 (by simp)]
    rfl
  | cons id rest ih =>
    obtain ⟨outside, once⟩ := List.nodup_cons.1 once
    have first : client.isRegistered id = true := by
      simpa [isRegistered] using tracked id List.mem_cons_self
    have next : (client.unregister id).cancel id =
        (client.cancel id).tracking (client.registry.filter (· ≠ id)) :=
      client.cancel_tracking _ id
    have still : ∀ other ∈ rest, other ∈ ((client.unregister id).cancel id).registry := by
      intro other listed
      have apart : other ≠ id := fun same => outside (same ▸ listed)
      simpa [next, tracking, apart] using tracked other (List.mem_cons_of_mem _ listed)
    calc client.sweep (id :: rest)
        = ((client.unregister id).cancel id).sweep rest := by
          rw [sweep, List.foldl_cons, if_pos first, sweep]
      _ = (rest.foldl cancel ((client.unregister id).cancel id)).tracking
            (((client.unregister id).cancel id).registry.filter (· ∉ rest)) := ih once still
      _ = ((id :: rest).foldl cancel client).tracking
            (client.registry.filter (· ∉ id :: rest)) := by
          rw [next, foldl_cancel_tracking, List.foldl_cons]
          simp [tracking, List.filter_filter, Bool.and_comm]

theorem sweep_of_perm {order : List Nat} (once : client.registry.Nodup)
    (listed : order.Perm client.registry) :
    client.sweep order = (order.foldl cancel client).tracking [] := by
  have swept : client.registry.filter (· ∉ order) = [] :=
    List.filter_eq_nil_iff.2 fun id tracked => by simp [listed.mem_iff, tracked]
  rw [sweep_eq (listed.nodup_iff.2 once) fun id => listed.mem_iff.1, swept]

/-- A shutdown sweeps the whole registry. -/
theorem shutdown_eq_sweep (once : client.registry.Nodup) :
    client.shutdown.1 = client.sweep client.registry :=
  (sweep_of_perm once (.refl _)).symm

/-! ### Cancellations in any order -/

theorem answerTo_congr {later : Client α} (steady : client.answers.Steady)
    (same : later.answers = client.answers) (operation : Operation α) :
    later.answerTo operation = client.answerTo operation := by
  unfold answerTo
  cases operation.beginCancel.canceling with
  | none => rfl
  | some id =>
    simp only [same]
    exact steady _ _ id

theorem ownMoves_congr {later : Client α} (steady : client.answers.Steady)
    (same : later.answers = client.answers) (operation : Operation α) (move : ClientMove α) :
    later.ownMoves operation move = client.ownMoves operation move := by
  cases move with
  | cancel id => simp only [ownMoves, answerTo_congr steady same]
  | _ => rfl

/-- A tracked subscription once canceled, and every other as it is. -/
def canceledAlone (client : Client α) (tracked : List Nat) (id : Nat) : Option (Operation α) :=
  if id ∈ tracked then
    (client.operation? id).map fun operation => operation.cancel (client.answerTo operation)
  else client.operation? id

/-- Each of the canceled subscriptions is as if it alone had been canceled. -/
theorem foldl_cancel_operation? (steady : client.answers.Steady) {ids : List Nat}
    (once : ids.Nodup) (id : Nat) :
    (ids.foldl cancel client).operation? id = client.canceledAlone ids id := by
  induction ids generalizing client with
  | nil => rfl
  | cons first rest ih =>
    obtain ⟨outside, once⟩ := List.nodup_cons.1 once
    have answers : (client.cancel first).answers = client.answers :=
      client.foldl_cancel_answers [first]
    have answered : (client.cancel first).answerTo = client.answerTo :=
      funext (answerTo_congr steady answers)
    rw [List.foldl_cons, ih (answers ▸ steady) once, canceledAlone, canceledAlone, answered,
      cancel_eq_update, update_operation?]
    by_cases same : id = first
    · subst same
      simp [outside]
    · simp [same]

/-! ### Later moves -/

/-- The client without its log of releases. -/
def unlogged (client : Client α) : Client α := { client with released := [] }

private theorem update_unlogged (client : Client α) (id : Nat)
    (change : Operation α → Operation α) :
    (client.unlogged.update id change).unlogged = (client.update id change).unlogged := by
  unfold update unlogged
  cases client.operations[id]? <;> rfl

private theorem register_unlogged (client : Client α) (id : Nat) :
    (client.unlogged.register id).unlogged = (client.register id).unlogged := by
  unfold register isRegistered unlogged
  dsimp only
  split <;> rfl

private theorem changed_unlogged (steady : client.answers.Steady) {move : ClientMove α} {id : Nat}
    (about : move.subject? = some id) :
    (client.unlogged.apply move).unlogged = (client.apply move).unlogged := by
  have own (operation : Operation α) :
      client.unlogged.ownMoves operation move = client.ownMoves operation move :=
    ownMoves_congr steady (rfl : client.unlogged.answers = client.answers) operation move
  rw [apply_of_subject _ about, apply_of_subject _ about, update_unlogged]
  simp only [own]

private theorem foldl_cancel_unlogged {other : Client α} (steady : client.answers.Steady)
    (same : other.unlogged = client.unlogged) (ids : List Nat) :
    (ids.foldl cancel other).unlogged = (ids.foldl cancel client).unlogged := by
  induction ids generalizing client other with
  | nil => exact same
  | cons id rest ih =>
    have steadyOther : other.answers.Steady := by
      have answers : other.unlogged.answers = client.unlogged.answers := by rw [same]
      exact (answers : other.answers = client.answers) ▸ steady
    have about : (ClientMove.cancel id : ClientMove α).subject? = some id := rfl
    refine ih (client.foldl_cancel_answers [id] ▸ steady) ?_
    exact (changed_unlogged steadyOther about).symm.trans
      ((congrArg (fun client => (client.cancel id).unlogged) same).trans
        (changed_unlogged steady about))

/-- A move does not look at the log of releases, if the answers do not. -/
theorem apply_unlogged (steady : client.answers.Steady) (move : ClientMove α) :
    (client.unlogged.apply move).unlogged = (client.apply move).unlogged := by
  cases about : move.subject? with
  | some id => exact changed_unlogged steady about
  | none =>
    cases move with
    | subscribe schema feed decode =>
      cases built : schema.subscriptionRequest feed with
      | error failure =>
        simp only [apply, subscribe_of_error built]
        rfl
      | ok request =>
        simp only [apply, subscribe_of_ok built]
        exact register_unlogged (client.pruned.add _) _
    | register id =>
      cases held : client.operation? id with
      | none =>
        have heldUnlogged : client.unlogged.operation? id = none := held
        simp only [apply, held, heldUnlogged]
        rfl
      | some operation =>
        have heldUnlogged : client.unlogged.operation? id = some operation := held
        simp only [apply, held, heldUnlogged]
        exact client.register_unlogged id
    | build | prune | unregister => rfl
    | shutdown =>
      have same : client.unlogged.unlogged = client.unlogged := rfl
      have canceled := foldl_cancel_unlogged steady same client.registry
      exact congrArg (tracking · []) canceled
    | _ => cases about

/-- Clients that differ in their logs of releases alone go on alike. -/
theorem run_unlogged {other : Client α} (steady : client.answers.Steady)
    (same : other.unlogged = client.unlogged) (moves : List (ClientMove α)) :
    (other.run moves).unlogged = (client.run moves).unlogged := by
  induction moves generalizing client other with
  | nil => exact same
  | cons move rest ih =>
    have answers : other.unlogged.answers = client.unlogged.answers := by rw [same]
    have steadyOther : other.answers.Steady := (answers : other.answers = client.answers) ▸ steady
    have kept := (client.transition_apply move).answers
    refine ih (by rwa [kept]) ?_
    rw [← apply_unlogged steadyOther, ← apply_unlogged steady, same]

/-! ### Sweeps -/

/-- The order of a sweep of the registry is not seen afterwards. -/
theorem sweep_unlogged (steady : client.answers.Steady) (once : client.registry.Nodup)
    {order : List Nat} (listed : order.Perm client.registry) :
    (client.sweep order).unlogged = client.shutdown.1.unlogged := by
  have same : (order.foldl cancel client).operations =
      (client.registry.foldl cancel client).operations := by
    refine List.ext_getElem? fun id => ?_
    have one := foldl_cancel_operation? steady (listed.nodup_iff.2 once) id
    have other := foldl_cancel_operation? steady once id
    simp only [operation?, canceledAlone, listed.mem_iff] at one other
    rw [one, other]
  rw [shutdown_eq_sweep once, sweep_of_perm once listed, sweep_of_perm once (.refl _)]
  obtain ⟨operations, _, one⟩ := client.foldl_cancel_frame order
  obtain ⟨otherOperations, _, other⟩ := client.foldl_cancel_frame client.registry
  rw [one, other] at same ⊢
  obtain rfl : operations = otherOperations := same
  rfl

/-! ### A run of a client -/

/-- As long as no live subscription is unregistered, those that a client opened are tracked until
they end. So a shutdown, in whatever order it takes them, leaves none tracked and ends them all.
Where the endpoint answers releases by their ids, each tracked subscription is afterwards as if it
alone had been canceled, the others are untouched, and every later run finds them so. -/
theorem shutdown_ends_opened (config : Config) (claims : Option Claims) (answers : ReleaseAnswers)
    (moves : List (ClientMove α))
    (spared : (fresh config claims answers : Client α).Spares moves) :
    let opened := (fresh config claims answers : Client α).opened moves
    let client := (fresh config claims answers : Client α).run moves
    (∀ id ∈ opened, client.isTerminal id = false → client.isRegistered id = true) ∧
      client.shutdown.1 = client.sweep client.registry ∧
      ∀ order : List Nat, order.Perm client.registry →
        (client.sweep order).registry = [] ∧
        (∀ id ∈ opened, (client.sweep order).isTerminal id = true) ∧
        (answers.Steady →
          (∀ id, (client.sweep order).operation? id = client.canceledAlone client.registry id ∧
            (order.foldl cancel client).operation? id =
              client.canceledAlone client.registry id) ∧
          ∀ later, ((client.sweep order).run later).unlogged =
            (client.shutdown.1.run later).unlogged) := by
  intro opened client
  have orderly : Orderly client := orderly_run (orderly_fresh config claims answers) moves
  have tracked {id : Nat} (listed : id ∈ opened) (unended : client.isTerminal id = false) :
      id ∈ client.registry :=
    tracked_of_opened (orderly_fresh config claims answers) moves spared listed unended
  have known : client.answers = answers := answers_run _ moves
  refine ⟨fun id listed unended => by simpa [isRegistered] using tracked listed unended,
    shutdown_eq_sweep orderly.once, fun order listed => ?_⟩
  rw [sweep_of_perm orderly.once listed]
  refine ⟨rfl, fun id member => ?_, fun steady => ⟨fun id => ?_, fun later => ?_⟩⟩
  · have kept := client.advances_foldl_cancel order
    cases ended : client.isTerminal id with
    | true => exact kept.isTerminal ended
    | false =>
      have held := tracked member ended
      exact isTerminal_foldl_cancel (listed.mem_iff.2 held) (orderly.known id held)
  · have canceled :=
      foldl_cancel_operation? (known ▸ steady) (listed.nodup_iff.2 orderly.once) id
    simp only [canceledAlone, listed.mem_iff] at canceled
    exact ⟨canceled, canceled⟩
  · have kept : client.shutdown.1.answers = answers :=
      (client.foldl_cancel_answers client.registry).trans known
    refine run_unlogged (kept ▸ steady) ?_ later
    rw [← sweep_of_perm orderly.once listed]
    exact sweep_unlogged (known ▸ steady) orderly.once listed

/-- Two subscriptions are opened. The first is started; the second is canceled and unregistered. -/
def oneOfTwoCanceled : List (ClientMove Unit) :=
  [.subscribe ownedNotes .onCreate Operation.samplePlan.decode,
    .subscribe ownedNotes .onCreate Operation.samplePlan.decode, .start 0, .cancel 1, .unregister 1]

theorem oneOfTwoCanceled_shutdown :
    let start : Client Unit := fresh {} none fun _ _ => .ok ()
    let client := start.run oneOfTwoCanceled
    start.Spares oneOfTwoCanceled ∧ start.opened oneOfTwoCanceled = [0, 1] ∧
      client.isTerminal 0 = false ∧ client.isRegistered 0 = true ∧
      (∀ id ∈ [0, 1], (client.sweep [0]).isTerminal id = true) ∧
      (client.sweep [0]).operation? 0 =
        (client.operation? 0).map fun operation => operation.cancel (.ok ()) := by
  intro start client
  obtain ⟨selection, built⟩ := ownedNotes_request
  have spared : start.Spares oneOfTwoCanceled := by
    simp only [oneOfTwoCanceled, Spares, apply, subscribe_of_ok built]
    refine ⟨by simp, by simp, by simp, by simp, ?_, trivial⟩
    rintro id ⟨⟩
    rfl
  have opened : start.opened oneOfTwoCanceled = [0, 1] := by
    simp only [oneOfTwoCanceled, Client.opened, openedBy?, apply, subscribe_of_ok built]
    rfl
  have reached : client.registry = [0] ∧ client.isTerminal 0 = false ∧
      client.canceledAlone [0] 0 =
        (client.operation? 0).map fun operation => operation.cancel (.ok ()) := by
    simp only [client, oneOfTwoCanceled, run, List.foldl, apply, subscribe_of_ok built]
    exact ⟨rfl, rfl, rfl⟩
  obtain ⟨registry, going, alone⟩ := reached
  obtain ⟨tracked, -, swept⟩ :=
    shutdown_ends_opened {} none (fun _ _ => .ok ()) oneOfTwoCanceled spared
  obtain ⟨-, ended, steadily⟩ := swept [0] (by rw [registry])
  have canceled := ((steadily fun _ _ _ => rfl).1 0).1
  rw [opened] at tracked ended
  rw [registry] at canceled
  exact ⟨spared, opened, going, tracked 0 (by simp) going, ended, canceled.trans alone⟩

end Client

end ModelSync
