import ModelSync.Proofs.Client.Moves
import ModelSync.Proofs.Subscription.Calls

/-! What the registry of a client holds. It tracks subscriptions that exist, each of them once. A
subscription that is tracked stays so until it has ended, unless it is unregistered before, and an
ended one never becomes live again; so the live subscriptions that a client opened are tracked. -/
namespace ModelSync

variable {α : Type}

/-- What holds of the registry in every state that a client can reach. -/
structure Orderly (client : Client α) : Prop where
  known : ∀ id ∈ client.registry, (client.operation? id).isSome = true
  once : client.registry.Nodup

namespace Client

/-- No live subscription is unregistered in these moves. -/
def Spares (client : Client α) : List (ClientMove α) → Prop
  | [] => True
  | move :: rest =>
    (∀ id, move = .unregister id → client.isLive id = false) ∧ (client.apply move).Spares rest

/-- The subscription that a move opens. -/
def openedBy? (client : Client α) : ClientMove α → Option Nat
  | .subscribe schema feed decode =>
    (client.subscribe schema feed decode).toOption.map fun _ => client.operations.length
  | _ => none

/-- The subscriptions that are opened in these moves. Those that were built are not among them. -/
def opened (client : Client α) : List (ClientMove α) → List Nat
  | [] => []
  | move :: rest => (client.openedBy? move).toList ++ (client.apply move).opened rest

theorem opened_concat (client : Client α) (moves : List (ClientMove α)) (move : ClientMove α) :
    client.opened (moves ++ [move]) =
      client.opened moves ++ ((client.run moves).openedBy? move).toList := by
  induction moves generalizing client with
  | nil => simp [opened, run]
  | cons first rest ih => simp [opened, ih, run]

theorem spares_concat (client : Client α) (moves : List (ClientMove α)) (move : ClientMove α) :
    client.Spares (moves ++ [move]) ↔
      client.Spares moves ∧
        ∀ id, move = .unregister id → (client.run moves).isLive id = false := by
  induction moves generalizing client with
  | nil => simp [Spares, run]
  | cons first rest ih => simp [Spares, ih, run, and_assoc]

/-! ### Live and ended subscriptions -/

section Standing

variable {client later : Client α} {id : Nat} {steps : Nat → Nat}

private theorem isLive_iff :
    client.isLive id = true ↔
      (client.operation? id).isSome = true ∧ client.isTerminal id = false := by
  unfold isLive isTerminal
  cases client.operation? id <;> simp

private theorem Advances.isSome (advances : client.Advances later steps)
    (exist : (client.operation? id).isSome = true) : (later.operation? id).isSome = true := by
  obtain ⟨operation, held⟩ := Option.isSome_iff_exists.1 exist
  obtain ⟨own, held, -⟩ := advances id operation held
  simp [held]

theorem Advances.isTerminal (advances : client.Advances later steps)
    (ended : client.isTerminal id = true) : later.isTerminal id = true := by
  unfold Client.isTerminal at ended ⊢
  obtain ⟨operation, held, ended⟩ := (Option.any_eq_true _ _).1 ended
  obtain ⟨own, held, -⟩ := advances id operation held
  rw [held]
  exact Operation.isTerminal_run ended own

private theorem Advances.unended (advances : client.Advances later steps)
    (unended : later.isTerminal id = false) : client.isTerminal id = false :=
  Bool.eq_false_iff.2 fun ended => by simp [advances.isTerminal ended] at unended

private theorem isTerminal_cancel (exist : (client.operation? id).isSome = true) :
    (client.cancel id).isTerminal id = true := by
  obtain ⟨operation, held⟩ := Option.isSome_iff_exists.1 exist
  rw [cancel_eq_update, isTerminal, update_operation?, if_pos rfl, held]
  exact operation.cancel_isTerminal _

theorem isTerminal_foldl_cancel {ids : List Nat} (listed : id ∈ ids)
    (exist : (client.operation? id).isSome = true) :
    (ids.foldl cancel client).isTerminal id = true := by
  induction ids generalizing client with
  | nil => cases listed
  | cons first rest ih =>
    rcases List.mem_cons.1 listed with rfl | listed
    · exact (advances_foldl_cancel _ rest).isTerminal (isTerminal_cancel exist)
    · exact ih listed ((client.advances_cancel first).isSome exist)

end Standing

/-! ### Entries of the registry -/

@[simp] theorem mem_registry_register (client : Client α) (id other : Nat) :
    other ∈ (client.register id).registry ↔ other ∈ client.registry ∨ other = id := by
  unfold register isRegistered
  split
  case isTrue listed =>
    simp only [List.contains_iff_mem] at listed
    refine ⟨.inl, ?_⟩
    rintro (held | rfl)
    · exact held
    · exact listed
  case isFalse => simp

private theorem nodup_registry_register {client : Client α} (once : client.registry.Nodup)
    (id : Nat) : (client.register id).registry.Nodup := by
  unfold register isRegistered
  split
  case isTrue => exact once
  case isFalse unlisted =>
    simp only [List.contains_iff_mem] at unlisted
    exact (List.nodup_append.2 ⟨once, by simp, by grind⟩)

end Client

namespace ClientTransition

variable {client next : Client α} {move : ClientMove α} {id : Nat}

theorem orderly (turned : ClientTransition client move next) (orderly : Orderly client) :
    Orderly next := by
  have still {id : Nat} (listed : id ∈ client.registry) : (next.operation? id).isSome = true :=
    turned.advances.isSome (orderly.known id listed)
  have fewer (same : next.registry.Sublist client.registry) : Orderly next :=
    ⟨fun id listed => still (same.subset listed), orderly.once.sublist same⟩
  cases turned with
  | opened decode built =>
    have once (operation : Operation α) : (client.pruned.add operation).registry.Nodup :=
      orderly.once.sublist List.filter_sublist
    refine ⟨fun id listed => ?_, Client.nodup_registry_register (once _) _⟩
    rcases (Client.mem_registry_register _ _ _).1 listed with kept | rfl
    · exact still (List.mem_filter.1 kept).1
    · simp [Client.operation?, Client.register_operations, Client.add, Client.pruned]
  | registered exist =>
    refine ⟨fun id listed => ?_, Client.nodup_registry_register orderly.once _⟩
    rcases (Client.mem_registry_register _ _ _).1 listed with kept | rfl
    · exact still kept
    · simpa [Client.operation?, Client.register_operations] using exist
  | refused | unknown => exact orderly
  | built => exact fewer (List.Sublist.refl _)
  | changed => exact fewer (by simp)
  | pruned | unregistered => exact fewer List.filter_sublist
  | shutdown => exact fewer (List.nil_sublist _)

/-- A subscription that is tracked stays so until it has ended. -/
theorem tracked (turned : ClientTransition client move next) (orderly : Orderly client)
    (spared : ∀ id, move = .unregister id → client.isLive id = false)
    (tracked : id ∈ client.registry) (unended : next.isTerminal id = false) :
    id ∈ next.registry := by
  have before : client.isTerminal id = false := turned.advances.unended unended
  have kept : id ∈ client.pruned.registry := List.mem_filter.2 ⟨tracked, by simp [before]⟩
  cases turned with
  | opened => exact (Client.mem_registry_register _ _ _).2 (.inl kept)
  | registered => exact (Client.mem_registry_register _ _ _).2 (.inl tracked)
  | refused | unknown | built => exact tracked
  | changed => simpa using tracked
  | pruned => exact kept
  | unregistered other =>
    refine List.mem_filter.2 ⟨tracked, decide_eq_true fun same => ?_⟩
    have live := Client.isLive_iff.2 ⟨orderly.known id tracked, before⟩
    simp [same, spared other rfl] at live
  | shutdown =>
    have ended := Client.isTerminal_foldl_cancel tracked (orderly.known id tracked)
    exact absurd ended (Bool.eq_false_iff.1 unended)

end ClientTransition

namespace Client

variable {client : Client α}

theorem orderly_fresh (config : Config) (claims : Option Claims) (answers : ReleaseAnswers) :
    Orderly (fresh config claims answers : Client α) :=
  ⟨nofun, List.nodup_nil⟩

theorem orderly_run (orderly : Orderly client) (moves : List (ClientMove α)) :
    Orderly (client.run moves) :=
  run_induction ClientTransition.orderly orderly moves

/-- A subscription that a move opens is tracked from then on. -/
theorem tracked_of_openedBy {move : ClientMove α} {id : Nat}
    (opens : client.openedBy? move = some id) : id ∈ (client.apply move).registry := by
  cases move with
  | subscribe schema feed decode =>
    cases built : schema.subscriptionRequest feed with
    | error failure =>
      simp [openedBy?, subscribe_of_error built, Except.toOption] at opens
    | ok request =>
      simp only [openedBy?, subscribe_of_ok built, Except.toOption, Option.map_some,
        Option.some.injEq] at opens
      simp [apply, subscribe_of_ok built, opens]
  | _ => cases opens

/-- The subscriptions that a client opened are tracked until they end, as long as no live one is
unregistered. -/
theorem tracked_of_opened (orderly : Orderly client) (moves : List (ClientMove α))
    (spared : client.Spares moves) {id : Nat} (opened : id ∈ client.opened moves)
    (unended : (client.run moves).isTerminal id = false) : id ∈ (client.run moves).registry := by
  induction moves using List.reverseRecOn with
  | nil => cases opened
  | append_singleton before move ih =>
    obtain ⟨earlier, spared⟩ := (spares_concat _ _ _).1 spared
    rw [opened_concat, List.mem_append] at opened
    rw [run_concat] at unended ⊢
    rcases opened with opened | opened
    · have turned := (client.run before).transition_apply move
      exact turned.tracked (orderly_run orderly before) spared
        (ih earlier opened (turned.advances.unended unended)) unended
    · exact tracked_of_openedBy (by simpa using opened)

end Client

end ModelSync
