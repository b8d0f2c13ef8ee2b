import ModelSync.Client
import ModelSync.Proofs.Subscription.Calls

/-! Everything that can happen to a client, in any order. A move is a call of the client, of its
registry or of one of its subscriptions, a signal of the endpoint, or one step of a loop. A move
about a subscription is a run of that subscription alone: `apply_of_subject` is what the theorems
about clients know of it. -/
namespace ModelSync

variable {α : Type}

/-- Something that happens to a client. A cancellation can also be taken apart, since other moves
may come between it and the release it leads to. -/
inductive ClientMove (α : Type) where
  | subscribe (schema : Schema) (feed : Feed) (decode : Decoder (Response α))
  /-- A subscription is built without the client, but for the same endpoint. -/
  | build (plan : Plan α) (candidates : Candidates)
  | start (id : Nat)
  | cancel (id : Nat)
  | beginCancel (id : Nat)
  | finishCancel (id : Nat) (answer : Except EndpointError Unit)
  | deliver (call : EndpointCall) (signal : Signal)
  | hangUp (call : EndpointCall)
  | step (now id : Nat)
  | expire (now id : Nat)
  | prune
  | register (id : Nat)
  | unregister (id : Nat)
  | shutdown

/-- The subscription that a move is about. -/
def ClientMove.subject? : ClientMove α → Option Nat
  | .start id | .cancel id | .beginCancel id | .finishCancel id _ | .step _ id
  | .expire _ id => some id
  | .deliver call _ | .hangUp call => some call.subscription
  | _ => none

/-- The move is a step of the loop of a subscription. -/
def ClientMove.isStep (id : Nat) : ClientMove α → Bool
  | .step _ other => id = other
  | _ => false

/-- A move of a subscription as one of the client. -/
def ClientMove.of (id : Nat) : Move → ClientMove α
  | .start => .start id
  | .beginCancel => .beginCancel id
  | .finishCancel answer => .finishCancel id answer
  | .deliver attempt signal => .deliver ⟨id, attempt⟩ signal
  | .hangUp attempt => .hangUp ⟨id, attempt⟩
  | .step now => .step now id
  | .expire now => .expire now id

theorem ClientMove.subject?_of (id : Nat) (move : Move) :
    (ClientMove.of id move : ClientMove α).subject? = some id := by
  cases move <;> rfl

private theorem Operation.cancel_calls (operation : Operation α)
    (answer : Except EndpointError Unit) : (operation.cancel answer).calls = operation.calls := by
  rw [← operation.beginCancel_calls.1, cancel, finishCancel]
  cases operation.beginCancel.canceling with
  | none => rfl
  | some id => cases answer <;> rfl

namespace Client

/-- A client that has opened nothing yet. -/
def fresh (config : Config) (claims : Option Claims) (answers : ReleaseAnswers) : Client α :=
  { config, claims, answers }

/-- The client with other subscriptions tracked. -/
def tracking (client : Client α) (registry : List Nat) : Client α := { client with registry }

/-- The subscription exists and has not reached a terminal state. -/
def isLive (client : Client α) (id : Nat) : Bool :=
  (client.operation? id).any fun operation => !operation.state.isTerminal

/-- The client after a move. What fails changes nothing, and only a subscription that exists can be
registered. -/
def apply (client : Client α) : ClientMove α → Client α
  | .subscribe schema feed decode =>
    match client.subscribe schema feed decode with
    | .ok opened => opened
    | .error _ => client
  | .build plan candidates => client.add (.make plan candidates)
  | .start id => client.start id
  | .cancel id => client.cancel id
  | .beginCancel id => client.update id Operation.beginCancel
  | .finishCancel id answer => client.update id fun operation => operation.finishCancel answer
  | .deliver call signal => client.deliver call signal
  | .hangUp call => client.hangUp call
  | .step now id => client.step now id
  | .expire now id => client.expire now id
  | .prune => client.prune.1
  | .register id => if (client.operation? id).isSome then client.register id else client
  | .unregister id => client.unregister id
  | .shutdown => client.shutdown.1

/-- The client after several moves. -/
def run (client : Client α) (moves : List (ClientMove α)) : Client α := moves.foldl apply client

/-- The endpoint's answer to the release that a cancellation now leads to, if it does. -/
def answerTo (client : Client α) (operation : Operation α) : Except EndpointError Unit :=
  match operation.beginCancel.canceling with
  | some subscription => client.answers client.released.length subscription
  | none => .ok ()

/-- The moves of a subscription that a move about it consists of. -/
def ownMoves (client : Client α) (operation : Operation α) : ClientMove α → List Move
  | .start _ => [.start]
  | .cancel _ => [.beginCancel, .finishCancel (client.answerTo operation)]
  | .beginCancel _ => [.beginCancel]
  | .finishCancel _ answer => [.finishCancel answer]
  | .deliver call signal => [.deliver call.attempt signal]
  | .hangUp call => [.hangUp call.attempt]
  | .step now _ => [.step now]
  | .expire now _ => [.expire now]
  | _ => []

theorem run_concat (client : Client α) (moves : List (ClientMove α)) (move : ClientMove α) :
    client.run (moves ++ [move]) = (client.run moves).apply move := by
  simp [run]

theorem run_append (client : Client α) (before after : List (ClientMove α)) :
    client.run (before ++ after) = (client.run before).run after := by
  simp [run]

/-! ### Changing one subscription -/

section Update

variable {client : Client α} {id : Nat} {change : Operation α → Operation α}

theorem update_of_none (absent : client.operation? id = none) :
    client.update id change = client := by
  unfold operation? at absent
  simp [update, absent]

theorem update_of_some {before : Operation α} (held : client.operation? id = some before) :
    client.update id change =
      { client with
        operations := client.operations.set id (change before)
        endpointCalls := client.endpointCalls ++
          ((List.range (change before).calls.length).drop before.calls.length).map (⟨id, ·⟩)
        released := client.released ++ (change before).released.drop before.released.length } := by
  unfold operation? at held
  simp only [update, held]
  rfl

theorem update_operation? (other : Nat) :
    (client.update id change).operation? other =
      if other = id then (client.operation? id).map change else client.operation? other := by
  cases held : client.operation? id with
  | none =>
    rw [update_of_none held]
    split
    · subst_vars
      exact held
    · rfl
  | some before =>
    rw [update_of_some held]
    obtain ⟨within, -⟩ := List.getElem?_eq_some_iff.1 held
    simp only [operation?, List.getElem?_set, Option.map_some]
    by_cases same : other = id
    · simp [same, within]
    · simp [same, Ne.symm same]

theorem update_operation?_of_ne {other : Nat} (apart : other ≠ id) :
    (client.update id change).operation? other = client.operation? other := by
  simp [update_operation?, apart]

/-- A change of a subscription leaves all but the subscriptions and the logs alone. -/
theorem update_frame (client : Client α) (id : Nat) (change : Operation α → Operation α) :
    ∃ operations endpointCalls released,
      client.update id change = { client with operations, endpointCalls, released } := by
  cases held : client.operation? id with
  | none => exact ⟨_, _, _, update_of_none held⟩
  | some before => exact ⟨_, _, _, update_of_some held⟩

@[simp] theorem update_registry : (client.update id change).registry = client.registry := by
  obtain ⟨_, _, _, same⟩ := client.update_frame id change
  rw [same]

@[simp] theorem update_answers : (client.update id change).answers = client.answers := by
  obtain ⟨_, _, _, same⟩ := client.update_frame id change
  rw [same]

@[simp] theorem update_operations_length :
    (client.update id change).operations.length = client.operations.length := by
  cases held : client.operation? id with
  | none => rw [update_of_none held]
  | some before => simp [update_of_some held]

end Update

theorem add_operation? (client : Client α) (operation : Operation α) (id : Nat) :
    (client.add operation).operation? id =
      if id = client.operations.length then some operation else client.operation? id := by
  unfold operation? add
  split
  case isTrue same =>
    subst same
    simp
  case isFalse other =>
    rcases Nat.lt_or_gt_of_ne other with within | beyond
    · exact List.getElem?_append_left within
    · rw [List.getElem?_eq_none (by simp only [List.length_append, List.length_singleton]; omega),
        List.getElem?_eq_none (Nat.le_of_lt beyond)]

theorem operation?_length (client : Client α) :
    client.operation? client.operations.length = none :=
  List.getElem?_eq_none (Nat.le_refl _)

/-- A cancellation answers its own release. -/
theorem cancel_eq_update (client : Client α) (id : Nat) :
    client.cancel id =
      client.update id fun operation => operation.cancel (client.answerTo operation) := by
  unfold cancel
  congr 1
  funext operation
  unfold Operation.cancel answerTo
  cases canceling : operation.beginCancel.canceling with
  | none => simp [Operation.finishCancel, canceling]
  | some subscription => simp [canceling]

private theorem isStep_of_other {move : ClientMove α} {id other : Nat}
    (about : move.subject? = some id) (apart : other ≠ id) : move.isStep other = false := by
  cases move with
  | step now own =>
    cases about
    exact decide_eq_false apart
  | _ => rfl

private theorem countP_ownMoves (client : Client α) (operation : Operation α) {move : ClientMove α}
    {id : Nat} (about : move.subject? = some id) :
    (client.ownMoves operation move).countP Move.isStep = [move].countP (ClientMove.isStep id) := by
  cases move with
  | step now other =>
    cases about
    simp [ownMoves, Move.isStep, ClientMove.isStep]
  | _ => rfl

/-- A move about a subscription is a run of that subscription, and of no other. -/
theorem apply_of_subject (client : Client α) {move : ClientMove α} {id : Nat}
    (about : move.subject? = some id) :
    client.apply move =
      client.update id fun operation => operation.run (client.ownMoves operation move) := by
  cases move with
  | cancel other =>
    cases about
    exact client.cancel_eq_update id
  | start | beginCancel | finishCancel | deliver | hangUp | step | expire =>
    cases about
    rfl
  | _ => cases about

/-- Whatever can happen to a subscription can happen to it in a client. -/
theorem run_of_operation? (client : Client α) (id : Nat) (moves : List Move) :
    (client.run (moves.map (ClientMove.of id))).operation? id =
      (client.operation? id).map fun operation => operation.run moves := by
  induction moves generalizing client with
  | nil => simp [run, Operation.run]
  | cons move rest ih =>
    have own (operation : Operation α) :
        client.ownMoves operation (ClientMove.of id move) = [move] := by
      cases move <;> rfl
    have first : client.run ((move :: rest).map (ClientMove.of id)) =
        (client.apply (ClientMove.of id move)).run (rest.map (ClientMove.of id)) := rfl
    rw [first, ih, client.apply_of_subject (ClientMove.subject?_of id move), update_operation?,
      if_pos rfl, Option.map_map]
    simp only [own]
    rfl

/-! ### What one move does -/

theorem subscribe_of_ok {client : Client α} {schema : Schema} {feed : Feed} {request : Request}
    (built : schema.subscriptionRequest feed = .ok request) (decode : Decoder (Response α)) :
    client.subscribe schema feed decode =
      .ok ((client.pruned.add (.make ⟨request, client.decoratorFor schema, decode⟩
        (client.candidatesFor schema))).register client.operations.length) := by
  simp only [subscribe, built]

theorem subscribe_of_error {client : Client α} {schema : Schema} {feed : Feed}
    {failure : BuildError} (failed : schema.subscriptionRequest feed = .error failure)
    (decode : Decoder (Response α)) :
    client.subscribe schema feed decode = .error (.build failure) := by
  simp only [subscribe, failed]

end Client

/-- Everything a move can do to a client. -/
inductive ClientTransition (client : Client α) : ClientMove α → Client α → Prop where
  /-- A subscription is opened. Those that have ended are no longer tracked, the new one is. -/
  | opened {schema : Schema} {feed : Feed} {request : Request} (decode : Decoder (Response α))
      (built : schema.subscriptionRequest feed = .ok request) :
      ClientTransition client (.subscribe schema feed decode)
        ((client.pruned.add (.make ⟨request, client.decoratorFor schema, decode⟩
          (client.candidatesFor schema))).register client.operations.length)
  /-- A subscription cannot be opened. -/
  | refused {schema : Schema} {feed : Feed} {failure : BuildError} (decode : Decoder (Response α))
      (failed : schema.subscriptionRequest feed = .error failure) :
      ClientTransition client (.subscribe schema feed decode) client
  | built (plan : Plan α) (candidates : Candidates) :
      ClientTransition client (.build plan candidates) (client.add (.make plan candidates))
  /-- One subscription is run further. -/
  | changed {move : ClientMove α} {id : Nat} (about : move.subject? = some id) :
      ClientTransition client move
        (client.update id fun operation => operation.run (client.ownMoves operation move))
  | pruned : ClientTransition client .prune client.pruned
  | registered {id : Nat} (exist : (client.operation? id).isSome = true) :
      ClientTransition client (.register id) (client.register id)
  | unknown {id : Nat} (absent : client.operation? id = none) :
      ClientTransition client (.register id) client
  | unregistered (id : Nat) : ClientTransition client (.unregister id) (client.unregister id)
  | shutdown :
      ClientTransition client .shutdown
        { client.registry.foldl Client.cancel client with registry := [] }

namespace Client

/-- Every move is one of the listed changes. -/
theorem transition_apply (client : Client α) (move : ClientMove α) :
    ClientTransition client move (client.apply move) := by
  cases about : move.subject? with
  | some id =>
    rw [client.apply_of_subject about]
    exact .changed about
  | none =>
    cases move with
    | subscribe schema feed decode =>
      cases built : schema.subscriptionRequest feed with
      | error failure =>
        simp only [apply, subscribe_of_error built]
        exact .refused decode built
      | ok request =>
        simp only [apply, subscribe_of_ok built]
        exact .opened decode built
    | build plan candidates => exact .built plan candidates
    | prune => exact .pruned
    | register id =>
      cases held : client.operation? id with
      | none =>
        simp only [apply, held]
        exact .unknown held
      | some operation =>
        simp only [apply, held]
        exact .registered (by simp [held])
    | unregister id => exact .unregistered id
    | shutdown => exact .shutdown
    | _ => cases about

/-- What every change keeps holds along a run. -/
theorem run_induction {motive : Client α → Prop}
    (kept : ∀ {client move next},
      ClientTransition client move next → motive client → motive next)
    {client : Client α} (initial : motive client) (moves : List (ClientMove α)) :
    motive (client.run moves) := by
  induction moves generalizing client with
  | nil => exact initial
  | cons move rest ih => exact ih (kept (client.transition_apply move) initial)

/-! ### What becomes of a subscription -/

/-- From one state of a client to a later one its subscriptions are run further, each by as many
steps of its loop. -/
def Advances (client later : Client α) (steps : Nat → Nat) : Prop :=
  ∀ id operation, client.operation? id = some operation →
    ∃ own, later.operation? id = some (operation.run own) ∧ own.countP Move.isStep = steps id

private theorem Advances.of_same {client later : Client α}
    (same : later.operations = client.operations) : client.Advances later fun _ => 0 := by
  intro id operation held
  exact ⟨[], by rw [operation?, same]; exact held, rfl⟩

theorem Advances.trans {client middle later : Client α} {steps others : Nat → Nat}
    (first : client.Advances middle steps) (second : middle.Advances later others) :
    client.Advances later fun id => steps id + others id := by
  intro id operation held
  obtain ⟨own, held, counted⟩ := first id operation held
  obtain ⟨more, held, countedMore⟩ := second id _ held
  exact ⟨own ++ more, by rw [held, Operation.run_append],
    by rw [List.countP_append, counted, countedMore]⟩

/-- Nothing happens to the subscriptions by opening others. -/
theorem Advances.of_append {client later : Client α} {opened : List (Operation α)}
    (grown : later.operations = client.operations ++ opened) :
    client.Advances later fun _ => 0 := by
  intro id operation held
  obtain ⟨within, -⟩ := List.getElem?_eq_some_iff.1 held
  exact ⟨[], by rw [operation?, grown, List.getElem?_append_left within]; exact held, rfl⟩

private theorem advances_update (client : Client α) {id : Nat} {own : Operation α → List Move}
    {steps : Nat → Nat} (counted : ∀ operation, (own operation).countP Move.isStep = steps id)
    (apart : ∀ other, other ≠ id → steps other = 0) :
    client.Advances (client.update id fun operation => operation.run (own operation)) steps := by
  intro other operation held
  rw [update_operation?]
  split
  · subst_vars
    exact ⟨own operation, by rw [held]; rfl, counted operation⟩
  · exact ⟨[], held, (apart other ‹_›).symm⟩

theorem advances_cancel (client : Client α) (id : Nat) :
    client.Advances (client.cancel id) fun _ => 0 := by
  rw [cancel_eq_update]
  have counted (operation : Operation α) :
      [.beginCancel, .finishCancel (client.answerTo operation)].countP Move.isStep = 0 := rfl
  exact client.advances_update counted fun _ _ => rfl

theorem advances_foldl_cancel (client : Client α) (ids : List Nat) :
    client.Advances (ids.foldl cancel client) fun _ => 0 := by
  induction ids generalizing client with
  | nil => exact .of_same rfl
  | cons id rest ih => exact (client.advances_cancel id).trans (ih _)

/-- A cancellation changes the subscriptions and the log of releases, and nothing else. -/
theorem cancel_frame (client : Client α) (id : Nat) :
    ∃ operations released, client.cancel id = { client with operations, released } := by
  rw [cancel_eq_update]
  cases held : client.operation? id with
  | none => exact ⟨_, _, update_of_none held⟩
  | some operation =>
    rw [update_of_some held, operation.cancel_calls, List.drop_eq_nil_of_le (by simp),
      List.map_nil, List.append_nil]
    exact ⟨_, _, rfl⟩

theorem foldl_cancel_frame (client : Client α) (ids : List Nat) :
    ∃ operations released, ids.foldl cancel client = { client with operations, released } := by
  induction ids generalizing client with
  | nil => exact ⟨_, _, rfl⟩
  | cons id rest ih =>
    obtain ⟨_, _, first⟩ := client.cancel_frame id
    obtain ⟨_, _, others⟩ := ih (client.cancel id)
    rw [List.foldl_cons, others, first]
    exact ⟨_, _, rfl⟩

theorem foldl_cancel_answers (client : Client α) (ids : List Nat) :
    (ids.foldl cancel client).answers = client.answers := by
  obtain ⟨_, _, same⟩ := client.foldl_cancel_frame ids
  rw [same]

theorem foldl_cancel_length (client : Client α) (ids : List Nat) :
    (ids.foldl cancel client).operations.length = client.operations.length := by
  induction ids generalizing client with
  | nil => rfl
  | cons id rest ih => rw [List.foldl_cons, ih, cancel_eq_update, update_operations_length]

/-- Entering a subscription changes the registry alone. -/
theorem register_eq_tracking (client : Client α) (id : Nat) :
    client.register id = client.tracking (client.register id).registry := by
  unfold register
  split <;> rfl

theorem register_operations (client : Client α) (id : Nat) :
    (client.register id).operations = client.operations := by
  rw [register_eq_tracking, tracking]

private theorem register_answers (client : Client α) (id : Nat) :
    (client.register id).answers = client.answers := by
  rw [register_eq_tracking, tracking]

end Client

theorem ClientTransition.advances {client next : Client α} {move : ClientMove α}
    (turned : ClientTransition client move next) :
    client.Advances next fun id => [move].countP (ClientMove.isStep id) := by
  cases turned with
  | opened => exact .of_append (Client.register_operations _ _)
  | built => exact .of_append rfl
  | changed about =>
    refine client.advances_update (fun operation => client.countP_ownMoves operation about)
      fun other apart => ?_
    simp [Client.isStep_of_other about apart]
  | shutdown => exact client.advances_foldl_cancel client.registry
  | registered => exact .of_same (Client.register_operations _ _)
  | refused | pruned | unknown | unregistered => exact .of_same rfl

theorem ClientTransition.answers {client next : Client α} {move : ClientMove α}
    (turned : ClientTransition client move next) : next.answers = client.answers := by
  cases turned with
  | opened | registered => exact Client.register_answers _ _
  | changed => exact Client.update_answers
  | shutdown => exact client.foldl_cancel_answers client.registry
  | refused | built | pruned | unknown | unregistered => rfl

theorem Client.answers_run (client : Client α) (moves : List (ClientMove α)) :
    (client.run moves).answers = client.answers :=
  run_induction (motive := fun later => later.answers = client.answers)
    (fun turned same => turned.answers.trans same) rfl moves

theorem Client.advances_run (client : Client α) (moves : List (ClientMove α)) :
    client.Advances (client.run moves) fun id => moves.countP (ClientMove.isStep id) := by
  induction moves generalizing client with
  | nil => exact .of_same rfl
  | cons move rest ih =>
    have counted (id : Nat) : (move :: rest).countP (ClientMove.isStep id) =
        [move].countP (ClientMove.isStep id) + rest.countP (ClientMove.isStep id) := by
      rw [← List.countP_append, List.singleton_append]
    simp only [counted]
    exact (client.transition_apply move).advances.trans (ih _)

end ModelSync
