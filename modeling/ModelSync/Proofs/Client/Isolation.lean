import ModelSync.Proofs.Client.Shutdown

/-! How the subscriptions of a client keep apart. They share its endpoint and its registry, but
every stream and every release belongs to one of them, and what is about one is no matter to any
other: not to its state, and, where the endpoint answers releases by their ids, not to anything
that becomes of it later. -/
namespace ModelSync

variable {α : Type}

/-! ### What a subscription has asked for -/

private theorem Transition.keeps_released {operation next : Operation α} {move : Move}
    {read : Option Read} (turned : Transition operation move read next) :
    operation.released <+: next.released := by
  cases turned with
  | finishCancel | release => exact List.prefix_append _ _
  | _ => exact List.prefix_rfl

private theorem Operation.keeps_released (operation : Operation α) (moves : List Move) :
    operation.released <+: (operation.run moves).released := by
  induction moves using List.reverseRecOn with
  | nil => exact List.prefix_rfl
  | append_singleton before move ih =>
    rw [run_concat]
    exact ih.trans (transition_apply _ move).keeps_released

/-- What a client has asked of the endpoint is what its subscriptions have: every call is one
attempt of one of them and made once, and every release is one of theirs. -/
structure Accounted (client : Client α) : Prop where
  calls : ∀ call, call ∈ client.endpointCalls ↔
    ∃ operation, client.operation? call.subscription = some operation ∧
      call.attempt < operation.calls.length
  once : client.endpointCalls.Nodup
  released : client.released.Perm (client.operations.flatMap Operation.released)

namespace Accounted

variable {client : Client α}

private theorem of_same {next : Client α} (accounted : Accounted client)
    (operations : next.operations = client.operations)
    (calls : next.endpointCalls = client.endpointCalls)
    (released : next.released = client.released) : Accounted next := by
  refine ⟨fun call => ?_, calls ▸ accounted.once, ?_⟩
  · rw [calls, Client.operation?, operations]
    exact accounted.calls call
  · rw [released, operations]
    exact accounted.released

/-- A new subscription has asked for nothing. -/
theorem add (accounted : Accounted client) (plan : Plan α) (candidates : Candidates) :
    Accounted (client.add (.make plan candidates)) := by
  refine ⟨fun ⟨id, attempt⟩ => (accounted.calls _).trans ?_, accounted.once, ?_⟩
  · rw [Client.add_operation?]
    split
    · subst_vars
      simp [Client.operation?_length, Operation.make]
    · rfl
  · simpa [Client.add, Operation.make] using accounted.released

/-- The calls that a subscription has added to its first ones. -/
theorem mem_added {id first count : Nat} {call : EndpointCall} :
    call ∈ ((List.range count).drop first).map (EndpointCall.mk id) ↔
      call.subscription = id ∧ first ≤ call.attempt ∧ call.attempt < count := by
  obtain ⟨subscription, attempt⟩ := call
  simp only [List.range_eq_range', List.drop_range', List.mem_map, List.mem_range'_1,
    EndpointCall.mk.injEq]
  constructor
  · rintro ⟨_, bounds, rfl, rfl⟩
    exact ⟨rfl, by omega⟩
  · rintro ⟨rfl, bounds⟩
    exact ⟨attempt, by omega, rfl, rfl⟩

private theorem nodup_added (id first count : Nat) :
    (((List.range count).drop first).map (EndpointCall.mk id)).Nodup :=
  List.Pairwise.map _ (fun _ _ apart same => apart (congrArg EndpointCall.attempt same))
    (List.nodup_range.sublist (List.drop_sublist _ _))

/-- Where the releases of all are joined, those of one that has more come in their midst. -/
theorem perm_flatMap_set {operations : List (Operation α)} {id : Nat} {before after : Operation α}
    {gained : List String} (held : operations[id]? = some before)
    (gains : before.released ++ gained = after.released) :
    (operations.flatMap Operation.released ++ gained).Perm
      ((operations.set id after).flatMap Operation.released) := by
  obtain ⟨within, found⟩ := List.getElem?_eq_some_iff.1 held
  have split : operations = operations.take id ++ before :: operations.drop (id + 1) := by
    rw [← found, List.getElem_cons_drop, List.take_append_drop]
  rw [List.set_eq_take_append_cons_drop, if_pos within]
  nth_rewrite 1 [split]
  simp only [← gains, List.flatMap_append, List.flatMap_cons, List.append_assoc]
  exact (List.perm_append_comm.append_left _).append_left _

/-- A change of one subscription that goes on asking is accounted for. -/
theorem update (accounted : Accounted client) (id : Nat) {change : Operation α → Operation α}
    (calls : ∀ operation, operation.calls <+: (change operation).calls)
    (released : ∀ operation, operation.released <+: (change operation).released) :
    Accounted (client.update id change) := by
  cases held : client.operation? id with
  | none => rwa [Client.update_of_none held]
  | some before =>
    have longer := (calls before).length_le
    obtain ⟨gained, gains⟩ := released before
    have later : client.update id change = _ := Client.update_of_some held
    refine ⟨fun call => ?_, ?_, ?_⟩
    · rw [Client.update_operation?, later, List.mem_append, mem_added, accounted.calls]
      by_cases same : call.subscription = id
      · rw [same, held]
        simp
        omega
      · simp [same]
    · rw [later, List.nodup_append]
      refine ⟨accounted.once, nodup_added _ _ _, fun call old other added same => ?_⟩
      -- A call that was made before is of an attempt that was made before.
      subst same
      obtain ⟨subscription, late, -⟩ := mem_added.1 added
      obtain ⟨operation, found, early⟩ := (accounted.calls call).1 old
      rw [subscription, held] at found
      cases found
      omega
    · simp only [later, ← gains, List.drop_left]
      exact (accounted.released.append_right gained).trans (perm_flatMap_set held gains)

theorem run_one (accounted : Accounted client) (id : Nat) (moves : Operation α → List Move) :
    Accounted (client.update id fun operation => operation.run (moves operation)) :=
  accounted.update id (fun operation => operation.calls_run_prefix _)
    fun operation => operation.keeps_released _

private theorem foldl_cancel (accounted : Accounted client) (ids : List Nat) :
    Accounted (ids.foldl Client.cancel client) := by
  induction ids generalizing client with
  | nil => exact accounted
  | cons id rest ih =>
    refine ih ?_
    rw [Client.cancel_eq_update]
    exact accounted.run_one id fun operation =>
      [.beginCancel, .finishCancel (client.answerTo operation)]

end Accounted

private theorem ClientTransition.accounted {client next : Client α} {move : ClientMove α}
    (turned : ClientTransition client move next) (accounted : Accounted client) :
    Accounted next := by
  have tracking {client : Client α} (accounted : Accounted client) (registry : List Nat) :
      Accounted (client.tracking registry) := accounted.of_same rfl rfl rfl
  cases turned with
  | opened =>
    rw [Client.register_eq_tracking]
    exact tracking ((tracking accounted _).add _ _) _
  | registered =>
    rw [Client.register_eq_tracking]
    exact tracking accounted _
  | built plan candidates => exact accounted.add plan candidates
  | changed => exact accounted.run_one _ _
  | shutdown => exact tracking (accounted.foldl_cancel client.registry) []
  | pruned | unregistered => exact tracking accounted _
  | refused | unknown => exact accounted

namespace Client

theorem accounted_run (config : Config) (claims : Option Claims) (answers : ReleaseAnswers)
    (moves : List (ClientMove α)) :
    Accounted ((fresh config claims answers : Client α).run moves) := by
  have initial : Accounted (fresh config claims answers : Client α) :=
    ⟨fun call => by simp [fresh, operation?], List.nodup_nil, .refl _⟩
  exact run_induction ClientTransition.accounted initial moves

/-! ### What is about one subscription -/

/-- The ids that were released on behalf of a subscription. -/
def releasedOf (client : Client α) (id : Nat) : List String :=
  (client.operation? id).elim [] Operation.released

end Client

/-- All that happened to a client from one state to a later one happened to one subscription. -/
structure Concerns (one : Nat) (client later : Client α) : Prop where
  others : ∀ other, other ≠ one → later.operation? other = client.operation? other
  registry : later.registry = client.registry
  calls : ∃ calls, later.endpointCalls = client.endpointCalls ++ calls ∧
    ∀ call ∈ calls, call.subscription = one
  released : ∃ released, later.released = client.released ++ released ∧
    later.releasedOf one = client.releasedOf one ++ released

namespace Concerns

variable {one : Nat} {client middle later : Client α}

theorem refl (one : Nat) (client : Client α) : Concerns one client client :=
  ⟨fun _ _ => rfl, rfl, ⟨[], by simp⟩, ⟨[], by simp⟩⟩

theorem trans (first : Concerns one client middle) (second : Concerns one middle later) :
    Concerns one client later := by
  obtain ⟨calls, called, own⟩ := first.calls
  obtain ⟨moreCalls, calledAgain, ownAgain⟩ := second.calls
  obtain ⟨released, logged, gained⟩ := first.released
  obtain ⟨moreReleased, loggedAgain, gainedAgain⟩ := second.released
  refine ⟨fun other apart => (second.others other apart).trans (first.others other apart),
    second.registry.trans first.registry, ⟨calls ++ moreCalls, ?_, ?_⟩,
    ⟨released ++ moreReleased, ?_, ?_⟩⟩
  · rw [calledAgain, called, List.append_assoc]
  · exact List.forall_mem_append.2 ⟨own, ownAgain⟩
  · rw [loggedAgain, logged, List.append_assoc]
  · rw [gainedAgain, gained, List.append_assoc]

private theorem of_update (client : Client α) (one : Nat) (moves : Operation α → List Move) :
    Concerns one client (client.update one fun operation => operation.run (moves operation)) := by
  cases held : client.operation? one with
  | none =>
    rw [Client.update_of_none held]
    exact .refl one client
  | some before =>
    obtain ⟨gained, gains⟩ := before.keeps_released (moves before)
    have later : client.update one (fun operation => operation.run (moves operation)) = _ :=
      Client.update_of_some held
    refine ⟨fun other apart => Client.update_operation?_of_ne apart, Client.update_registry,
      ⟨_, congrArg Client.endpointCalls later, fun call added =>
        (Accounted.mem_added.1 added).1⟩, ⟨gained, ?_, ?_⟩⟩
    · rw [later]
      simp [← gains]
    · simp [Client.releasedOf, Client.update_operation?, held, gains]

theorem of_run (client : Client α) {moves : List (ClientMove α)}
    (about : ∀ move ∈ moves, move.subject? = some one) :
    Concerns one client (client.run moves) := by
  induction moves generalizing client with
  | nil => exact .refl one client
  | cons move rest ih =>
    obtain ⟨first, about⟩ := List.forall_mem_cons.1 about
    have turned : Concerns one client (client.apply move) := by
      rw [client.apply_of_subject first]
      exact of_update client one fun operation => client.ownMoves operation move
    exact turned.trans (ih _ about)

end Concerns

/-! ### Runs without what is about one subscription -/

/-- Two clients that are alike but for one of their subscriptions. -/
structure AlikeBut (one : Nat) (client twin : Client α) : Prop where
  config : twin.config = client.config
  claims : twin.claims = client.claims
  answers : twin.answers = client.answers
  count : twin.operations.length = client.operations.length
  others : ∀ other, other ≠ one → twin.operation? other = client.operation? other
  tracked : ∀ other, other ≠ one → (other ∈ twin.registry ↔ other ∈ client.registry)

namespace AlikeBut

variable {one : Nat} {client twin : Client α}

theorem refl (one : Nat) (client : Client α) : AlikeBut one client client :=
  ⟨rfl, rfl, rfl, rfl, fun _ _ => rfl, fun _ _ => .rfl⟩

private theorem isTerminal (alike : AlikeBut one client twin) {other : Nat} (apart : other ≠ one) :
    twin.isTerminal other = client.isTerminal other := by
  rw [Client.isTerminal, Client.isTerminal, alike.others other apart]

private theorem operation?_isSome (alike : AlikeBut one client twin) (id : Nat) :
    (twin.operation? id).isSome = (client.operation? id).isSome := by
  rw [Bool.eq_iff_iff]
  simp [Client.operation?, alike.count]

private theorem tracking (alike : AlikeBut one client twin) {registry twinRegistry : List Nat}
    (tracked : ∀ other, other ≠ one → (other ∈ twinRegistry ↔ other ∈ registry)) :
    AlikeBut one (client.tracking registry) (twin.tracking twinRegistry) :=
  { alike with tracked }

private theorem pruned (alike : AlikeBut one client twin) :
    AlikeBut one client.pruned twin.pruned := by
  refine alike.tracking fun other apart => ?_
  simp [alike.tracked other apart, alike.isTerminal apart]

private theorem add (alike : AlikeBut one client twin) (operation : Operation α) :
    AlikeBut one (client.add operation) (twin.add operation) := by
  refine ⟨alike.config, alike.claims, alike.answers, ?_, fun other apart => ?_, alike.tracked⟩
  · simp [Client.add, alike.count]
  · rw [Client.add_operation?, Client.add_operation?, alike.count, alike.others other apart]

private theorem register (alike : AlikeBut one client twin) (id : Nat) :
    AlikeBut one (client.register id) (twin.register id) := by
  rw [client.register_eq_tracking, twin.register_eq_tracking]
  refine alike.tracking fun other apart => ?_
  simp [alike.tracked other apart]

private theorem update (alike : AlikeBut one client twin) (id : Nat)
    (change : Operation α → Operation α) :
    AlikeBut one (client.update id change) (twin.update id change) := by
  obtain ⟨operations, _, _, same⟩ := client.update_frame id change
  obtain ⟨twinOperations, _, _, twinSame⟩ := twin.update_frame id change
  refine ⟨?_, ?_, ?_, ?_, fun other apart => ?_, fun other apart => ?_⟩
  · rw [same, twinSame, alike.config]
  · rw [same, twinSame, alike.claims]
  · rw [same, twinSame, alike.answers]
  · rw [Client.update_operations_length, Client.update_operations_length, alike.count]
  · rw [Client.update_operation?, Client.update_operation?]
    split
    · subst_vars
      rw [alike.others other apart]
    · exact alike.others other apart
  · rw [Client.update_registry, Client.update_registry, alike.tracked other apart]

/-- What happens to the one subscription leaves them alike. -/
theorem update_left (alike : AlikeBut one client twin) (change : Operation α → Operation α) :
    AlikeBut one (client.update one change) twin := by
  obtain ⟨operations, _, _, same⟩ := client.update_frame one change
  refine ⟨?_, ?_, ?_, ?_, fun other apart => ?_, fun other apart => ?_⟩
  · rw [same, alike.config]
  · rw [same, alike.claims]
  · rw [same, alike.answers]
  · rw [Client.update_operations_length, alike.count]
  · rw [Client.update_operation?_of_ne apart, alike.others other apart]
  · rw [Client.update_registry, alike.tracked other apart]

private theorem foldl_cancel (alike : AlikeBut one client twin) (steady : client.answers.Steady)
    (once : client.registry.Nodup) (twinOnce : twin.registry.Nodup) :
    AlikeBut one (client.registry.foldl Client.cancel client)
      (twin.registry.foldl Client.cancel twin) := by
  have twinSteady : twin.answers.Steady := alike.answers ▸ steady
  obtain ⟨_, _, same⟩ := client.foldl_cancel_frame client.registry
  obtain ⟨_, _, twinSame⟩ := twin.foldl_cancel_frame twin.registry
  refine ⟨?_, ?_, ?_, ?_, fun other apart => ?_, fun other apart => ?_⟩
  · rw [same, twinSame, alike.config]
  · rw [same, twinSame, alike.claims]
  · rw [same, twinSame, alike.answers]
  · rw [Client.foldl_cancel_length, Client.foldl_cancel_length, alike.count]
  · rw [Client.foldl_cancel_operation? steady once,
      Client.foldl_cancel_operation? twinSteady twinOnce]
    simp only [Client.canceledAlone, alike.tracked other apart, alike.others other apart,
      Client.answerTo_congr steady alike.answers]
  · rw [same, twinSame, alike.tracked other apart]

private theorem shutdown (alike : AlikeBut one client twin) (steady : client.answers.Steady)
    (orderly : Orderly client) (twinOrderly : Orderly twin) :
    AlikeBut one client.shutdown.1 twin.shutdown.1 :=
  (alike.foldl_cancel steady orderly.once twinOrderly.once).tracking fun _ _ => .rfl

/-- A move that happens to both leaves them alike. -/
theorem apply (alike : AlikeBut one client twin) (steady : client.answers.Steady)
    (orderly : Orderly client) (twinOrderly : Orderly twin)
    (move : ClientMove α) : AlikeBut one (client.apply move) (twin.apply move) := by
  cases about : move.subject? with
  | some id =>
    rw [client.apply_of_subject about, twin.apply_of_subject about]
    simp only [Client.ownMoves_congr steady alike.answers]
    exact alike.update id _
  | none =>
    cases move with
    | subscribe schema feed decode =>
      cases built : schema.subscriptionRequest feed with
      | error failure =>
        simpa only [Client.apply, Client.subscribe_of_error built] using alike
      | ok request =>
        simp only [Client.apply, Client.subscribe_of_ok built, Client.candidatesFor,
          Client.decoratorFor, alike.config, alike.claims, alike.count]
        exact (alike.pruned.add _).register _
    | build plan candidates => exact alike.add _
    | prune => exact alike.pruned
    | register id =>
      simp only [Client.apply, alike.operation?_isSome]
      split
      · exact alike.register id
      · exact alike
    | unregister id =>
      exact alike.tracking fun other apart => by simp [alike.tracked other apart]
    | shutdown => exact alike.shutdown steady orderly twinOrderly
    | _ => cases about

/-- Leaving out what is about the one subscription leaves them alike. -/
theorem run_without (alike : AlikeBut one client twin) (steady : client.answers.Steady)
    (orderly : Orderly client) (twinOrderly : Orderly twin) (moves : List (ClientMove α)) :
    AlikeBut one (client.run moves)
      (twin.run (moves.filter fun move => move.subject? ≠ some one)) := by
  induction moves generalizing client twin with
  | nil => exact alike
  | cons move rest ih =>
    have turned := client.transition_apply move
    have steadily : (client.apply move).answers.Steady := turned.answers ▸ steady
    by_cases about : move.subject? = some one
    · rw [List.filter_cons_of_neg (by simpa using about)]
      refine ih ?_ steadily (turned.orderly orderly) twinOrderly
      rw [client.apply_of_subject about]
      exact alike.update_left _
    · rw [List.filter_cons_of_pos (by simpa using about)]
      exact ih (alike.apply steady orderly twinOrderly move) steadily (turned.orderly orderly)
        ((twin.transition_apply move).orderly twinOrderly)

end AlikeBut

namespace Client

/-- In every state that a client can reach, each call and each release is that of one of its
subscriptions. What is then done to one of them, and what its loop and the endpoint make of it,
changes no other in anything, leaves the registry as it is, and asks the endpoint for calls and
releases on behalf of this one alone. Where the endpoint answers releases by their ids, the others
would be the same at the end of a whole run without all that is about this one. -/
theorem others_untouched (config : Config) (claims : Option Claims) (answers : ReleaseAnswers)
    (moves : List (ClientMove α)) (one : Nat) :
    let start : Client α := fresh config claims answers
    let client := start.run moves
    Accounted client ∧
      (∀ about : List (ClientMove α), (∀ move ∈ about, move.subject? = some one) →
        Concerns one client (client.run about)) ∧
      (answers.Steady → ∀ other, other ≠ one →
        (start.run (moves.filter fun move => move.subject? ≠ some one)).operation? other =
          client.operation? other) := by
  intro start client
  have orderly : Orderly start := orderly_fresh config claims answers
  exact ⟨accounted_run config claims answers moves, fun about own => .of_run client own,
    fun steady => ((AlikeBut.refl one start).run_without steady orderly orderly moves).others⟩

/-- Two subscriptions are opened, and the endpoint gives both the same id. -/
def twoAsOne : List (ClientMove Unit) :=
  List.replicate 2 (.subscribe ownedNotes .onCreate Operation.samplePlan.decode) ++
    (Operation.acknowledgment "one").map (ClientMove.of 0) ++
    (Operation.acknowledgment "one").map (ClientMove.of 1)

theorem twoAsOne_apart :
    let client := (fresh {} none fun _ _ => .ok () : Client Unit).run twoAsOne
    let later := client.run [.cancel 0]
    (client.operation? 0).bind Operation.subscriptionId? = some "one" ∧
      later.releasedOf 0 = ["one"] ∧
      (later.operation? 1).bind Operation.subscriptionId? = some "one" ∧
      (later.operation? 1).map Operation.state = some .active ∧ later.releasedOf 1 = [] := by
  intro client later
  obtain ⟨selection, built⟩ := ownedNotes_request
  let start : Client Unit := fresh {} none fun _ _ => .ok ()
  let idle : Operation Unit :=
    .make ⟨noteRequest selection, .unchanged, Operation.samplePlan.decode⟩ (.fixed .apiKey)
  let active := idle.run (Operation.acknowledgment "one")
  let pair := start.run
    (List.replicate 2 (.subscribe ownedNotes .onCreate Operation.samplePlan.decode))
  have idles : pair.operation? 0 = some idle ∧ pair.operation? 1 = some idle := by
    simp only [pair, List.replicate, run, List.foldl, apply, subscribe_of_ok built]
    exact ⟨rfl, rfl⟩
  have about (id : Nat) : ∀ move ∈ (Operation.acknowledgment "one").map (ClientMove.of id),
      (move : ClientMove Unit).subject? = some id := by
    simp [ClientMove.subject?_of]
  let one := pair.run ((Operation.acknowledgment "one").map (ClientMove.of 0))
  have reached : client = one.run ((Operation.acknowledgment "one").map (ClientMove.of 1)) := by
    simp only [client, one, pair, start, twoAsOne, run_append]
  have first : client.operation? 0 = some active := by
    rw [reached, (Concerns.of_run one (about 1)).others 0 (by decide), run_of_operation?, idles.1,
      Option.map_some]
  have second : client.operation? 1 = some active := by
    rw [reached, run_of_operation?, (Concerns.of_run pair (about 0)).others 1 (by decide), idles.2,
      Option.map_some]
  obtain ⟨-, about, -⟩ := others_untouched {} none (fun _ _ => .ok ()) twoAsOne 0
  have same : later.operation? 1 = some active :=
    ((about [.cancel 0] (by simp [ClientMove.subject?])).others 1 (by decide)).trans second
  have canceled : later.operation? 0 = some (active.cancel (client.answerTo active)) := by
    have turned : later = client.cancel 0 := rfl
    rw [turned, cancel_eq_update, update_operation?, if_pos rfl, first]
    rfl
  rw [first, same, releasedOf, releasedOf, canceled, same]
  refine ⟨rfl, ?_, rfl, rfl, rfl⟩
  cases client.answerTo active <;> rfl

end Client

end ModelSync
