import ModelSync.Proofs.Subscription.Choices
import ModelSync.Proofs.Subscription.Earlier
import ModelSync.Proofs.Subscription.Outcome
import ModelSync.Proofs.Subscription.States

/-! What an acknowledged subscription makes of the stream of its attempt. The subscriber is told of
the responses that arrive after the acknowledgment, in their order, up to the first arrival that puts
an end to the subscription, or up to its cancellation. -/
namespace ModelSync

variable {α : Type}

/-- A signal that brings an item. -/
def Arrival.isItem : Arrival → Bool
  | .signal (.next _) => true
  | _ => false

/-- A subscription was acknowledged on the stream of its latest attempt. Before the acknowledgment
it took only items from that stream, and after it these arrivals. -/
structure Following (operation : Operation α) (reads : List Read) (id : String) (stream : Nat)
    (early heard : List Arrival) : Prop where
  latest : stream + 1 = operation.streams.length
  items : ∀ arrival ∈ early, arrival.isItem = true
  read : readOn reads stream = early ++ .signal (.started id) :: heard
  tells : operation.plan.Tells id heard operation.phase operation.canceling operation.told

namespace Following

variable {operation next : Operation α} {reads : List Read} {id : String} {stream : Nat}
  {early heard : List Arrival}

/-- A move that takes nothing from the stream, and tells nothing of it. -/
theorem keep (following : Following operation reads id stream early heard)
    (length : next.streams.length = operation.streams.length)
    (tells : next.plan.Tells id heard next.phase next.canceling next.told) :
    Following next (reads ++ []) id stream early (heard ++ readOn [] stream) := by
  rw [readOn, List.filter_nil, List.map_nil, List.append_nil, List.append_nil]
  exact ⟨following.latest.trans length.symm, following.items, following.read, tells⟩

/-- A move that takes an arrival from the stream of an active subscription. -/
theorem take (following : Following operation reads id stream early heard) {read : Read}
    (active : operation.phase = .active id)
    (latest : read.stream + 1 = operation.streams.length)
    (same : next.plan = operation.plan ∧ next.streams.length = operation.streams.length)
    (brings : operation.plan.proceed id operation.told read.arrival = (next.told, next.phase)) :
    Following next (reads ++ [read]) id stream early (heard ++ readOn [read] stream) := by
  have outcome := following.tells.outcome (by rw [active]; rfl)
  rw [active] at outcome
  obtain rfl : read.stream = stream := by
    have held := following.latest
    omega
  refine ⟨following.latest.trans same.2.symm, following.items, ?_, ?_⟩
  · rw [readOn_append, readOn_self, following.read]
    simp
  · rw [readOn_self, same.1]
    refine .following ?_
    rw [Plan.outcome_concat (by rw [outcome]), outcome, ← brings]

end Following

/-- The report of a release is no report of a wrong use. -/
theorem releaseReport_proper (answer : Except EndpointError Unit) :
    (releaseReport answer : List (Event α)).filter (fun event => !event.isUsage) =
      releaseReport answer := by
  cases answer <;> rfl

private theorem Phase.eq_active {phase : Phase} {id : String} (active : phase.state = .active)
    (known : phase.subscriptionId? = some id) : phase = .active id := by
  cases phase with
  | active other => rw [Option.some.inj known]
  | _ => cases active

/-- There is no id before the acknowledgment is read. -/
theorem Coherent.unknown_of_unheard {operation : Operation α} (coherent : Coherent operation)
    (unheard : operation.stage.isUnheard = true) : operation.phase.subscriptionId? = none := by
  have suited := coherent.suited
  cases stage : operation.stage <;> rw [stage] at suited unheard
  case draining deadline stream =>
    rw [show operation.phase = .canceled none from suited]
    rfl
  case accepting | forwarding | releasing | returned => cases unheard
  all_goals
    rcases suited with phase | phase
    all_goals
      rw [phase]
      rfl

namespace Transition

variable {operation next : Operation α} {move : Move} {read : Option Read} {reads : List Read}
  {id : String} {stream : Nat} {early heard : List Arrival}

/-- An active subscription takes up what it reads next, and any other tells nothing of it. -/
theorem following (turned : Transition operation move read next) (coherent : Coherent operation)
    (latest : ∀ stream, operation.stage.stream? = some stream →
      stream + 1 = operation.streams.length)
    (following : Following operation reads id stream early heard) :
    Following next (reads ++ read.toList) id stream early
      (heard ++ readOn read.toList stream) := by
  have tells := following.tells
  have known := tells.subscriptionId?
  have unheard (waiting : operation.stage.isUnheard = true) : False := by
    simp [coherent.unknown_of_unheard waiting] at known
  have own {other : String} (phase : operation.phase = .active other) : other = id := by
    rw [phase] at known
    exact Option.some.inj known
  cases turned with
  | begin phase | abandon phase | forsake phase | fail phase =>
    rw [phase] at known
    cases known
  | misuse fault late =>
    refine following.keep rfl ?_
    simpa [Operation.told, Event.isUsage, SubscriptionError.isUsage] using tells
  | cancel phase =>
    obtain rfl := own phase
    rw [phase] at tells
    exact following.keep rfl (.canceled (tells.outcome rfl))
  | finishCancel answer canceling =>
    have canceled := coherent.canceling _ canceling
    rw [canceled] at known tells
    obtain rfl := Option.some.inj known
    rw [canceling] at tells
    refine following.keep rfl ?_
    simp only [canceled, Operation.told, List.filter_append, releaseReport_proper]
    exact tells.finishCancel answer
  | cancelAgain | finishNothing | wait | hold => exact following.keep rfl tells
  | leave _ _ kept | release _ kept => exact following.keep kept.length_eq tells
  | deliver | hangUp => exact following.keep (List.length_modify ..) tells
  | drop pending => exact (unheard (Stage.isUnheard_of_pending pending)).elim
  | prepare prepared => exact (unheard (Stage.isUnheard_of_searching prepared.searching_before)).elim
  | call stage | retry stage | exhaust stage | hear stage | notice stage | hearLate stage
  | giveUp _ stage => exact (unheard (by rw [stage]; rfl)).elim
  | quit _ searching => exact (unheard (Stage.isUnheard_of_searching searching)).elim
  | activate _ phase =>
    rw [phase] at known
    cases known
  | refuse stage =>
    have suited := coherent.suited
    rw [stage] at suited
    rcases suited with phase | phase
    all_goals
      rw [phase] at known
      cases known
  | forward stage phase decoded kept =>
    obtain rfl := own phase
    refine following.take phase (latest _ (by rw [stage]; rfl)) ⟨rfl, kept.length_eq⟩ ?_
    simp [Plan.proceed, Plan.closing?, Plan.response?, decoded, phase, Operation.told, Event.isUsage,
      Except.toOption]
  | repeated stage phase kept =>
    obtain rfl := own phase
    refine following.take phase (latest _ (by rw [stage]; rfl)) ⟨rfl, kept.length_eq⟩ ?_
    simp [Plan.proceed, Plan.closing?, Plan.response?, phase, Operation.told]
  | spoil stage phase undecodable kept =>
    obtain rfl := own phase
    refine following.take phase (latest _ (by rw [stage]; rfl)) ⟨rfl, kept.length_eq⟩ ?_
    simp [Plan.proceed, Plan.closing?, undecodable, Operation.told, Event.isUsage,
      SubscriptionError.isUsage]
  | breakOff stage phase ended kept =>
    obtain rfl := own phase
    refine following.take phase (latest _ (by rw [stage]; rfl)) ⟨rfl, kept.length_eq⟩ ?_
    rcases ended with rfl | ⟨rfl, rfl⟩
    all_goals
      simp [Plan.proceed, Plan.closing?, Operation.told, Event.isUsage, SubscriptionError.isUsage]
  | complete stage phase kept =>
    obtain rfl := own phase
    refine following.take phase (latest _ (by rw [stage]; rfl)) ⟨rfl, kept.length_eq⟩ ?_
    simp [Plan.proceed, Plan.closing?, Operation.told, Event.isUsage]

end Transition

/-! ## Before the acknowledgment -/

/-- While the loop waits for an answer it has only taken items from its stream. Then it takes the
acknowledgment. -/
structure Expects (operation : Operation α) (reads : List Read) : Prop where
  pending : ∀ stream, operation.stage.pending? = some stream →
    ∀ arrival ∈ readOn reads stream, arrival.isItem = true
  accepting : ∀ id stream, operation.stage = .accepting id stream →
    ∃ early, (∀ arrival ∈ early, arrival.isItem = true) ∧
      readOn reads stream = early ++ [.signal (.started id)]

private theorem readOn_of_unopened {reads : List Read} {stream : Nat}
    (own : ∀ read ∈ reads, read.stream < stream) : readOn reads stream = [] := by
  have unread : reads.filter (fun read => read.stream == stream) = [] := by
    refine List.filter_eq_nil_iff.2 fun read listed => ?_
    have before := own read listed
    simp [Nat.ne_of_lt before]
  rw [readOn, unread, List.map_nil]

namespace Transition

variable {operation next : Operation α} {move : Move} {read : Option Read} {reads : List Read}

private theorem expects (turned : Transition operation move read next)
    (own : ∀ taken ∈ reads, taken.stream < operation.streams.length)
    (expects : Expects operation reads) : Expects next (reads ++ read.toList) := by
  -- Elsewhere nothing is asked of what was read.
  have apart (pending : next.stage.pending? = none)
      (accepting : ∀ id stream, next.stage ≠ .accepting id stream) :
      Expects next (reads ++ read.toList) := by
    constructor
    · intro stream waiting
      simp [pending] at waiting
    · intro id stream accepts
      exact absurd accepts (accepting id stream)
  cases turned with
  | begin | retry | fail | quit | exhaust | activate | refuse | spoil | breakOff | complete | leave
  | release | hearLate | giveUp => exact apart rfl (by simp)
  | prepare prepared =>
    apply apart (Stage.pending?_of_stream_none prepared.stream_after)
    intro id stream accepts
    have searching := prepared.searching_after
    dsimp only at accepts
    rw [accepts] at searching
    cases searching
  | forward stage | repeated stage => exact apart (by rw [stage]; rfl) (by simp [stage])
  | call =>
    constructor
    · intro stream waiting
      obtain rfl := Option.some.inj waiting
      rw [Option.toList_none, List.append_nil, readOn_of_unopened own]
      simp
    · intro id stream accepts
      cases accepts
  | @hear _ stream _ _ id _ stage =>
    constructor
    · intro target waiting
      cases waiting
    · intro other target accepts
      cases accepts
      refine ⟨readOn reads stream, expects.pending stream (by rw [stage]; rfl), ?_⟩
      rw [readOn_append]
      simp [readOn]
  | @notice _ stream _ _ stage =>
    constructor
    · intro target waiting
      obtain rfl := Option.some.inj waiting
      simpa using expects.pending stream (by rw [stage]; rfl)
    · intro id target accepts
      cases accepts
  | @drop _ stream item pending =>
    constructor
    · intro target waiting arrival listed
      rw [pending] at waiting
      obtain rfl := Option.some.inj waiting
      rw [readOn_append] at listed
      rcases List.mem_append.1 listed with former | now
      · exact expects.pending stream pending arrival former
      · obtain rfl : arrival = .signal (.next item) := by simpa [readOn] using now
        rfl
    · intro id target accepts
      simp [show operation.stage = .accepting id target from accepts, Stage.pending?] at pending
  | _ => simpa using ⟨expects.pending, expects.accepting⟩

/-- An id appears as the loop accepts an acknowledgment. -/
theorem accepts (turned : Transition operation move read next) {id : String}
    (unknown : operation.phase.subscriptionId? ≠ some id)
    (known : next.phase.subscriptionId? = some id) :
    operation.phase = .starting ∧ next.phase = .active id ∧ next.plan = operation.plan ∧
      next.streams = operation.streams ∧ read = none ∧
      next.told = operation.told ++ [.started id] ∧
      ∃ stream, operation.stage = .accepting id stream := by
  cases turned with
  | activate stage phase =>
    obtain rfl := Option.some.inj known
    exact ⟨phase, rfl, rfl, rfl, rfl, Operation.told_eq_concat rfl rfl, _, stage⟩
  | begin | abandon | forsake | fail => cases known
  | cancel phase | spoil _ phase | breakOff _ phase | complete _ phase =>
    rw [phase] at unknown
    exact absurd known unknown
  | _ => exact absurd known unknown

end Transition

namespace Operation

theorem expects_run (plan : Plan α) (candidates : Candidates) (moves : List Move) :
    Expects ((make plan candidates).run moves) ((make plan candidates).reads moves) := by
  induction moves using List.reverseRecOn with
  | nil => exact ⟨nofun, nofun⟩
  | append_singleton before move ih =>
    rw [run_concat, reads_concat]
    exact (transition_apply _ move).expects (heard_run plan candidates before).own ih

/-- Every acknowledged subscription follows the stream of its latest attempt. -/
theorem following_run (plan : Plan α) (candidates : Candidates) (moves : List Move) {id : String}
    (known : ((make plan candidates).run moves).subscriptionId? = some id) :
    ∃ stream early heard, Following ((make plan candidates).run moves)
      ((make plan candidates).reads moves) id stream early heard := by
  induction moves using List.reverseRecOn with
  | nil => cases known
  | append_singleton before move ih =>
    rw [run_concat, reads_concat]
    rw [run_concat] at known
    have turned := transition_apply ((make plan candidates).run before) move
    have coherent := coherent_run plan candidates before
    have latest := (heard_run plan candidates before).latest
    by_cases former : ((make plan candidates).run before).subscriptionId? = some id
    · obtain ⟨stream, early, heard, following⟩ := ih former
      exact ⟨stream, early, _, turned.following coherent latest following⟩
    · obtain ⟨starting, active, plan_eq, streams, nothing, told, stream, stage⟩ :=
        turned.accepts former known
      obtain ⟨early, items, taken⟩ := (expects_run plan candidates before).accepting id stream stage
      have untold := tells_run plan candidates before
      simp only [starting] at untold
      refine ⟨stream, early, [], ?_, items, ?_, ?_⟩
      · rw [streams]
        exact latest stream (by rw [stage]; rfl)
      · rw [nothing, Option.toList_none, List.append_nil, taken]
      · rw [told, active, show ((make plan candidates).run before).told = [] from untold]
        exact .following rfl

/-- The plan stays the same. -/
theorem plan_run (operation : Operation α) (moves : List Move) :
    (operation.run moves).plan = operation.plan := by
  refine run_induction (motive := fun later => later.plan = operation.plan) ?_ rfl moves
  exact fun turned same => turned.plan_eq.trans same

end Operation

/-! ## What is left on the stream -/

/-- What is left to read is what the loop finds next, and then the rest. -/
theorem SignalStream.arrival_of_left {stream : SignalStream} {arrival : Arrival}
    {rest : List Arrival} (left : stream.left = arrival :: rest) :
    stream.hasArrival = true ∧ stream.arrival = arrival := by
  obtain ⟨unread, sending, listening⟩ := stream
  cases unread with
  | cons signal later =>
    obtain ⟨rfl, _⟩ := List.cons.inj left
    exact ⟨rfl, rfl⟩
  | nil =>
    cases sending with
    | true => cases left
    | false =>
      obtain ⟨rfl, _⟩ := List.cons.inj left
      exact ⟨rfl, rfl⟩

/-- A step of the loop cancels nothing. -/
theorem Transition.isCanceled_of_step {operation next : Operation α} {now : Nat}
    {read : Option Read} (turned : Transition operation (.step now) read next)
    (uncanceled : operation.phase.isCanceled = false) : next.phase.isCanceled = false := by
  cases turned with
  | fail | activate | spoil | breakOff | complete => rfl
  | _ => exact uncanceled

namespace Operation

/-- The next step of an active subscription takes what comes next on its stream. -/
theorem readBy_of_left (plan : Plan α) (candidates : Candidates) (moves : List Move)
    {id : String} {stream : Nat} {early heard rest : List Arrival} {arrival : Arrival}
    (following : Following ((make plan candidates).run moves)
      ((make plan candidates).reads moves) id stream early heard)
    (active : ((make plan candidates).run moves).phase = .active id)
    (sent : (make plan candidates).sentOn stream moves =
      early ++ .signal (.started id) :: (heard ++ arrival :: rest)) (now : Nat) :
    ((make plan candidates).run moves).readBy (.step now) =
      some ⟨stream, arrival, .active id⟩ := by
  have latest := following.latest
  obtain ⟨target, stage⟩ := (coherent_run plan candidates moves).forwarding_of_active active
  have held := (heard_run plan candidates moves).latest target (by rw [stage]; rfl)
  obtain rfl : target = stream := by omega
  obtain ⟨left, found⟩ :
      ∃ left, ((make plan candidates).run moves).streams[target]? = some left :=
    ⟨_, List.getElem?_eq_getElem (by omega)⟩
  have listening := (attended_run plan candidates moves target left found).2 (by rw [stage]; rfl)
  have order := (inOrder_run plan candidates moves).listening target left found listening
  rw [sent, following.read] at order
  have next : left.left = arrival :: rest := by simpa using order.symm
  obtain ⟨arrived, brings⟩ := SignalStream.arrival_of_left next
  simp [readBy, reading?, takesArrival, hasArrival, Operation.arrival, stage, active, found, arrived,
    brings, Phase.activeId?, Stage.stream?]

/-- Steps of the loop alone bring out everything that was sent. -/
theorem exists_settled (plan : Plan α) (candidates : Candidates) (now : Nat) {id : String}
    {stream : Nat} {early : List Arrival} (rest : List Arrival) (moves : List Move)
    (heard : List Arrival)
    (following : Following ((make plan candidates).run moves)
      ((make plan candidates).reads moves) id stream early heard)
    (uncanceled : ((make plan candidates).run moves).phase.isCanceled = false)
    (sent : (make plan candidates).sentOn stream moves =
      early ++ .signal (.started id) :: (heard ++ rest)) :
    ∃ steps,
      let settled := ((make plan candidates).run moves).run (List.replicate steps (.step now))
      plan.outcome id (heard ++ rest) = (settled.told, settled.phase) := by
  have outcome := following.tells.outcome uncanceled
  rw [plan_run] at outcome
  induction rest generalizing moves heard with
  | nil =>
    rw [List.append_nil]
    exact ⟨0, outcome⟩
  | cons arrival rest ih =>
    by_cases active : ((make plan candidates).run moves).phase = .active id
    · have taken := readBy_of_left plan candidates moves following active sent now
      have turned := transition_apply ((make plan candidates).run moves) (.step now)
      have further := turned.following (coherent_run plan candidates moves)
        (heard_run plan candidates moves).latest following
      have still := turned.isCanceled_of_step uncanceled
      rw [← reads_concat, ← run_concat, taken, Option.toList_some] at further
      rw [← run_concat] at still
      have heard' : readOn [⟨stream, arrival, .active id⟩] stream = [arrival] := readOn_self _
      rw [heard'] at further
      have result := further.tells.outcome still
      rw [plan_run] at result
      obtain ⟨steps, settled⟩ := ih (moves ++ [.step now]) (heard ++ [arrival]) further still
        (by rw [sentOn_concat, sent]; simp [sentBy?]) result
      refine ⟨steps + 1, ?_⟩
      rw [List.append_assoc, List.singleton_append, run_concat] at settled
      exact settled
    · have closed : (plan.outcome id heard).2 ≠ .active id := by
        rw [show plan.outcome id heard = _ from outcome]
        exact active
      rw [Plan.outcome_append_of_closed closed]
      exact ⟨0, outcome⟩

/-- The cancellation of an active subscription is final, and only a failed release is told after
it. -/
theorem told_run_of_cancel {operation : Operation α} {id : String}
    (active : operation.phase = .active id) (later : List Move) :
    (operation.beginCancel.run later).phase = .canceled (some id) ∧
      (operation.beginCancel.run later).told =
        operation.told ++ ((releaseAnswer? later).map releaseReport).getD [] := by
  have canceled : operation.beginCancel =
      { operation with phase := .canceled (some id), canceling := some id } := by
    simp only [beginCancel, active]
  rw [canceled]
  refine ⟨phase_of_terminal rfl later, ?_⟩
  rw [told_run_of_canceled _ rfl]
  cases releaseAnswer? later <;> rfl

/-- Nothing but wrong uses is left out of what was told. -/
theorem told_run_eq_events (plan : Plan α) (candidates : Candidates) (moves : List Move)
    (once : ∀ before after, moves = before ++ .start :: after →
      ((make plan candidates).run before).state = .idle) :
    ((make plan candidates).run moves).told = ((make plan candidates).run moves).events := by
  induction moves using List.reverseRecOn with
  | nil => rfl
  | append_singleton before move ih =>
    have earlier := ih fun first last split => once first (last ++ [move]) (by simp [split])
    rw [run_concat]
    refine (transition_apply _ move).told_eq_events earlier fun start => ?_
    have idle := once before [] (by simp [start])
    have coherent := coherent_run plan candidates before
    unfold state at idle
    cases phase : ((make plan candidates).run before).phase with
    | idle =>
      have held := coherent.held.2 phase
      exact ⟨rfl, fun nothing => by simp [nothing] at held⟩
    | _ => simp [phase, Phase.state] at idle

/-- Once a subscription was acknowledged, only items came before the acknowledgment on the stream of
its latest attempt, and they are not told. Of what was sent after it the subscriber is told in order,
up to what was heard so far: the responses, and then the end, if there is one. Unless it is canceled,
steps of its loop bring out all that was sent. Repeated acknowledgments make no difference. After a
cancellation nothing more of the stream is told. What the endpoint does on the streams of attempts
that were rejected changes nothing but these streams, whenever it does it. Wrong uses aside, these
are all the events. -/
theorem delivers_in_order (plan : Plan α) (candidates : Candidates) (moves : List Move)
    (id : String) (known : ((make plan candidates).run moves).subscriptionId? = some id) :
    let operation := (make plan candidates).run moves
    ∃ stream early heard rest,
      (operation.calls.length = stream + 1 ∧
        ∀ attempt < stream, Rejected ((make plan candidates).reads moves) attempt) ∧
      ((make plan candidates).sentOn stream moves =
          early ++ .signal (.started id) :: (heard ++ rest) ∧
        ∀ arrival ∈ early, arrival.isItem = true) ∧
      plan.Tells id heard operation.phase operation.canceling operation.told ∧
      (operation.phase.isCanceled = false → ∀ now, ∃ steps,
        let settled := operation.run (List.replicate steps (.step now))
        plan.outcome id (heard ++ rest) = (settled.told, settled.phase)) ∧
      plan.outcome id ((heard ++ rest).filter fun arrival => arrival.acknowledgedId?.isNone) =
        plan.outcome id (heard ++ rest) ∧
      (operation.state = .active → ∀ later,
        let canceled := operation.beginCancel.run later
        canceled.phase = .canceled (some id) ∧
          canceled.told = operation.told ++ ((releaseAnswer? later).map releaseReport).getD []) ∧
      (∀ before after move attempt, moves = before ++ after → move.attempt? = some attempt →
        Rejected ((make plan candidates).reads before) attempt →
          ∃ streams, (make plan candidates).run (before ++ move :: after) =
            { operation with streams }) ∧
      ((∀ before after, moves = before ++ .start :: after →
          ((make plan candidates).run before).state = .idle) →
        operation.told = operation.events) := by
  intro operation
  obtain ⟨stream, early, heard, following⟩ := following_run plan candidates moves known
  have latest := following.latest
  obtain ⟨rest, sent⟩ := (inOrder_run plan candidates moves).read stream
  rw [following.read, List.append_assoc, List.cons_append] at sent
  have tells := following.tells
  rw [plan_run] at tells
  refine ⟨stream, early, heard, rest, ⟨?_, fun attempt before => ?_⟩, ⟨sent.symm, following.items⟩,
    tells, fun uncanceled now => ?_, plan.outcome_filter id _, fun active later => ?_, ?_,
    told_run_eq_events plan candidates moves⟩
  · exact (calls_length plan candidates moves).trans latest.symm
  · exact (heard_run plan candidates moves).earlier attempt (by omega)
  · exact exists_settled plan candidates now rest moves heard following uncanceled sent.symm
  · exact told_run_of_cancel (Phase.eq_active active known) later
  · rintro before after move attempt rfl endpoint rejected
    exact run_of_rejected plan candidates before after rejected endpoint

/-- A plan whose items are responses with data of any form. -/
def responsePlan : Plan Json := ⟨samplePlan.request, .unchanged, Response.decode Decode.value⟩

/-- A payload without data that reports an error. -/
def refusal : Json :=
  .ofMembers [("data", .null), ("errors", .arr [.ofMembers [("message", .str "Unauthorized")]])]

/-- The moves of a subscription that is sent the same payload before its acknowledgment, after it and
after a repeated one. The last one is not taken from the stream yet. -/
def interleavedItems : List Move :=
  [.start, .step 0, .step 0, .step 0, .step 0, .step 0, .deliver 0 (.next refusal), .step 0,
    .deliver 0 (.started "one"), .step 0, .step 0, .deliver 0 (.next refusal), .step 0,
    .deliver 0 (.started "two"), .deliver 0 (.next refusal), .step 0]

theorem delivers_one_of_three :
    let operation := (make responsePlan (.fixed .apiKey)).run interleavedItems
    let response : Response Json := { errors := [{ message := "Unauthorized" }] }
    operation.subscriptionId? = some "one" ∧ operation.state = .active ∧
      operation.told = [.started "one", .next response] ∧
      (operation.beginCancel.run [.step 0, .finishCancel (.error .closed)]).told =
        [.started "one", .next response, .error (.endpoint .closed)] := by
  intro operation response
  have known : operation.subscriptionId? = some "one" := rfl
  have active : operation.state = .active := rfl
  have told : operation.told = [.started "one", .next response] := rfl
  obtain ⟨_, _, _, _, _, _, _, _, _, canceled, _⟩ :=
    delivers_in_order responsePlan (.fixed .apiKey) interleavedItems "one" known
  refine ⟨known, active, told, ?_⟩
  rw [(canceled active [.step 0, .finishCancel (.error .closed)]).2]
  rfl

end Operation

end ModelSync
