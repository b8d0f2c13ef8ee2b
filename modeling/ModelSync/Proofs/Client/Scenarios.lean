import Mathlib.Data.List.Perm.Subperm
import ModelSync.Proofs.Client.Registry
import ModelSync.Scenario.Report

/-! Scenarios move a client as callers and an endpoint do. Whatever a scenario does, in its own
actions or while its loops run on, moves have led the client of its world there; so what is shown of
the runs of a client holds in every world that a scenario reports on. -/
namespace ModelSync

variable {α : Type}

/-- Moves lead from one state of a client to a later one, and open no subscription. -/
def Client.Leads (client later : Client α) : Prop :=
  ∃ moves, later = client.run moves ∧ later.operations.length = client.operations.length

namespace Client.Leads

variable {client middle later : Client α}

theorem refl (client : Client α) : client.Leads client := ⟨[], rfl, rfl⟩

theorem trans (first : client.Leads middle) (second : middle.Leads later) :
    client.Leads later := by
  obtain ⟨moves, rfl, count⟩ := first
  obtain ⟨others, rfl, counted⟩ := second
  exact ⟨moves ++ others, (client.run_append moves others).symm, counted.trans count⟩

private theorem of_subject (client : Client α) (move : ClientMove α) {id : Nat}
    (about : move.subject? = some id) : client.Leads (client.apply move) := by
  refine ⟨[move], rfl, ?_⟩
  rw [client.apply_of_subject about, update_operations_length]

private theorem foldl {β : Type} {act : Client α → β → Client α}
    (leads : ∀ (client : Client α) item, client.Leads (act client item)) (client : Client α)
    (items : List β) : client.Leads (items.foldl act client) := by
  induction items generalizing client with
  | nil => exact refl client
  | cons item rest ih => exact (leads client item).trans (ih _)

end Client.Leads

namespace Scenario

namespace World

/-- A world goes on to a later one with the same subscriptions, and moves lead its client. -/
structure Goes (world later : World) : Prop where
  leads : world.client.Leads later.client
  subs : later.subs.length = world.subs.length

variable {world middle later : World}

theorem Goes.refl (world : World) : world.Goes world := ⟨.refl _, rfl⟩

theorem Goes.trans (first : world.Goes middle) (second : middle.Goes later) : world.Goes later :=
  ⟨first.leads.trans second.leads, second.subs.trans first.subs⟩

private theorem Goes.foldl {β : Type} {act : World → β → World}
    (goes : ∀ (world : World) item, world.Goes (act world item)) (world : World)
    (items : List β) : world.Goes (items.foldl act world) := by
  induction items generalizing world with
  | nil => exact .refl world
  | cons item rest ih => exact (goes world item).trans (ih _)

private theorem goes_change {client : Client Json} (leads : world.client.Leads client) :
    world.Goes (world.change client) := ⟨leads, rfl⟩

private theorem goes_cancelLatest (world : World) : world.Goes world.cancelLatest := by
  unfold cancelLatest
  split
  · exact goes_change (.of_subject _ (.cancel _) rfl)
  · exact .refl world

private theorem Goes.ite {condition : Prop} [Decidable condition] (goes : world.Goes middle)
    (other : world.Goes later) : world.Goes (if condition then middle else later) := by
  split
  · exact goes
  · exact other

/-! ### Loops in the background -/

private theorem goes_react (world : World) (call : EndpointCall) :
    world.Goes (world.react call) := by
  unfold react
  extract_lets reaction scripted sent canceled
  have delivered : world.client.Leads
      (reaction.signals.foldl (fun client signal => client.deliver call signal) world.client) :=
    .foldl (fun client signal => .of_subject client (.deliver call signal) rfl) _ _
  have first : world.Goes sent := ⟨delivered, rfl⟩
  have second : world.Goes canceled := .ite (first.trans (goes_cancelLatest sent)) first
  exact .ite (second.trans (goes_change (.of_subject _ (.hangUp call) rfl))) second

private theorem goes_runStep (world : World) (id : Nat) : world.Goes (world.runStep id) := by
  unfold runStep
  extract_lets hooked taken stepped
  have first : world.Goes hooked := .ite (goes_cancelLatest world) (.refl world)
  have second : hooked.Goes stepped := ⟨.of_subject _ (.step hooked.clock id) rfl, rfl⟩
  exact first.trans (second.trans (.foldl goes_react _ _))

private theorem goes_rest (world : World) (id : Nat) : world.Goes (world.rest id) := by
  unfold rest
  extract_lets expired
  have first : world.Goes expired := ⟨.of_subject _ (.expire world.clock id) rfl, rfl⟩
  exact .ite ⟨first.leads, first.subs⟩ first

private theorem goes_settleStep (world : World) : world.Goes world.settleStep := by
  unfold settleStep
  split
  · exact ⟨.refl _, rfl⟩
  · exact .ite (goes_rest world _) (.ite (goes_runStep world _) ⟨.refl _, rfl⟩)

private theorem goes_settle (bound : Nat) (world : World) : world.Goes (settle bound world) := by
  induction bound generalizing world with
  | zero => exact .refl world
  | succ bound ih =>
    unfold settle
    exact .ite (.refl world) ((goes_settleStep world).trans (ih _))

/-! ### Actions -/

/-- The client of a world was led there from a first one, and the world knows of all its
subscriptions. -/
structure Led (start : Client Json) (world : World) : Prop where
  moves : ∃ moves, world.client = start.run moves
  subs : world.subs.length = world.client.operations.length

variable {start : Client Json}

private theorem Led.goes (led : Led start world) (goes : world.Goes later) : Led start later := by
  obtain ⟨moves, reached⟩ := led.moves
  obtain ⟨others, further, count⟩ := goes.leads
  refine ⟨⟨moves ++ others, ?_⟩, ?_⟩
  · rw [further, reached, Client.run_append]
  · rw [goes.subs, led.subs, count]

/-- A move that opens nothing. -/
theorem Led.move (led : Led start world) (move : ClientMove Json)
    (count : (world.client.apply move).operations.length = world.client.operations.length) :
    Led start { world with client := world.client.apply move } :=
  led.goes ⟨⟨[move], rfl, count⟩, rfl⟩

/-- A move that opens one subscription. -/
theorem Led.open (led : Led start world) (move : ClientMove Json) (hooks : Hooks)
    (count : (world.client.apply move).operations.length = world.client.operations.length + 1) :
    Led start (world.withSub (world.client.apply move) hooks) := by
  obtain ⟨moves, reached⟩ := led.moves
  refine ⟨⟨moves ++ [move], ?_⟩, ?_⟩
  · rw [Client.run_concat, ← reached]
    rfl
  · simp [withSub, led.subs, count]

/-- A subscription whose handle is held exists. -/
theorem Led.isSome_of_holdsHandle (led : Led start world) {id : Nat}
    (holds : world.holdsHandle id = true) : (world.client.operation? id).isSome = true := by
  obtain ⟨sub, held, -⟩ := (Option.any_eq_true _ _).1 holds
  obtain ⟨within, -⟩ := List.getElem?_eq_some_iff.1 held
  rw [led.subs] at within
  simp [Client.operation?, within]

private theorem goes_push (world : World) (call : EndpointCall) (signal : Signal) (times : Nat) :
    world.Goes (world.push call signal times).1 := by
  unfold push
  split
  · exact goes_change (.foldl (fun client sent => .of_subject client (.deliver call sent) rfl) _ _)
  · exact .refl world

private theorem led_act (bound : Nat) (led : Led start world) (action : Action) :
    Led start (world.act bound action).1 := by
  cases action with
  | build schema feed candidates decode cancels =>
    simp only [act]
    cases schema.subscriptionRequest feed with
    | error failure => exact led
    | ok request => exact led.open (.build _ candidates.source) _ List.length_append
  | subscribe schema feed decode =>
    cases built : schema.subscriptionRequest feed with
    | error failure =>
      simp only [act, Client.subscribe_of_error built]
      exact led
    | ok request =>
      have opened := led.open (.subscribe schema feed decode) {}
      simp only [Client.apply, Client.subscribe_of_ok built, Client.register_operations] at opened
      simp only [act, Client.subscribe_of_ok built]
      exact opened List.length_append
  | start id =>
    simp only [act]
    split
    · exact led.goes (goes_change (.of_subject _ (.start id) rfl))
    · exact led
  | cancel id =>
    simp only [act]
    split
    · exact led.goes (goes_change (.of_subject _ (.cancel id) rfl))
    · exact led
  | dropHandle id | dropEvents id => exact led.goes ⟨.refl _, List.length_modify _ _ _⟩
  | push signal number times =>
    simp only [act]
    split
    · exact led.goes (goes_push world _ signal times)
    · exact led
  | close number =>
    simp only [act]
    split
    · exact led.goes (goes_change (.of_subject _ (.hangUp _) rfl))
    · exact led
  | advance milliseconds =>
    have settled := led.goes (goes_settle bound world)
    exact settled.goes ⟨.refl _, rfl⟩
  | shutdown =>
    exact (led.move .shutdown (world.client.foldl_cancel_length world.client.registry)).goes
      ⟨.refl _, rfl⟩
  | prune => exact (led.move .prune rfl).goes ⟨.refl _, rfl⟩
  | register id =>
    simp only [act]
    split
    case isTrue holds =>
      have exist := led.isSome_of_holdsHandle holds
      have registered := led.move (.register id)
      simp only [Client.apply, exist, if_true, Client.register_operations] at registered
      exact registered trivial
    case isFalse => exact led
  | unregister id => exact led.move (.unregister id) rfl
  | settle | registryState | unknownRegistryState | candidatesFor => exact led

private theorem Led.reported (led : Led start world) : Led start world.reported :=
  ⟨led.moves, by simp [World.reported, led.subs]⟩

/-- No more subscriptions are tracked than there are. -/
theorem Led.registry_length_le (led : Led start world) (orderly : Orderly start) :
    world.client.registry.length ≤ world.client.operations.length := by
  obtain ⟨moves, reached⟩ := led.moves
  have reachable : Orderly world.client := reached ▸ Client.orderly_run orderly moves
  have within : world.client.registry ⊆ List.range world.client.operations.length := by
    intro id tracked
    have known := reachable.known id tracked
    simpa [Client.operation?] using known
  have counted := (reachable.once.subperm within).length_le
  rwa [List.length_range] at counted

end World

namespace Setup

variable {world : World} {start : Client Json}

private theorem led_of_mem_reportsFrom (bound : Nat) (reader : Reader) (led : World.Led start world)
    {steps : List Step} {report : Report} (told : report ∈ reportsFrom bound reader world steps) :
    ∃ later outcome, World.Led start later ∧ report = later.report reader outcome := by
  induction steps generalizing world with
  | nil => cases told
  | cons step rest ih =>
    have settled := (World.led_act bound led step.action).goes
      (.ite (World.goes_settle bound _) (.refl _) : World.Goes _ (if step.settles then _ else _))
    rcases List.mem_cons.1 told with now | later
    · exact ⟨_, _, settled, now⟩
    · exact ih settled.reported later

/-- Each report of a scenario is of a world whose client was led there by moves, and tells of no
more tracked subscriptions than there are. -/
theorem led_of_mem_reports (setup : Setup) {report : Report} (told : report ∈ setup.reports) :
    report.tracked ≤ report.subs.length ∧
      ∃ (world : World) (outcome : Outcome) (moves : List (ClientMove Json)),
        report = world.report setup.reader outcome ∧
          world.client = setup.world.client.run moves := by
  have started : World.Led setup.world.client setup.world := ⟨⟨[], rfl⟩, rfl⟩
  have orderly : Orderly setup.world.client := Client.orderly_fresh _ _ _
  obtain ⟨world, outcome, led, rfl⟩ := led_of_mem_reportsFrom _ _ started told
  refine ⟨?_, world, outcome, led.moves.imp fun _ reached => ⟨rfl, reached⟩⟩
  have count :
      (world.report setup.reader outcome).subs.length = world.client.operations.length := by
    simp [World.report, led.subs]
  rw [count]
  exact led.registry_length_le orderly

end Setup

end Scenario

end ModelSync
