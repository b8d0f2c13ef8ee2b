import Mathlib.Data.List.TakeWhile
import ModelSync.Proofs.Subscription.Events
import ModelSync.Proofs.Subscription.Reads

/-! What is to be told of the arrivals on a stream, without regard to when they are read: the
responses up to the first arrival that puts an end to the subscription, and then the end. -/
namespace ModelSync

variable {α : Type}

namespace Plan

/-- The response that an arrival brings, with or without errors in it. -/
def response? (plan : Plan α) : Arrival → Option (Response α)
  | .signal (.next item) => (plan.decode item).toOption
  | _ => none

/-- The last event of an active subscription and the phase after it, where an arrival puts an end to
the subscription. -/
def closing? (plan : Plan α) (id : String) : Arrival → Option (Event α × Phase)
  | .signal (.next item) =>
    match plan.decode item with
    | .ok _ => none
    | .error error => some (.error (.decode error), .failed (some id))
  | .signal (.error error) => some (.error (.endpoint error), .failed (some id))
  | .signal .completed => some (.completed, .completed id)
  | .ended => some (.error (.endpoint .closed), .failed (some id))
  | .signal (.started _) | .nothing => none

/-- The responses that arrive before the end of the subscription. -/
def responses (plan : Plan α) (id : String) (arrivals : List Arrival) : List (Response α) :=
  (arrivals.takeWhile fun arrival => (plan.closing? id arrival).isNone).filterMap plan.response?

/-- What an acknowledged subscription tells of these arrivals, and the phase that they lead to. -/
def outcome (plan : Plan α) (id : String) (arrivals : List Arrival) : List (Event α) × Phase :=
  let told := opening id (plan.responses id arrivals)
  match arrivals.findSome? (plan.closing? id) with
  | none => (told, .active id)
  | some (event, phase) => (told ++ [event], phase)

/-- What was told by an active subscription, and what it tells of one more arrival. -/
def proceed (plan : Plan α) (id : String) (told : List (Event α)) (arrival : Arrival) :
    List (Event α) × Phase :=
  match plan.closing? id arrival with
  | none => (told ++ (plan.response? arrival).toList.map .next, .active id)
  | some (event, phase) => (told ++ [event], phase)

variable {plan : Plan α} {id : String} {heard : List Arrival}

private theorem phase_of_closing {arrival : Arrival} {event : Event α} {phase : Phase}
    (closes : plan.closing? id arrival = some (event, phase)) :
    phase.state.isTerminal = true ∧ phase.isCanceled = false ∧ phase.subscriptionId? = some id := by
  unfold closing? at closes
  split at closes
  · split at closes
    · cases closes
    · cases closes
      exact ⟨rfl, rfl, rfl⟩
  all_goals cases closes
  all_goals exact ⟨rfl, rfl, rfl⟩

private theorem closing_eq_none_iff : heard.findSome? (plan.closing? id) = none ↔
    ∀ arrival ∈ heard, (plan.closing? id arrival).isNone = true := by
  simp

/-- As long as nothing puts an end to the subscription, all responses are told. -/
theorem outcome_of_open (unclosed : heard.findSome? (plan.closing? id) = none) :
    plan.outcome id heard = (opening id (heard.filterMap plan.response?), .active id) := by
  have all := List.takeWhile_eq_self_iff.2 (closing_eq_none_iff.1 unclosed)
  simp only [outcome, responses, unclosed, all]

private theorem outcome_active_iff :
    (plan.outcome id heard).2 = .active id ↔ heard.findSome? (plan.closing? id) = none := by
  constructor
  · intro active
    cases closes : heard.findSome? (plan.closing? id) with
    | none => rfl
    | some closing =>
      obtain ⟨arrival, _, last⟩ := List.exists_of_findSome?_eq_some closes
      have ended := (phase_of_closing last).1
      simp only [outcome, closes] at active
      simp [active, Phase.state, SubscriptionState.isTerminal] at ended
  · intro unclosed
    rw [outcome_of_open unclosed]

/-- What one more arrival adds. -/
theorem outcome_concat (active : (plan.outcome id heard).2 = .active id) (arrival : Arrival) :
    plan.outcome id (heard ++ [arrival]) = plan.proceed id (plan.outcome id heard).1 arrival := by
  have unclosed := outcome_active_iff.1 active
  have all := closing_eq_none_iff.1 unclosed
  rw [outcome_of_open unclosed, proceed]
  cases closes : plan.closing? id arrival with
  | none =>
    rw [outcome_of_open (by simp [List.findSome?_append, unclosed, closes])]
    cases brought : plan.response? arrival <;> simp [opening, brought]
  | some closing =>
    simp [outcome, responses, List.findSome?_append, unclosed, closes,
      List.takeWhile_append_of_pos all]

/-- What arrives after the end makes no difference. -/
theorem outcome_append_of_closed (closed : (plan.outcome id heard).2 ≠ .active id)
    (later : List Arrival) : plan.outcome id (heard ++ later) = plan.outcome id heard := by
  have ended := mt outcome_active_iff.2 closed
  obtain ⟨closing, closes⟩ := Option.ne_none_iff_exists'.1 ended
  have short : (heard.takeWhile fun arrival => (plan.closing? id arrival).isNone).length ≠
      heard.length := by
    intro same
    have whole := (List.takeWhile_prefix _).eq_of_length same
    exact ended (closing_eq_none_iff.2 (List.takeWhile_eq_self_iff.1 whole))
  simp [outcome, responses, List.findSome?_append, closes, List.takeWhile_append, short]

private theorem closing_of_acknowledgment (plan : Plan α) (id : String) {arrival : Arrival}
    (repeated : ¬ arrival.acknowledgedId?.isNone = true) :
    plan.closing? id arrival = none ∧ plan.response? arrival = none := by
  cases arrival with
  | signal signal =>
    cases signal with
    | started other => exact ⟨rfl, rfl⟩
    | _ => exact absurd rfl repeated
  | _ => exact absurd rfl repeated

/-- Repeated acknowledgments are ignored. -/
theorem outcome_filter (plan : Plan α) (id : String) (arrivals : List Arrival) :
    plan.outcome id (arrivals.filter fun arrival => arrival.acknowledgedId?.isNone) =
      plan.outcome id arrivals := by
  have same : (arrivals.filter fun arrival => arrival.acknowledgedId?.isNone).findSome?
        (plan.closing? id) = arrivals.findSome? (plan.closing? id) ∧
      plan.responses id (arrivals.filter fun arrival => arrival.acknowledgedId?.isNone) =
        plan.responses id arrivals := by
    unfold responses
    induction arrivals with
    | nil => exact ⟨rfl, rfl⟩
    | cons arrival rest ih =>
      by_cases proper : arrival.acknowledgedId?.isNone = true
      · cases closes : plan.closing? id arrival with
        | none => simp [proper, closes, ih, List.filterMap_cons]
        | some closing => simp [proper, closes]
      · simp [proper, plan.closing_of_acknowledgment id proper, ih]
  simp only [outcome, same]

/-- What was told in a phase of a subscription that has heard these arrivals since its
acknowledgment. A cancellation puts an end to it too, after which only a release that failed is
told. -/
inductive Tells (plan : Plan α) (id : String) (heard : List Arrival) :
    Phase → Option String → List (Event α) → Prop where
  | following {phase : Phase} {canceling : Option String} {told : List (Event α)}
      (outcome : plan.outcome id heard = (told, phase)) : Tells plan id heard phase canceling told
  | canceled {canceling : Option String} {told : List (Event α)}
      (outcome : plan.outcome id heard = (told, .active id)) :
      Tells plan id heard (.canceled (some id)) canceling told
  | unreleased {told : List (Event α)} (error : EndpointError)
      (outcome : plan.outcome id heard = (told, .active id)) :
      Tells plan id heard (.canceled (some id)) none (told ++ [.error (.endpoint error)])

private theorem phase_of_outcome (plan : Plan α) (id : String) (heard : List Arrival) :
    (plan.outcome id heard).2.isCanceled = false ∧
      (plan.outcome id heard).2.subscriptionId? = some id := by
  cases closes : heard.findSome? (plan.closing? id) with
  | none =>
    rw [outcome_of_open closes]
    exact ⟨rfl, rfl⟩
  | some closing =>
    obtain ⟨arrival, _, last⟩ := List.exists_of_findSome?_eq_some closes
    simpa only [outcome, closes] using (phase_of_closing last).2

namespace Tells

variable {phase : Phase} {canceling : Option String} {told : List (Event α)}

theorem subscriptionId? (tells : plan.Tells id heard phase canceling told) :
    phase.subscriptionId? = some id := by
  cases tells with
  | following outcome => simpa [outcome] using (plan.phase_of_outcome id heard).2
  | _ => rfl

theorem outcome (tells : plan.Tells id heard phase canceling told)
    (uncanceled : phase.isCanceled = false) : plan.outcome id heard = (told, phase) := by
  cases tells with
  | following outcome => exact outcome
  | _ => cases uncanceled

/-- The answer to the release after a cancellation is told if it is an error. -/
theorem finishCancel {released : String}
    (tells : plan.Tells id heard (.canceled (some id)) (some released) told)
    (answer : Except EndpointError Unit) :
    plan.Tells id heard (.canceled (some id)) none (told ++ releaseReport answer) := by
  cases tells with
  | following outcome =>
    have uncanceled := (plan.phase_of_outcome id heard).1
    rw [outcome] at uncanceled
    cases uncanceled
  | canceled outcome =>
    cases answer with
    | ok _ =>
      rw [releaseReport, List.append_nil]
      exact .canceled outcome
    | error error => exact .unreleased error outcome

end Tells

end Plan

end ModelSync
