import ModelSync.Subscription.Operation

/-! Everything that can happen to a subscription, in any order. A move is one call, one
signal or one step of the loop, and a run is a list of moves. Next to the state that a run
leads to stands what its loop took from the streams on the way. -/
namespace ModelSync

variable {α : Type}

/-- Something that happens to a subscription. A cancellation is two moves, since others may
come between it and the release it leads to. -/
inductive Move where
  | start
  | beginCancel
  | finishCancel (answer : Except EndpointError Unit)
  | deliver (attempt : Nat) (signal : Signal)
  | hangUp (attempt : Nat)
  | step (now : Nat)
  | expire (now : Nat)

/-- The move is one of the loop. -/
def Move.isLoop : Move → Bool
  | .step _ | .expire _ => true
  | _ => false

/-- The move is a step of the loop. -/
def Move.isStep : Move → Bool
  | .step _ => true
  | _ => false

/-- What the endpoint makes of an attempt. -/
inductive Answer where
  | acknowledged (id : String)
  | rejected (error : EndpointError)
deriving DecidableEq

/-- An arrival as the answer to an attempt. Items are no answer. -/
def Arrival.answer? : Arrival → Option Answer
  | .signal (.started id) => some (.acknowledged id)
  | .signal (.error error) => some (.rejected error)
  | .signal .completed | .ended => some (.rejected .closed)
  | .signal (.next _) | .nothing => none

/-- What the loop took from a stream, and the phase it was taken in. -/
structure Read where
  stream : Nat
  arrival : Arrival
  phase : Phase

namespace Stage

/-- The stream that the loop holds. -/
def stream? : Stage → Option Nat
  | .awaiting _ _ stream | .accepting _ stream | .forwarding stream | .releasing _ stream
  | .draining _ stream => some stream
  | _ => none

/-- The stream on which the loop waits for an answer. -/
def pending? : Stage → Option Nat
  | .awaiting _ _ stream | .draining _ stream => some stream
  | _ => none

/-- The loop is looking for a candidate that is acknowledged. -/
def isSearching : Stage → Bool
  | .checking _ | .taking _ | .lookingAhead _ _ | .decorating _ _ _ | .calling _ _ _
  | .awaiting _ _ _ => true
  | _ => false

end Stage

namespace Operation

/-- The state after a move. -/
def apply (operation : Operation α) : Move → Operation α
  | .start => operation.start
  | .beginCancel => operation.beginCancel
  | .finishCancel answer => operation.finishCancel answer
  | .deliver attempt signal => operation.deliver attempt signal
  | .hangUp attempt => operation.hangUp attempt
  | .step now => operation.step now
  | .expire now => operation.expire now

/-- The state after several moves. -/
def run (operation : Operation α) (moves : List Move) : Operation α := moves.foldl apply operation

/-- What the next step of the loop takes from a stream. -/
def reading? (operation : Operation α) : Option Read :=
  if operation.takesArrival then
    operation.stage.stream?.map fun stream =>
      ⟨stream, operation.arrival stream, operation.phase⟩
  else none

/-- What a move takes from a stream. -/
def readBy (operation : Operation α) : Move → Option Read
  | .step _ => operation.reading?
  | _ => none

/-- What a run takes from the streams, in order. -/
def reads (operation : Operation α) : List Move → List Read
  | [] => []
  | move :: rest => (operation.readBy move).toList ++ (operation.apply move).reads rest

theorem run_concat (operation : Operation α) (moves : List Move) (move : Move) :
    operation.run (moves ++ [move]) = (operation.run moves).apply move := by
  simp [run]

theorem run_append (operation : Operation α) (before after : List Move) :
    operation.run (before ++ after) = (operation.run before).run after := by
  simp [run]

theorem reads_append (operation : Operation α) (before after : List Move) :
    operation.reads (before ++ after) =
      operation.reads before ++ (operation.run before).reads after := by
  induction before generalizing operation with
  | nil => rfl
  | cons move rest ih => simp [reads, ih, run]

theorem reads_concat (operation : Operation α) (moves : List Move) (move : Move) :
    operation.reads (moves ++ [move]) =
      operation.reads moves ++ ((operation.run moves).readBy move).toList := by
  simp [reads_append, reads]

/-- A plan whose items are all decoded alike, for looking at single runs. -/
def samplePlan : Plan Unit :=
  ⟨.make .subscription "OnCreatePost" "onCreatePost" "Post" [.leaf "id"], .unchanged,
    fun _ => .ok {}⟩

/-- The moves from the start of a subscription with one candidate to its acknowledgment. -/
def acknowledgment (id : String) : List Move :=
  [.start, .step 0, .step 0, .step 0, .step 0, .step 0, .deliver 0 (.started id), .step 0, .step 0]

end Operation

end ModelSync
