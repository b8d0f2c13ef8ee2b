import ModelSync.Subscription.Error

/-! The stream of one attempt: signals the endpoint sends and the loop has yet to read.
Each end can be given up on its own. -/
namespace ModelSync

/-- A signal of the endpoint about one attempt. -/
inductive Signal where
  /-- The subscription is acknowledged under an id. -/
  | started (id : String)
  /-- An item in its raw form. -/
  | next (item : Json)
  | error (error : EndpointError)
  | completed

/-- A stream with its unread signals, oldest first. -/
structure SignalStream where
  unread : List Signal := []
  /-- The endpoint holds its end. -/
  sending : Bool := true
  /-- The loop holds its end. -/
  listening : Bool := true

/-- What the loop finds on a stream. -/
inductive Arrival where
  | signal (signal : Signal)
  | ended
  | nothing

namespace SignalStream

/-- A signal sent now would be taken. -/
def accepts (stream : SignalStream) : Bool := stream.sending && stream.listening

/-- Send a signal. Without a listener, or without the sending end, it is lost. -/
def deliver (stream : SignalStream) (signal : Signal) : SignalStream :=
  if stream.accepts then { stream with unread := stream.unread ++ [signal] } else stream

/-- The endpoint gives up its end. What was sent before is still read. -/
def hangUp (stream : SignalStream) : SignalStream := { stream with sending := false }

/-- The loop gives up its end; what was not read is lost. -/
def drop (stream : SignalStream) : SignalStream :=
  { stream with unread := [], listening := false }

/-- The oldest unread signal, or the end after the last one. -/
def arrival (stream : SignalStream) : Arrival :=
  match stream.unread with
  | signal :: _ => .signal signal
  | [] => if stream.sending then .nothing else .ended

/-- The stream after reading its oldest signal. -/
def afterRead (stream : SignalStream) : SignalStream := { stream with unread := stream.unread.tail }

/-- Reading would not have to wait. -/
def hasArrival (stream : SignalStream) : Bool := !stream.unread.isEmpty || !stream.sending

end SignalStream

end ModelSync
