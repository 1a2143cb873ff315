import BuildPeer.Program

/-!
A session whose input is still arriving. What has arrived so far is followed by a marker, a fault
of its own kind; a turn that ends in the marker needs more input and is taken again from the same
state, and any other turn is what it would be with all of the input there. The output of a turn is
delivered before the session goes on; if it cannot be, the turn is taken again with a sink that says
so.
-/

namespace BuildPeer.Live

def awaiting : IoError :=
  ⟨.other "Awaiting", "more input is needed"⟩

inductive Advance where
  /-- At least so many more bytes. -/
  | needs (bytes : Nat)
  | moves (progress : Session.Progress)

def endsLine (line : Bytes) : Bool :=
  line.getLast? = some Frame.lineBreak

/-- A number of bytes that a frame surely lacks, by where its reader was stopped: in a line, or in
the body behind a whole separator line. -/
def lacking (stopped : Frame.Reader) : Nat :=
  if endsLine stopped.line then stopped.body.size - stopped.body.filled.length else 1

def withInput (change : Source → Source) (state : Session.State) : Session.State :=
  { state with reader := { state.reader with source := change state.reader.source } }

def mapState (change : Session.State → Session.State) : Session.Progress → Session.Progress
  | .goesOn turn next => .goesOn turn (change next)
  | .stops close => .stops { close with state := change close.state }

def unmarked : Session.Progress → Advance
  | .goesOn turn next => .moves (.goesOn turn (withInput List.dropLast next))
  | .stops close =>
      if close.ending = .failed (.io awaiting) then .needs (lacking close.state.reader)
      else .moves (.stops { close with state := withInput List.dropLast close.state })

/-- One turn on what has arrived; `closed` says that nothing more will come. -/
def advance (server : Server) (state : Session.State) (closed : Bool) : Advance :=
  if closed then .moves (Session.turn server state)
  else unmarked (Session.turn server (withInput (· ++ [.fault awaiting]) state))

/-- The output of a turn that was taken with an empty sink. -/
def output : Session.Progress → Bytes
  | .goesOn _ next => next.sink.taken
  | .stops close => close.state.sink.taken

/-- The state with a sink that fails, for a turn whose output could not be delivered. -/
def withBrokenSink (state : Session.State) (error : IoError) : Session.State :=
  { state with sink := { limit := some 0, fault := some error } }

/-- How a session goes on once the output of a turn was delivered, or why it was not. -/
def settle (server : Server) (state : Session.State) (progress : Session.Progress) :
    Option IoError → Session.Progress
  | some error => Session.turn server (withBrokenSink state error)
  | none => mapState (fun next => { next with sink := {} }) progress

end BuildPeer.Live
