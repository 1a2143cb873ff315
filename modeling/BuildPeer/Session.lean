import BuildPeer.Dispatch
import BuildPeer.Frame

/-!
A session: messages are read, judged and answered one after another, until the input is over, the
other side stops reading, the exit arrives, or something fails. `turn` is one round of that and
`serve` all of them; every round shortens the input. A run keeps its turns, so that what was said in
the journal can be told from it.
-/

namespace BuildPeer

structure Server where
  strict : Bool := false
  identity : Identity := {}
  limits : Limits := {}
  deriving DecidableEq, Repr

inductive Ending where
  | endOfInput
  | peerClosed
  /-- The exit arrived; whether after a shutdown. -/
  | exit (clean : Bool)
  | failed (failure : Failure)
  /-- The input falls silent for ever, and no timeout ends the wait. -/
  | waits
  deriving DecidableEq, Repr

namespace Session

structure State where
  lifecycle : Lifecycle
  reader : Frame.Reader
  sink : Sink
  deriving Repr

def State.source (state : State) : Source :=
  state.reader.source

def start (server : Server) (source : Source) (sink : Sink) : State :=
  ⟨.start server.strict, .start server.limits source, sink⟩

structure Turn where
  /-- The length of its body. -/
  size : Nat
  message : Envelope
  before : Lifecycle
  outcome : Outcome
  after : Lifecycle
  sent : Option (Except IoError Frame.WriteStatus)

/-- The last part of a session, when no further message is answered. -/
structure Close where
  /-- The turn that ended the session, if one did. -/
  turn : Option Turn
  /-- The length of a last body that was read but is no message. -/
  refused : Option Nat
  ending : Ending
  state : State

inductive Progress where
  | goesOn (turn : Turn) (state : State)
  | stops (close : Close)

def haltEnding : Halt → Ending
  | .failed failure => .failed failure
  | .waits => .waits

def answer (server : Server) (state : State) (size : Nat) (message : Envelope) : Progress :=
  let (outcome, after) := dispatch server.identity state.lifecycle message
  let turn : Turn :=
    { size, message, before := state.lifecycle, outcome, after, sent := none }
  let state := { state with lifecycle := after }
  match outcome with
  | .noReply => .goesOn turn state
  | .exit => .stops ⟨some turn, none, .exit after.exitedCleanly, state⟩
  | .reply response =>
      let (sent, sink) := Frame.write state.sink response
      let turn := { turn with sent := some sent }
      let state := { state with sink }
      match sent with
      | .ok (.written _) => .goesOn turn state
      | .ok .peerClosed => .stops ⟨some turn, none, .peerClosed, state⟩
      | .error error => .stops ⟨some turn, none, .failed (.io error), state⟩

def turn (server : Server) (state : State) : Progress :=
  match state.reader.read with
  | (.error halt, reader) => .stops ⟨none, none, haltEnding halt, { state with reader }⟩
  | (.ok none, reader) => .stops ⟨none, none, .endOfInput, { state with reader }⟩
  | (.ok (some body), reader) =>
      match Frame.decode body with
      | .error violation =>
          .stops ⟨none, some body.length, .failed (.violation violation), { state with reader }⟩
      | .ok message => answer server { state with reader } body.length message

theorem answer_reader {server : Server} {state next : State} {size : Nat} {message : Envelope}
    {t : Turn} (goes : answer server state size message = .goesOn t next) :
    next.reader = state.reader := by
  unfold answer at goes
  dsimp only at goes
  split at goes
  · simp only [Progress.goesOn.injEq] at goes
    simp [← goes.2]
  · simp at goes
  · split at goes
    · simp only [Progress.goesOn.injEq] at goes
      simp [← goes.2]
    · simp at goes
    · simp at goes

theorem turn_source {server : Server} {state next : State} {t : Turn}
    (goes : turn server state = .goesOn t next) : next.source.size < state.source.size := by
  unfold turn at goes
  split at goes
  · simp at goes
  · simp at goes
  · rename_i body reader frame
    split at goes
    · simp at goes
    · rw [State.source, answer_reader goes]
      exact Frame.Reader.read_size frame

/-- A whole session: its turns but the one that ended it, and how it ended. -/
structure Run where
  turns : List Turn
  close : Close

def serveFrom (server : Server) (state : State) : Run :=
  match _step : turn server state with
  | .stops close => ⟨[], close⟩
  | .goesOn t next =>
      let run := serveFrom server next
      { run with turns := t :: run.turns }
termination_by state.source.size
decreasing_by exact turn_source _step

theorem serveFrom_stops {server : Server} {state : State} {close : Close}
    (step : turn server state = .stops close) : serveFrom server state = ⟨[], close⟩ := by
  rw [serveFrom]
  split
  · rename_i other stepOther
    rw [step, Progress.stops.injEq] at stepOther
    rw [stepOther]
  · rename_i stepOther
    rw [step] at stepOther
    cases stepOther

theorem serveFrom_goesOn {server : Server} {state next : State} {t : Turn}
    (step : turn server state = .goesOn t next) :
    serveFrom server state =
      ⟨t :: (serveFrom server next).turns, (serveFrom server next).close⟩ := by
  rw [serveFrom]
  split
  · rename_i stepOther
    rw [step] at stepOther
    cases stepOther
  · rename_i stepOther
    rw [step, Progress.goesOn.injEq] at stepOther
    rw [stepOther.1, stepOther.2]

def serve (server : Server) (source : Source) (sink : Sink) : Run :=
  serveFrom server (start server source sink)

def Run.ending (run : Run) : Ending :=
  run.close.ending

def Run.output (run : Run) : Bytes :=
  run.close.state.sink.taken

def Run.consumed (run : Run) (source : Source) : Nat :=
  source.size - run.close.state.source.size

end Session

def Ending.status (strict : Bool) : Ending → UInt32
  | .failed _ => 2
  | .exit clean => if strict && !clean then 1 else 0
  | _ => 0

end BuildPeer
