import BuildPeer.Proofs.Frames
import BuildPeer.Proofs.Json.Sequence
import BuildPeer.Proofs.Writing
import BuildPeer.Session

/-!
Rounds of a session, so many of them as one likes. A run that starts with some rounds goes on as a
run from where they lead; and whatever a session still does, the bytes its sink has stay in front.
-/

namespace BuildPeer.Session

inductive Steps (server : Server) : State → List Turn → State → Prop where
  | here (state : State) : Steps server state [] state
  | turn {state next last : State} {t : Turn} {turns : List Turn}
      (step : turn server state = .goesOn t next) (more : Steps server next turns last) :
      Steps server state (t :: turns) last

theorem Steps.serveFrom {server : Server} {state last : State} {turns : List Turn}
    (steps : Steps server state turns last) :
    serveFrom server state =
      ⟨turns ++ (serveFrom server last).turns, (serveFrom server last).close⟩ := by
  induction steps with
  | here state => rfl
  | turn step more ih => rw [serveFrom_goesOn step, ih]; rfl

def Progress.state : Progress → State
  | .goesOn _ state => state
  | .stops close => close.state

theorem answer_keeps (server : Server) (state : State) (size : Nat) (message : Envelope) :
    state.sink.taken <+: (answer server state size message).state.sink.taken := by
  unfold answer
  generalize dispatch server.identity state.lifecycle message = dispatched
  obtain ⟨outcome, after⟩ := dispatched
  cases outcome with
  | noReply => exact List.prefix_refl _
  | exit => exact List.prefix_refl _
  | reply response =>
      have kept := Frame.write_keeps state.sink response
      dsimp only
      generalize Frame.write state.sink response = written at kept
      obtain ⟨sent, sink⟩ := written
      match sent with
      | .ok (.written _) => exact kept
      | .ok .peerClosed => exact kept
      | .error error => exact kept

theorem answer_keeps_reader (server : Server) (state : State) (size : Nat) (message : Envelope) :
    (answer server state size message).state.reader = state.reader := by
  unfold answer
  generalize dispatch server.identity state.lifecycle message = dispatched
  obtain ⟨outcome, after⟩ := dispatched
  cases outcome with
  | noReply => rfl
  | exit => rfl
  | reply response =>
      dsimp only
      generalize Frame.write state.sink response = written
      obtain ⟨sent, sink⟩ := written
      match sent with
      | .ok (.written _) => rfl
      | .ok .peerClosed => rfl
      | .error error => rfl

def State.mapReader (f : Frame.Reader → Frame.Reader) (state : State) : State :=
  { state with reader := f state.reader }

def Progress.mapReader (f : Frame.Reader → Frame.Reader) : Progress → Progress
  | .goesOn t state => .goesOn t (state.mapReader f)
  | .stops close => .stops { close with state := close.state.mapReader f }

theorem answer_mapReader (f : Frame.Reader → Frame.Reader) (server : Server) (state : State)
    (size : Nat) (message : Envelope) :
    answer server (state.mapReader f) size message =
      (answer server state size message).mapReader f := by
  unfold answer
  simp only [State.mapReader]
  generalize dispatch server.identity state.lifecycle message = dispatched
  obtain ⟨outcome, after⟩ := dispatched
  cases outcome with
  | noReply => rfl
  | exit => rfl
  | reply response =>
      dsimp only
      generalize Frame.write state.sink response = written
      obtain ⟨sent, sink⟩ := written
      match sent with
      | .ok (.written _) => rfl
      | .ok .peerClosed => rfl
      | .error error => rfl

theorem turn_keeps (server : Server) (state : State) :
    state.sink.taken <+: (turn server state).state.sink.taken := by
  unfold turn
  split
  · exact List.prefix_refl _
  · exact List.prefix_refl _
  · rename_i body reader read
    split
    · exact List.prefix_refl _
    · exact answer_keeps server { state with reader } body.length _

theorem serveFrom_keeps (server : Server) (state : State) :
    state.sink.taken <+: (serveFrom server state).output := by
  induction state using serveFrom.induct server with
  | case1 state close step =>
      have kept := turn_keeps server state
      rw [step] at kept
      rw [serveFrom_stops step]
      exact kept
  | case2 state t next step ih =>
      have kept := turn_keeps server state
      rw [step] at kept
      rw [serveFrom_goesOn step]
      exact kept.trans ih

-- Rounds over whole frames.

structure Accepted where
  text : List Char
  message : Envelope
  decoded : Envelope.decode text = .ok message

namespace Accepted

def body (accepted : Accepted) : Bytes :=
  Text.Utf8.encode accepted.text

def frame (accepted : Accepted) : Bytes :=
  Frame.wrap accepted.body

def isExit (accepted : Accepted) : Bool :=
  accepted.message.method == "build/exit"

theorem decode_body (accepted : Accepted) : Frame.decode accepted.body = .ok accepted.message := by
  simp [Frame.decode, body, accepted.decoded]

/-- A body that a server takes: its length is a 64-bit word and within the limit. -/
structure Fits (accepted : Accepted) (limits : Limits) : Prop where
  word : accepted.body.length < Text.wordLimit
  limit : accepted.body.length ≤ limits.maxFrameSize

theorem carries {accepted : Accepted} {limits : Limits} (fits : accepted.Fits limits) :
    Frame.Carries limits.maxFrameSize accepted.frame accepted.message :=
  Frame.carries_wrap fits.word fits.limit accepted.decode_body

/-- A text that is read as a message, as a body that a server takes unless another limit is given. -/
theorem exists_of_decode (text : List Char) (message : Envelope)
    (decoded : (Envelope.decode text).toOption = some message)
    (fits : (Text.Utf8.encode text).length ≤ Limits.defaultFrameSize) :
    ∃ accepted : Accepted, accepted.text = text ∧ accepted.message = message ∧
      accepted.Fits {} :=
  ⟨⟨text, message, Json.Reader.eq_ok_of_toOption decoded⟩, rfl, rfl,
    Nat.lt_of_le_of_lt fits (by decide), fits⟩

theorem carries_all {bodies : List Accepted} {limits : Limits}
    (fits : ∀ accepted ∈ bodies, accepted.Fits limits) :
    List.Forall₂ (Frame.Carries limits.maxFrameSize) (bodies.map frame) (bodies.map message) := by
  rw [List.forall₂_map_left_iff, List.forall₂_map_right_iff, List.forall₂_same]
  exact fun accepted member => carries (fits accepted member)

end Accepted

variable {server : Server} {state : State} {rest : List Signal}

theorem turn_carries {frame : Bytes} {message : Envelope}
    (carries : Frame.Carries server.limits.maxFrameSize frame message)
    (before : Frame.Reader.Before server.limits (Signal.ofBytes frame ++ rest) state.reader) :
    ∃ reader size, turn server state = answer server { state with reader } size message ∧
      Frame.Reader.Before server.limits rest reader := by
  obtain ⟨body, reader, read, decoded, before⟩ := before.carries carries
  refine ⟨reader, body.length, ?_, before⟩
  simp only [turn, read, decoded]

end BuildPeer.Session
