import BuildPeer.Session

/-!
The journal of a run. An entry has a level, a message and fields; what a run says follows from its
turns and its end. Texts stand in fields quoted, or plain where the field shows them as they are.
-/

namespace BuildPeer.Journal

inductive Level where
  | error
  | warn
  | info
  | debug
  | trace
  deriving DecidableEq, Repr

def Level.rank : Level → Nat
  | .error => 1
  | .warn => 2
  | .info => 3
  | .debug => 4
  | .trace => 5

def Level.text : Level → String
  | .error => "ERROR"
  | .warn => "WARN"
  | .info => "INFO"
  | .debug => "DEBUG"
  | .trace => "TRACE"

inductive Topic where
  | program
  | session
  | frames
  | dispatch
  deriving DecidableEq, Repr

structure Entry where
  level : Level
  topic : Topic
  message : String
  fields : List (String × String) := []
  deriving DecidableEq, Repr

def Entry.text (e : Entry) : String :=
  e.level.text ++ " " ++ e.message ++
    String.join (e.fields.map fun (name, value) => " " ++ name ++ "=" ++ value)

def flagText (b : Bool) : String :=
  if b then "true" else "false"

mutual
def describe : Json → String
  | .null => "Null"
  | .bool b => "Bool(" ++ flagText b ++ ")"
  | .number n => "Number(" ++ String.ofList n.chars ++ ")"
  | .string s => "String(" ++ Text.quoted s ++ ")"
  | .array xs => "Array [" ++ describeElements true xs ++ "]"
  | .object ms => "Object \x7b" ++ describeMembers true ms ++ "\x7d"
def describeElements (first : Bool) : List Json → String
  | [] => ""
  | x :: xs => (if first then "" else ", ") ++ describe x ++ describeElements false xs
def describeMembers (first : Bool) : List (String × Json) → String
  | [] => ""
  | (k, v) :: ms =>
      (if first then "" else ", ") ++ Text.quoted k ++ ": " ++ describe v ++
        describeMembers false ms
end

def describeId : Option Json → String
  | none => "None"
  | some id => "Some(" ++ describe id ++ ")"

-- What a turn says.

def frameRead (size : Nat) : Entry :=
  ⟨.trace, .frames, "Read frame", [("bytes", toString size)]⟩

def received (message : Envelope) : Entry :=
  ⟨.debug, .session, "Received message",
    [("method", Text.quoted message.method), ("id", describeId message.id?),
      ("has_params", flagText message.params.isSome)]⟩

def unknown (message : Envelope) : Entry :=
  match message.id? with
  | some id =>
      ⟨.debug, .dispatch, "Unhandled request", [("method", message.method), ("id", id.render)]⟩
  | none => ⟨.debug, .dispatch, "Ignoring notification", [("method", message.method)]⟩

def rejected (message : Envelope) (phase : Phase) (rejection : Rejection) : Entry :=
  ⟨.warn, .dispatch, "Rejected out-of-order message",
    [("method", Text.quoted message.method), ("phase", phase.text),
      ("reason", Text.quoted rejection.message)]⟩

def phaseChanged (message : Envelope) (before after : Phase) : List Entry :=
  if before = after then []
  else
    [⟨.debug, .dispatch, "Phase changed",
      [("method", Text.quoted message.method), ("from", before.text), ("to", after.text)]⟩]

def handling (message : Envelope) : Outcome → List Entry
  | .reply response =>
      [⟨.debug, .dispatch, "Handling request",
        [("method", message.method), ("id", response.id.render)]⟩]
  | _ => []

def dispatched (t : Session.Turn) : List Entry :=
  match judge t.before t.message.method with
  | .unknown => [unknown t.message]
  | .rejected rejection => [rejected t.message t.before.phase rejection]
  | .accepted _ =>
      phaseChanged t.message t.before.phase t.after.phase ++ handling t.message t.outcome

def sent (t : Session.Turn) : List Entry :=
  match t.outcome, t.sent with
  | .reply response, some (.ok (.written bytes)) =>
      [⟨.trace, .frames, "Wrote frame", [("bytes", toString bytes)]⟩,
        ⟨.debug, .session, "Sent response",
          [("id", response.id.render), ("error", flagText response.isError),
            ("bytes", toString bytes)]⟩]
  | .reply _, some (.ok .peerClosed) => [⟨.info, .session, "Output closed by peer", []⟩]
  | .exit, _ =>
      [⟨.info, .session, "Exit received", [("clean", flagText t.after.exitedCleanly)]⟩]
  | _, _ => []

def ofTurn (t : Session.Turn) : List Entry :=
  frameRead t.size :: received t.message :: dispatched t ++ sent t

def ofClose (close : Session.Close) : List Entry :=
  (close.turn.map ofTurn).getD [] ++ close.refused.toList.map frameRead ++
    match close.ending with
    | .endOfInput =>
        [⟨.info, .session, "Input closed", [("phase", close.state.lifecycle.phase.text)]⟩]
    | _ => []

def started (server : Server) : Entry :=
  ⟨.info, .session, "Session started", [("strict", flagText server.strict)]⟩

def ofRun (server : Server) (run : Session.Run) : List Entry :=
  started server :: run.turns.flatMap ofTurn ++ ofClose run.close

-- What a process says around its session.

def starting (server : Server) : Entry :=
  let timeout :=
    match server.limits.readTimeout with
    | none => "None"
    | some d => "Some(" ++ d.text ++ ")"
  ⟨.info, .program, "Starting bsp-fixture-server",
    [("strict", flagText server.strict), ("read_timeout", timeout),
      ("max_frame_size", toString server.limits.maxFrameSize)]⟩

def ended (strict : Bool) : Ending → List Entry
  | .failed failure =>
      [⟨.error, .program, "Session failed",
        [("error", failure.message), ("protocol_violation", flagText failure.isViolation)]⟩]
  | .exit clean => if strict && !clean then [⟨.warn, .program, "Exit without shutdown", []⟩] else []
  | _ => []

def ofProcess (server : Server) (run : Session.Run) : List Entry :=
  starting server :: ofRun server run ++ ended server.strict run.ending

end BuildPeer.Journal
