import BuildPeer.Envelope
import BuildPeer.Lifecycle
import BuildPeer.Payload
import BuildPeer.Response

/-!
From a message to what the session does about it. The methods the peer knows stand in a table; each
has its event, and those that answer have a handler. `judge` says whether a message is unknown,
rejected or accepted, which depends on its method and the lifecycle alone; `dispatch` then gives the
outcome and the lifecycle after it.
-/

namespace BuildPeer

inductive Handler where
  | identity
  | acknowledgement
  | sources
  deriving DecidableEq, Repr

def Handler.result (identity : Identity) : Handler → Json
  | .identity => (Payload.ofInitialize (initializeResult identity)).sorted
  | .acknowledgement => .null
  | .sources => (Payload.ofSources sourcesResult).sorted

structure Route where
  method : String
  event : Event
  /-- Absent for methods that never answer. -/
  handler : Option Handler
  deriving DecidableEq, Repr

def routes : List Route :=
  [⟨"build/initialize", .initializing, some .identity⟩,
    ⟨"build/initialized", .initialized, none⟩,
    ⟨"build/shutdown", .shutdown, some .acknowledgement⟩,
    ⟨"build/exit", .exit, none⟩,
    ⟨"buildTarget/sources", .query, some .sources⟩]

def Route.find? (method : String) : Option Route :=
  routes.find? fun route => route.method = method

inductive Verdict where
  | unknown
  | rejected (rejection : Rejection)
  | accepted (route : Route)
  deriving DecidableEq, Repr

def judge (lifecycle : Lifecycle) (method : String) : Verdict :=
  match Route.find? method with
  | none => .unknown
  | some route =>
      match lifecycle.check route.event with
      | .error rejection => .rejected rejection
      | .ok () => .accepted route

inductive Outcome where
  | reply (response : Response)
  | noReply
  | exit
  deriving DecidableEq, Repr

def Outcome.toRequest (message : Envelope) (reply : Json → Response) : Outcome :=
  match message.id? with
  | some id => .reply (reply id)
  | none => .noReply

def dispatch (identity : Identity) (lifecycle : Lifecycle) (message : Envelope) :
    Outcome × Lifecycle :=
  match judge lifecycle message.method with
  | .unknown =>
      (.toRequest message (.unhandledMethod · message.method), lifecycle)
  | .rejected rejection =>
      (.toRequest message (.error · rejection.code rejection.message), lifecycle)
  | .accepted route =>
      let after := lifecycle.apply route.event
      if after.phase = .exited then (.exit, after)
      else
        match route.handler with
        | some handler => (.toRequest message (.result · (handler.result identity)), after)
        | none => (.noReply, after)

end BuildPeer
