/-!
The phases a session goes through. `check` says whether an event may happen in the current phase
and `apply` moves on. A permissive session allows everything; a strict one wants initialization
first and once, and nothing but the exit after the shutdown. The exit is allowed in every phase, and
it is clean when it comes in the phase after a shutdown.
-/

namespace BuildPeer

inductive Phase where
  | uninitialized
  | initialized
  | shuttingDown
  | exited
  deriving DecidableEq, Repr

def Phase.text : Phase → String
  | .uninitialized => "uninitialized"
  | .initialized => "initialized"
  | .shuttingDown => "shutting_down"
  | .exited => "exited"

inductive Event where
  | initializing
  | initialized
  | shutdown
  | exit
  | query
  deriving DecidableEq, Repr

inductive Rejection where
  | notInitialized
  | alreadyInitialized
  | shuttingDown
  deriving DecidableEq, Repr

def Rejection.code : Rejection → Int
  | .notInitialized => -32002
  | .alreadyInitialized => -32600
  | .shuttingDown => -32600

def Rejection.message : Rejection → String
  | .notInitialized => "server not initialized"
  | .alreadyInitialized => "server already initialized"
  | .shuttingDown => "server is shutting down"

structure Lifecycle where
  strict : Bool
  phase : Phase := .uninitialized
  /-- Whether the last exit came right after a shutdown. -/
  cleanExit : Bool := false
  deriving DecidableEq, Repr

namespace Lifecycle

def start (strict : Bool) : Lifecycle :=
  { strict }

def check (l : Lifecycle) (event : Event) : Except Rejection Unit :=
  if !l.strict then .ok ()
  else
    match l.phase, event with
    | _, .exit => .ok ()
    | .uninitialized, .initializing => .ok ()
    | .uninitialized, _ => .error .notInitialized
    | .initialized, .initializing => .error .alreadyInitialized
    | .initialized, _ => .ok ()
    | .shuttingDown, _ => .error .shuttingDown
    | .exited, _ => .error .shuttingDown

def apply (l : Lifecycle) (event : Event) : Lifecycle :=
  match event with
  | .initializing => { l with phase := .initialized }
  | .initialized => { l with phase := .initialized }
  | .shutdown => { l with phase := .shuttingDown }
  | .exit => { l with phase := .exited, cleanExit := l.phase = .shuttingDown }
  | .query => l

def exitedCleanly (l : Lifecycle) : Bool :=
  l.phase = .exited && l.cleanExit

end Lifecycle
end BuildPeer
