import BuildPeer.Duration
import BuildPeer.Json.Fault

/-!
What can go wrong in a session: a fault of the streams, a violation of the framing or of the form
of a message by the other side, or no input in time.
-/

namespace BuildPeer

/-- Kinds of stream faults that the session tells apart; all others keep their name. -/
inductive IoKind where
  | brokenPipe
  | connectionReset
  | unexpectedEof
  | writeZero
  | other (name : String)
  deriving DecidableEq, Repr

structure IoError where
  kind : IoKind
  message : String
  deriving DecidableEq, Repr

def IoError.isPeerClosed (e : IoError) : Bool :=
  e.kind = .brokenPipe || e.kind = .connectionReset

inductive Violation where
  | missingContentLength (line : String)
  | invalidContentLength (value : String)
  | headerTooLong (limit : Nat)
  | frameTooLarge (length limit : Nat)
  | truncatedFrame (expected : Nat)
  | invalidUtf8 (fault : Text.Utf8.Fault)
  | invalidEnvelope (refusal : Json.Refusal)
  deriving DecidableEq, Repr

def Violation.message : Violation → String
  | .missingContentLength line => "expected Content-Length header, got " ++ Text.quoted line
  | .invalidContentLength value => "invalid Content-Length value " ++ Text.quoted value
  | .headerTooLong limit => "header line longer than " ++ toString limit ++ " bytes"
  | .frameTooLarge length limit =>
      "frame body of " ++ toString length ++ " bytes exceeds limit of " ++ toString limit ++ " bytes"
  | .truncatedFrame expected =>
      "stream ended inside a frame (expected " ++ toString expected ++ " body bytes)"
  | .invalidUtf8 fault => "frame is not valid UTF-8: " ++ fault.message
  | .invalidEnvelope refusal => "invalid envelope: " ++ refusal.message

inductive Failure where
  | io (error : IoError)
  | violation (violation : Violation)
  | readTimeout (limit : Duration)
  deriving DecidableEq, Repr

def Failure.message : Failure → String
  | .io error => "I/O error: " ++ error.message
  | .violation v => "protocol violation: " ++ v.message
  | .readTimeout limit => "no input within " ++ limit.text

def Failure.isViolation : Failure → Bool
  | .violation _ => true
  | _ => false

end BuildPeer
