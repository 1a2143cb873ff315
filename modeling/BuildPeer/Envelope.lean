import BuildPeer.Json.Shape

/-!
Incoming messages. A message that has an `id`, a null one included, is a request and wants one
reply; one without is a notification and never gets one. `params` is absent when it is null.
-/

namespace BuildPeer

inductive Envelope where
  | request (id : Json) (method : String) (params : Option Json)
  | notification (method : String) (params : Option Json)
  deriving DecidableEq, Repr

namespace Envelope

def method : Envelope → String
  | .request _ method _ => method
  | .notification method _ => method

def params : Envelope → Option Json
  | .request _ _ params => params
  | .notification _ params => params

def id? : Envelope → Option Json
  | .request id _ _ => some id
  | .notification _ _ => none

def slots : List Json.Reader.Slot :=
  Json.Reader.fieldSlots (Json.nestingLimit - 1)
    [("jsonrpc", true, .text), ("id", false, .any), ("method", true, .text),
      ("params", false, .any)]

def ofSlots : List (Option Json) → Option Envelope
  | [_, id, some (.string method), params] =>
      let params := params.filter (· ≠ .null)
      match id with
      | some id => some (.request id method params)
      | none => some (.notification method params)
  | _ => none

/-- Reading fills the slot of the method with a string, so `ofSlots` has an answer for what was
read. -/
def decode (body : List Char) : Except Json.Refusal Envelope :=
  (Json.Reader.whole (Json.Reader.record Json.nestingLimit "RawEnvelope" slots) body).map
    fun values => (ofSlots values).getD (.notification "" none)

end Envelope
end BuildPeer
