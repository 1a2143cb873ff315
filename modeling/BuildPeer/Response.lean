import BuildPeer.Json.Skip
import BuildPeer.Json.Shape

/-!
Replies: the id of a request with either a result or an error. A reply is written with its members
in the order version, id, result or error. It is read from an object with the members in any order;
of the members `result` and `error` the first one written is the payload.
-/

namespace BuildPeer

structure ResponseError where
  code : Int
  message : String
  deriving DecidableEq, Repr

inductive Reply where
  | result (value : Json)
  | error (error : ResponseError)
  deriving DecidableEq, Repr

structure Response where
  version : String := "2.0"
  id : Json
  reply : Reply
  deriving DecidableEq, Repr

namespace Response

def result (id value : Json) : Response :=
  { id, reply := .result value }

def error (id : Json) (code : Int) (message : String) : Response :=
  { id, reply := .error ⟨code, message⟩ }

def unhandledMethod (id : Json) (method : String) : Response :=
  error id 123 ("unhandled method " ++ method)

def isError (r : Response) : Bool :=
  match r.reply with
  | .result _ => false
  | .error _ => true

def errorJson (e : ResponseError) : Json :=
  .object [("code", .integer e.code), ("message", .string e.message)]

def toJson (r : Response) : Json :=
  .object [
    ("jsonrpc", .string r.version),
    ("id", r.id),
    match r.reply with
    | .result value => ("result", value)
    | .error e => ("error", errorJson e)]

-- Reading the payload, once the members are trees.

open Json (Cause Fault Reader found)

def asCode : Json → Except Cause Int
  | .number (.integer n) =>
      if -Nat.pow 2 63 ≤ n ∧ n < Nat.pow 2 63 then .ok n
      else .error (.wrongValue (.number (.integer n)) "i64")
  | v => .error (.wrongType (found v) "i64")

def asText : Json → Except Cause String
  | .string s => .ok s
  | v => .error (.wrongType (found v) "a string")

/-- Takes the members in the order written, so the first fault wins. -/
def errorMembers (code : Option Int) (message : Option String) :
    List (String × Json) → Except Cause ResponseError
  | [] =>
      match code, message with
      | none, _ => .error (.missing "code")
      | some _, none => .error (.missing "message")
      | some code, some message => .ok ⟨code, message⟩
  | (name, v) :: rest =>
      if name = "code" then
        if code.isSome then .error (.duplicate "code")
        else (asCode v).bind fun code => errorMembers (some code) message rest
      else if name = "message" then
        if message.isSome then .error (.duplicate "message")
        else (asText v).bind fun message => errorMembers code (some message) rest
      else errorMembers code message rest

def errorElements : List Json → Except Cause ResponseError
  | [] => .error (.wrongLength 0 "struct ResponseError with 2 elements")
  | code :: rest =>
      (asCode code).bind fun code =>
        match rest with
        | [] => .error (.wrongLength 1 "struct ResponseError with 2 elements")
        | message :: more =>
            (asText message).bind fun message =>
              if more.isEmpty then .ok ⟨code, message⟩
              else .error (.wrongLength (more.length + 2) "2 elements in sequence")

def asError : Json → Except Cause ResponseError
  | .object members => errorMembers none none members
  | .array elements => errorElements elements
  | v => .error (.wrongType (found v) "struct ResponseError")

/-- The first member that can be a payload. -/
def asReply : List (String × Json) → Except Cause Reply
  | [] => .error .noPayload
  | (name, v) :: rest =>
      if name = "result" then .ok (.result v.sorted)
      else if name = "error" then (asError v).map .error
      else asReply rest

-- Reading the members.

/-- What has been read of a reply; `others` holds all further members, last first. -/
structure Draft where
  version : Option String := none
  id : Option Json := none
  others : List (String × Json) := []

def readMember (draft : Draft) (name : String) : Reader Draft := fun text =>
  if name = "jsonrpc" then
    if draft.version.isSome then .error (.pending (.duplicate "jsonrpc") text)
    else
      (Reader.afterColon Reader.text text).map fun (s, rest) =>
        ({ draft with version := some s }, rest)
  else if name = "id" then
    if draft.id.isSome then .error (.pending (.duplicate "id") text)
    else
      (Reader.afterColon (Reader.value (Json.nestingLimit - 1)) text).map fun (v, rest) =>
        ({ draft with id := some v.sorted }, rest)
  else
    (Reader.afterColon (Reader.value (Json.nestingLimit - 1)) text).map fun (v, rest) =>
      ({ draft with others := (name, v) :: draft.others }, rest)

def Draft.finish (draft : Draft) : Except Cause Response :=
  match draft.version, draft.id with
  | none, _ => .error (.missing "jsonrpc")
  | some _, none => .error (.missing "id")
  | some version, some id =>
      (asReply draft.others.reverse).map fun reply => { version, id, reply }

def readMembers : Reader Response := fun text =>
  match Reader.members readMember {} text with
  | .error fault => .error fault
  | .ok (draft, rest) =>
      match draft.finish with
      | .error cause => .error (.pending cause rest)
      | .ok response => .ok (response, rest)

def read : Reader Response := fun text =>
  match Json.Reader.skipSpace text with
  | '{' :: rest => Reader.closeObject readMembers rest
  | text => Reader.mismatch "struct Response" text

def decode (body : List Char) : Except Json.Refusal Response :=
  Reader.whole read body

end Response
end BuildPeer
