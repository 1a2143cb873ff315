import BuildPeer.Json.Printer
import BuildPeer.Text.Quoted
import BuildPeer.Text.Utf8

/-!
Why a text is refused, and where. A reader works on the characters that are left, so it knows a
place by the number of bytes left unread there; `locate` turns that into a line and a column once
the whole text is at hand.

A fault that is not about one byte, such as a missing member, is first `pending`: it gets its place
from the array or object that encloses it, after that one has looked for its closing bracket.
-/

namespace BuildPeer.Json

inductive Found where
  | null
  | bool (value : Bool)
  | number (value : Number)
  | string (value : String)
  | sequence
  | map
  deriving DecidableEq, Repr

def Found.text : Found → String
  | .null => "null"
  | .bool true => "boolean `true`"
  | .bool false => "boolean `false`"
  | .number (.integer n) => "integer `" ++ String.ofList (integerChars n) ++ "`"
  | .number (.real x) => "floating point `" ++ String.ofList x.chars ++ "`"
  | .string s => "string " ++ Text.quoted s
  | .sequence => "sequence"
  | .map => "map"

def found : Json → Found
  | .null => .null
  | .bool b => .bool b
  | .number n => .number n
  | .string s => .string s
  | .array _ => .sequence
  | .object _ => .map

inductive Cause where
  | endInValue
  | endInString
  | endInList
  | endInObject
  | valueExpected
  | literalExpected
  | colonExpected
  | listSeparatorExpected
  | objectSeparatorExpected
  | nameExpected
  | trailingComma
  | trailingCharacters
  | invalidNumber
  | numberOutOfRange
  | invalidEscape
  | controlCharacter
  | loneSurrogate
  | unfinishedSurrogatePair
  | tooDeep
  | wrongType (found : Found) (wanted : String)
  | wrongValue (found : Found) (wanted : String)
  | wrongLength (length : Nat) (wanted : String)
  | missing (name : String)
  | duplicate (name : String)
  | unknownKind (code : Nat)
  | noPayload
  deriving DecidableEq, Repr

def Cause.message : Cause → String
  | .endInValue => "EOF while parsing a value"
  | .endInString => "EOF while parsing a string"
  | .endInList => "EOF while parsing a list"
  | .endInObject => "EOF while parsing an object"
  | .valueExpected => "expected value"
  | .literalExpected => "expected ident"
  | .colonExpected => "expected `:`"
  | .listSeparatorExpected => "expected `,` or `]`"
  | .objectSeparatorExpected => "expected `,` or `\x7d`"
  | .nameExpected => "key must be a string"
  | .trailingComma => "trailing comma"
  | .trailingCharacters => "trailing characters"
  | .invalidNumber => "invalid number"
  | .numberOutOfRange => "number out of range"
  | .invalidEscape => "invalid escape"
  | .controlCharacter => "control character (\\u0000-\\u001F) found while parsing a string"
  | .loneSurrogate => "lone leading surrogate in hex escape"
  | .unfinishedSurrogatePair => "unexpected end of hex escape"
  | .tooDeep => "recursion limit exceeded"
  | .wrongType found wanted => "invalid type: " ++ found.text ++ ", expected " ++ wanted
  | .wrongValue found wanted => "invalid value: " ++ found.text ++ ", expected " ++ wanted
  | .wrongLength n wanted => "invalid length " ++ toString n ++ ", expected " ++ wanted
  | .missing name => "missing field `" ++ name ++ "`"
  | .duplicate name => "duplicate field `" ++ name ++ "`"
  | .unknownKind code => "unknown source item kind " ++ toString code
  | .noPayload => "no variant of enum Payload found in flattened data"

/-- Whether the data ended too soon, is not JSON, or is JSON of another shape than wanted. -/
inductive Category where
  | ended
  | malformed
  | misshapen
  deriving DecidableEq, Repr

def Cause.category : Cause → Category
  | .endInValue | .endInString | .endInList | .endInObject => .ended
  | .wrongType .. | .wrongValue .. | .wrongLength .. | .missing _ | .duplicate _
  | .unknownKind _ | .noPayload => .misshapen
  | _ => .malformed

/-- A refusal by a reader: at a place known by the bytes left unread there, or not yet placed, with
the characters left when it arose. -/
inductive Fault where
  | placed (cause : Cause) (left : Nat)
  | pending (cause : Cause) (rest : List Char)
  deriving Repr

def unread (rest : List Char) : Nat :=
  Text.Utf8.length rest

/-- The place between what was read and what is left. -/
def Fault.here (cause : Cause) (rest : List Char) : Fault :=
  .placed cause (unread rest)

/-- The place after the next byte, or at the end of the data if there is none. -/
def Fault.upon (cause : Cause) (rest : List Char) : Fault :=
  .placed cause (unread rest - 1)

/-- A line counts from one; a column counts the bytes of its line up to the place. -/
structure Position where
  line : Nat
  column : Nat
  deriving DecidableEq, Repr

def position (bytes : Bytes) (index : Nat) : Position :=
  (bytes.take index).foldl
    (fun p b => if b = 10 then ⟨p.line + 1, 0⟩ else ⟨p.line, p.column + 1⟩) ⟨1, 0⟩

structure Refusal where
  cause : Cause
  position : Option Position
  deriving DecidableEq, Repr

def Refusal.message (r : Refusal) : String :=
  match r.position with
  | none => r.cause.message
  | some p =>
      r.cause.message ++ " at line " ++ toString p.line ++ " column " ++ toString p.column

def Fault.locate (text : List Char) : Fault → Refusal
  | .placed cause left => ⟨cause, some (position (Text.Utf8.encode text) (unread text - left))⟩
  | .pending cause _ => ⟨cause, none⟩

end BuildPeer.Json
