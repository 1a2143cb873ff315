import BuildPeer.Journal
import BuildPeer.Text.Blank
import BuildPeer.Text.Pattern

/-!
Directives on what a journal shows. A directive is a level, in any case or as a number from 0 to 5,
or the start of a target, or both with an equals sign between them; a target alone means all its
entries. Brackets between target and level name a span, or in braces a field that an entry must
have, perhaps with a pattern for its value.

Places in a directive are counted from its first character that is no blank, but its parts are cut
out counting from its start. So blanks in front shift the parts, and a cut may fall inside a
character.
-/

namespace BuildPeer.Journal

/-- The least important rank that is shown; none at zero. -/
abbrev Threshold := Nat

def Threshold.named? (text : List Char) : Option Threshold :=
  match Text.word? text with
  | some n => if n ≤ 5 then some n else none
  | none =>
      match String.ofList (text.map Char.toLower) with
      | "off" => some 0
      | "error" => some Level.error.rank
      | "warn" => some Level.warn.rank
      | "info" => some Level.info.rank
      | "debug" => some Level.debug.rank
      | "trace" => some Level.trace.rank
      | _ => none

structure FieldTest where
  name : String
  hasValue : Bool
  deriving DecidableEq, Repr

structure Directive where
  /-- None for all entries. -/
  target : Option (List Char) := none
  /-- Whether the directive is about the inside of a span. -/
  hasSpan : Bool := false
  field : Option FieldTest := none
  threshold : Threshold := Level.trace.rank
  deriving DecidableEq, Repr

namespace Directive

inductive Refusal where
  | malformed
  /-- A cut inside a character. -/
  | broken
  deriving DecidableEq, Repr

def after? : Nat → List Char → Option (List Char)
  | 0, text => some text
  | _ + 1, [] => none
  | n + 1, c :: text =>
      if Text.Utf8.size c ≤ n + 1 then after? (n + 1 - Text.Utf8.size c) text else none

def first? : Nat → List Char → Option (List Char)
  | 0, _ => some []
  | _ + 1, [] => none
  | n + 1, c :: text =>
      if Text.Utf8.size c ≤ n + 1 then
        (first? (n + 1 - Text.Utf8.size c) text).map (c :: ·)
      else none

def slice (text : List Char) (start stop : Nat) : Except Refusal (List Char) :=
  match (after? start text).bind (first? (stop - start)) with
  | some cut => .ok cut
  | none => .error .broken

def suffix (text : List Char) (start : Nat) : Except Refusal (List Char) :=
  match after? start text with
  | some cut => .ok cut
  | none => .error .broken

def mayStart (c : Char) : Bool :=
  Text.isAlphanumeric c || c == '-' || c == ':' || c == '_'

/-- A number, which a value can be tested for as one. Of those with a sign or a point it matters
here only that they need not be patterns. -/
def isNumeral (text : List Char) : Bool :=
  let magnitude :=
    match text with
    | '+' :: rest => rest
    | '-' :: rest => rest
    | rest => rest
  let word := String.ofList (magnitude.map Char.toLower)
  let (before, rest) := magnitude.span Text.isDigit
  let (after, rest) :=
    match rest with
    | '.' :: rest => rest.span Text.isDigit
    | rest => ([], rest)
  let exponent :=
    match rest with
    | [] => true
    | e :: '+' :: digits => (e == 'e' || e == 'E') && !digits.isEmpty && digits.all Text.isDigit
    | e :: '-' :: digits => (e == 'e' || e == 'E') && !digits.isEmpty && digits.all Text.isDigit
    | e :: digits => (e == 'e' || e == 'E') && !digits.isEmpty && digits.all Text.isDigit
  word == "inf" || word == "infinity" || word == "nan" ||
    (!(before.isEmpty && after.isEmpty) && exponent)

/-- A name, or a name and a value between equals signs; the value is a number or a pattern. -/
def fieldTest? (text : List Char) : Option FieldTest :=
  let name := String.ofList (text.takeWhile (· ≠ '='))
  match text.dropWhile (· ≠ '=') with
  | _ :: rest =>
      let value := rest.takeWhile (· ≠ '=')
      if isNumeral value || Text.isPattern value then some ⟨name, true⟩ else none
  | [] => if name.isEmpty then none else some ⟨name, false⟩

/-- Which part of a directive is being read, with the place where it starts. -/
inductive Part where
  | start
  | word
  | span (start : Nat)
  | field (start : Nat)
  | fieldOver
  | spanOver
  | level (start : Nat)
  deriving DecidableEq, Repr

def finish (text : List Char) (part : Part) (d : Directive) : Except Refusal Directive :=
  match part with
  | .word =>
      match Threshold.named? text with
      | some threshold => .ok { d with threshold }
      | none => .ok { d with target := some text }
  | .level start =>
      (suffix text start).bind fun level =>
        if level.isEmpty then .ok d
        else
          match Threshold.named? level with
          | some threshold => .ok { d with threshold }
          | none => .error .malformed
  | .spanOver => .ok d
  | _ => .error .malformed

def readFrom (text : List Char) (part : Part) (d : Directive) (place : Nat) :
    List Char → Except Refusal Directive
  | [] => finish text part d
  | c :: rest =>
      let go (part : Part) (d : Directive) := readFrom text part d (place + Text.Utf8.size c) rest
      match part with
      | .start =>
          if c = '[' then go (.span (place + 1)) d
          else if mayStart c then go .word d
          else .error .malformed
      | .word =>
          if c = '=' then
            (slice text 0 place).bind fun target =>
              go (.level (place + 1)) { d with target := some target }
          else if c = '[' then
            (slice text 0 place).bind fun target =>
              go (.span (place + 1)) { d with target := some target }
          else go .word d
      | .span start =>
          if c = ']' then (slice text start place).bind fun _ => go .spanOver { d with hasSpan := true }
          else if c = '\x7b' then
            (slice text start place).bind fun name =>
              go (.field (place + 1)) { d with hasSpan := !name.isEmpty }
          else go (.span start) d
      | .field start =>
          if c = '\x7d' then
            (slice text start place).bind fun field =>
              match fieldTest? field with
              | some test => go .fieldOver { d with field := some test }
              | none => .error .malformed
          else go (.field start) d
      | .fieldOver => if c = ']' then go .spanOver d else .error .malformed
      | .spanOver => if c = '=' then go (.level (place + 1)) d else .error .malformed
      | .level start => go (.level start) d

def read (text : List Char) : Except Refusal Directive :=
  readFrom text .start {} 0 (Text.trim text)

end Directive

end BuildPeer.Journal
