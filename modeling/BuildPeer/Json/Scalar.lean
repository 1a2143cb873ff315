import BuildPeer.Json.Fault

/-!
Readers of the parts of a JSON text that hold no other values: spaces, literals, strings and
numbers. A reader takes the characters left and gives a value and the characters left after it.

A number without point and exponent stays an integer when it fits 64 bits, and minus zero does not.
Any other number gathers digits into a significand below 2^64. From the first digit that does not
fit, digits before the point only count in the exponent and digits after it are dropped; then the
significand is rounded to a floating-point number and multiplied or divided by a rounded power of
ten, so the last bit may differ from the nearest number to what was written.
-/

namespace BuildPeer.Json

abbrev Reader (α : Type) := List Char → Except Fault (α × List Char)

namespace Reader

def isSpace (c : Char) : Bool :=
  c == ' ' || c == '\t' || c == '\n' || c == '\r'

def skipSpace (text : List Char) : List Char :=
  text.dropWhile isSpace

def literal : List Char → Reader Unit
  | [], text => .ok ((), text)
  | _ :: _, [] => .error (.here .endInValue [])
  | w :: word, c :: text =>
      if c = w then literal word text else .error (.upon .literalExpected (c :: text))

-- Strings.

/-- Four digits of base sixteen; the place of a fault is counted in bytes. -/
def hexDigits : Reader Nat := fun text =>
  match text with
  | a :: b :: c :: d :: rest =>
      match Text.hexValue? a, Text.hexValue? b, Text.hexValue? c, Text.hexValue? d with
      | some a, some b, some c, some d => .ok (Text.valueOf 16 [a, b, c, d], rest)
      | _, _, _, _ => .error (.placed .invalidEscape (unread text - 4))
  | short =>
      if unread short < 4 then .error (.placed .endInString 0)
      else .error (.placed .invalidEscape (unread short - 4))

def plainEscape? : Char → Option Char
  | '"' => some '"'
  | '\\' => some '\\'
  | '/' => some '/'
  | 'b' => some '\x08'
  | 'f' => some '\x0c'
  | 'n' => some '\n'
  | 'r' => some '\r'
  | 't' => some '\t'
  | _ => none

/-- A code unit already read: a character, or the first of a pair. -/
def codeUnit (unit : Nat) : Reader Char := fun text =>
  if 0xDC00 ≤ unit ∧ unit ≤ 0xDFFF then .error (.here .loneSurrogate text)
  else if unit < 0xD800 ∨ 0xDBFF < unit then .ok (.ofNat unit, text)
  else
    match text with
    | [] => .error (.here .endInString [])
    | '\\' :: [] => .error (.here .endInString [])
    | '\\' :: 'u' :: rest =>
        match hexDigits rest with
        | .error fault => .error fault
        | .ok (second, rest) =>
            if 0xDC00 ≤ second ∧ second ≤ 0xDFFF then
              .ok (.ofNat ((unit - 0xD800) * 0x400 + (second - 0xDC00) + 0x10000), rest)
            else .error (.here .loneSurrogate rest)
    | '\\' :: rest => .error (.upon .unfinishedSurrogatePair rest)
    | text => .error (.upon .unfinishedSurrogatePair text)

def escape : Reader Char := fun text =>
  match text with
  | [] => .error (.here .endInString [])
  | 'u' :: rest =>
      match hexDigits rest with
      | .error fault => .error fault
      | .ok (unit, rest) => codeUnit unit rest
  | c :: rest =>
      match plainEscape? c with
      | some e => .ok (e, rest)
      | none => .error (.upon .invalidEscape text)

theorem hexDigits_rest {text rest : List Char} {unit : Nat}
    (read : hexDigits text = .ok (unit, rest)) : rest.length + 4 = text.length := by
  unfold hexDigits at read
  split at read
  · split at read
    · simp only [Except.ok.injEq, Prod.mk.injEq] at read
      simp [← read.2]
    · simp at read
  · split at read <;> simp at read

theorem codeUnit_rest {text rest : List Char} {unit : Nat} {c : Char}
    (read : codeUnit unit text = .ok (c, rest)) : rest.length ≤ text.length := by
  unfold codeUnit at read
  split at read
  · simp at read
  · split at read
    · simp only [Except.ok.injEq, Prod.mk.injEq] at read
      simp [← read.2]
    · split at read
      · simp at read
      · simp at read
      · split at read
        · simp at read
        · rename_i second _ digits
          split at read
          · simp only [Except.ok.injEq, Prod.mk.injEq] at read
            obtain ⟨-, rfl⟩ := read
            have := hexDigits_rest digits
            simp only [List.length_cons]
            omega
          · simp at read
      · simp at read
      · simp at read

theorem escape_rest {text rest : List Char} {c : Char}
    (read : escape text = .ok (c, rest)) : rest.length < text.length := by
  unfold escape at read
  split at read
  · simp at read
  · split at read
    · simp at read
    · rename_i digits
      have := hexDigits_rest digits
      have := codeUnit_rest read
      simp only [List.length_cons]
      omega
  · split at read
    · simp only [Except.ok.injEq, Prod.mk.injEq] at read
      simp [← read.2]
    · simp at read

/-- A string after its opening quote; `done` holds what was read so far, last first. -/
def stringFrom (done : List Char) (text : List Char) : Except Fault (String × List Char) :=
  match text with
  | [] => .error (.here .endInString [])
  | '"' :: rest => .ok (String.ofList done.reverse, rest)
  | '\\' :: rest =>
      match _read : escape rest with
      | .error fault => .error fault
      | .ok (c, rest') => stringFrom (c :: done) rest'
  | c :: rest =>
      if c.toNat < 0x20 then .error (.here .controlCharacter rest)
      else stringFrom (c :: done) rest
termination_by text.length
decreasing_by
  · have := escape_rest _read
    simp only [List.length_cons]
    omega
  · simp

def string : Reader String :=
  stringFrom []

-- Numbers.

def startsWithDigit : List Char → Bool
  | [] => false
  | c :: _ => Text.isDigit c

/-- Appends digits to `value` while it stays below `limit`; also counts them. -/
def gather (limit value count : Nat) : List Char → Nat × Nat × List Char
  | [] => (value, count, [])
  | c :: rest =>
      let value' := value * 10 + Text.digitValue c
      if Text.isDigit c ∧ value' < limit then gather limit value' (count + 1) rest
      else (value, count, c :: rest)

def significandLimit : Nat := Nat.pow 2 64
def exponentLimit : Nat := Nat.pow 2 31

def powerOfTen (n : Nat) : Binary64 :=
  .ofNat (Nat.pow 10 n)

/-- `x * 10 ^ exponent` with one rounding for each factor of at most 10^308. -/
def scale (x : Binary64) (exponent : Int) : Option Binary64 :=
  if exponent.natAbs ≤ 308 then
    if 0 ≤ exponent then x.mul? (powerOfTen exponent.natAbs)
    else x.div? (powerOfTen exponent.natAbs)
  else if x.isZero then some x
  else if 0 ≤ exponent then none
  else scale ((x.div? (powerOfTen 308)).getD .zero) (exponent + 308)
termination_by exponent.natAbs
decreasing_by omega

def signed (negative : Bool) (x : Binary64) : Number :=
  .real (if negative then x.neg else x)

def ofParts (negative : Bool) (significand : Nat) (exponent : Int) : Reader Number := fun text =>
  match scale (.ofNat significand) exponent with
  | some x => .ok (signed negative x, text)
  | none => .error (.here .numberOutOfRange text)

def exponentDigits (negative : Bool) (significand : Nat) (exponent : Int) (down : Bool)
    (first : Nat) : Reader Number := fun text =>
  let (value, _, rest) := gather exponentLimit first 0 text
  if startsWithDigit rest then
    if significand ≠ 0 ∧ !down then .error (.upon .numberOutOfRange rest)
    else .ok (signed negative .zero, rest.dropWhile Text.isDigit)
  else
    ofParts negative significand (if down then exponent - value else exponent + value) rest

def exponentPart (negative : Bool) (significand : Nat) (exponent : Int) : Reader Number :=
  fun text =>
    let (down, text) :=
      match text with
      | '+' :: rest => (false, rest)
      | '-' :: rest => (true, rest)
      | text => (false, text)
    match text with
    | [] => .error (.here .endInValue [])
    | c :: rest =>
        if Text.isDigit c then
          exponentDigits negative significand exponent down (Text.digitValue c) rest
        else .error (.upon .invalidNumber text)

def realTail (negative : Bool) (significand : Nat) (exponent : Int) : Reader Number := fun text =>
  match text with
  | 'e' :: rest => exponentPart negative significand exponent rest
  | 'E' :: rest => exponentPart negative significand exponent rest
  | text => ofParts negative significand exponent text

def fraction (negative : Bool) (significand : Nat) (exponent : Int) : Reader Number := fun text =>
  let (value, count, rest) := gather significandLimit significand 0 text
  if count = 0 ∧ !startsWithDigit rest then
    .error (.upon (if rest.isEmpty then .endInValue else .invalidNumber) rest)
  else realTail negative value (exponent - count) (rest.dropWhile Text.isDigit)

/-- What follows the digits before a point that all fitted the significand. -/
def integerTail (negative : Bool) (significand : Nat) : Reader Number := fun text =>
  match text with
  | '.' :: rest => fraction negative significand 0 rest
  | 'e' :: rest => exponentPart negative significand 0 rest
  | 'E' :: rest => exponentPart negative significand 0 rest
  | text =>
      if !negative then .ok (.integer significand, text)
      else if 0 < significand ∧ significand ≤ Nat.pow 2 63 then .ok (.integer (-significand), text)
      else .ok (signed true (.ofNat significand), text)

/-- The digits that no longer fitted the significand, and what follows them. -/
def longTail (negative : Bool) (significand : Nat) : Reader Number := fun text =>
  let exponent := (text.takeWhile Text.isDigit).length
  match text.dropWhile Text.isDigit with
  | '.' :: rest => fraction negative significand exponent rest
  | rest => realTail negative significand exponent rest

def magnitude (negative : Bool) : Reader Number := fun text =>
  match text with
  | [] => .error (.here .endInValue [])
  | '0' :: rest =>
      if startsWithDigit rest then .error (.upon .invalidNumber rest)
      else integerTail negative 0 rest
  | c :: rest =>
      if Text.isDigit c then
        let (value, _, rest) := gather significandLimit (Text.digitValue c) 0 rest
        if startsWithDigit rest then longTail negative value rest
        else integerTail negative value rest
      else .error (.upon .invalidNumber text)

def number : Reader Number := fun text =>
  match text with
  | '-' :: rest => magnitude true rest
  | text => magnitude false text

end Reader
end BuildPeer.Json
