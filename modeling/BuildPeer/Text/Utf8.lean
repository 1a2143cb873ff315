/-!
UTF-8 over lists of bytes. `encode` writes characters; `decode` reads them back, or names the first
place where the bytes stop being UTF-8: how many bytes before it are good and how long the bad part
is. The bad part is the longest start of a character that can still be completed, at least one
byte; it has no length when the data ends inside a character that could still be completed.
-/

namespace BuildPeer

abbrev Bytes := List UInt8

namespace Text.Utf8

-- Writing: one to four bytes, six bits in each byte after the first.

def encodeChar (c : Char) : Bytes :=
  let n := c.toNat
  if n < 0x80 then [.ofNat n]
  else if n < 0x800 then [.ofNat (0xC0 + n / 64), .ofNat (0x80 + n % 64)]
  else if n < 0x10000 then
    [.ofNat (0xE0 + n / 4096), .ofNat (0x80 + n / 64 % 64), .ofNat (0x80 + n % 64)]
  else
    [.ofNat (0xF0 + n / 262144), .ofNat (0x80 + n / 4096 % 64), .ofNat (0x80 + n / 64 % 64),
      .ofNat (0x80 + n % 64)]

def encode (text : List Char) : Bytes :=
  text.flatMap encodeChar

def size (c : Char) : Nat :=
  if c.toNat < 0x80 then 1
  else if c.toNat < 0x800 then 2
  else if c.toNat < 0x10000 then 3
  else 4

def length (text : List Char) : Nat :=
  text.foldl (fun n c => n + size c) 0

-- Reading: a machine that takes one byte at a time.

/-- An unfinished character: the bytes still owed, the range the next one must lie in, the bits
gathered so far and the number of bytes seen. -/
structure Unfinished where
  owed : Nat
  low : Nat
  high : Nat
  bits : Nat
  seen : Nat

/-- What the first byte of a character starts; `owed = 0` for a character of one byte. -/
def start? (b : Nat) : Option Unfinished :=
  if b < 0x80 then some ⟨0, 0x80, 0xBF, b, 1⟩
  else if b < 0xC2 then none
  else if b < 0xE0 then some ⟨1, 0x80, 0xBF, b % 32, 1⟩
  else if b < 0xF0 then
    some ⟨2, if b = 0xE0 then 0xA0 else 0x80, if b = 0xED then 0x9F else 0xBF, b % 16, 1⟩
  else if b < 0xF5 then
    some ⟨3, if b = 0xF0 then 0x90 else 0x80, if b = 0xF4 then 0x8F else 0xBF, b % 8, 1⟩
  else none

def next? (p : Unfinished) (b : Nat) : Option Unfinished :=
  if p.low ≤ b ∧ b ≤ p.high then
    some ⟨p.owed - 1, 0x80, 0xBF, p.bits * 64 + b % 64, p.seen + 1⟩
  else none

/-- Where bytes stop being UTF-8: `valid` good bytes, then a bad part of `bad` bytes, or an
unfinished character when `bad` is absent. -/
structure Fault where
  valid : Nat
  bad : Option Nat
  deriving DecidableEq, Repr

def Fault.message (f : Fault) : String :=
  match f.bad with
  | some n => "invalid utf-8 sequence of " ++ toString n ++ " bytes from index " ++ toString f.valid
  | none => "incomplete utf-8 byte sequence from index " ++ toString f.valid

/-- `done` holds the characters read so far, last first, and `valid` counts their bytes. -/
def decodeFrom (done : List Char) (valid : Nat) : Option Unfinished → Bytes → Except Fault (List Char)
  | none, [] => .ok done.reverse
  | some _, [] => .error ⟨valid, none⟩
  | none, b :: rest =>
      match start? b.toNat with
      | none => .error ⟨valid, some 1⟩
      | some p =>
          if p.owed = 0 then decodeFrom (Char.ofNat p.bits :: done) (valid + 1) none rest
          else decodeFrom done valid (some p) rest
  | some p, b :: rest =>
      match next? p b.toNat with
      | none => .error ⟨valid, some p.seen⟩
      | some p' =>
          if p'.owed = 0 then
            decodeFrom (Char.ofNat p'.bits :: done) (valid + p'.seen) none rest
          else decodeFrom done valid (some p') rest

def decode (bytes : Bytes) : Except Fault (List Char) :=
  decodeFrom [] 0 none bytes

end Text.Utf8
end BuildPeer
