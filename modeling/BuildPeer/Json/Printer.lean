import BuildPeer.Json.Basic
import BuildPeer.Binary64.Text

/-!
The compact text of a JSON tree: no spaces, members in the order they stand, and in strings only
the quote, the backslash and the characters below the space escaped.

A floating-point number is written with its shortest digits. Numbers from 0.00001 up to, but not
including, 10^16 are positional and always have a point; all others have one digit before the
point and a signed exponent, as in `1.5e+300` and `1e-7`.
-/

namespace BuildPeer

def Binary64.chars (x : Binary64) : List Char :=
  let d := x.shortest
  x.signedChars (if -5 ≤ d.leading ∧ d.leading ≤ 15 then positional d else scientific d)

def integerChars (n : Int) : List Char :=
  if n < 0 then '-' :: Nat.toDigits 10 n.natAbs else Nat.toDigits 10 n.natAbs

def Number.chars : Number → List Char
  | .integer n => integerChars n
  | .real x => x.chars

namespace Json

def escapedChar (c : Char) : List Char :=
  match c with
  | '"' => ['\\', '"']
  | '\\' => ['\\', '\\']
  | '\x08' => ['\\', 'b']
  | '\x0c' => ['\\', 'f']
  | '\n' => ['\\', 'n']
  | '\r' => ['\\', 'r']
  | '\t' => ['\\', 't']
  | c =>
      if c.toNat < 0x20 then '\\' :: 'u' :: '0' :: '0' :: paddedHex c.toNat
      else [c]
where
  paddedHex (n : Nat) : List Char := [Nat.digitChar (n / 16), Nat.digitChar (n % 16)]

def stringChars (s : String) : List Char :=
  '"' :: s.toList.flatMap escapedChar ++ ['"']

mutual
def chars : Json → List Char
  | .null => "null".toList
  | .bool true => "true".toList
  | .bool false => "false".toList
  | .number n => n.chars
  | .string s => stringChars s
  | .array xs => '[' :: elementChars true xs
  | .object ms => '{' :: memberChars true ms
def elementChars (first : Bool) : List Json → List Char
  | [] => [']']
  | x :: xs => (if first then [] else [',']) ++ chars x ++ elementChars false xs
def memberChars (first : Bool) : List (String × Json) → List Char
  | [] => ['}']
  | (k, v) :: ms =>
      (if first then [] else [',']) ++ stringChars k ++ ':' :: chars v ++ memberChars false ms
end

def render (j : Json) : String :=
  String.ofList j.chars

end Json
end BuildPeer
