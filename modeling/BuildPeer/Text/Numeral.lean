/-!
Decimal numerals. `natural?` reads an optional plus sign and one or more ASCII digits, leading
zeros allowed; `word?` keeps the values below 2^64.
-/

namespace BuildPeer.Text

def isDigit (c : Char) : Bool :=
  '0' ≤ c && c ≤ '9'

def digitValue (c : Char) : Nat :=
  c.toNat - '0'.toNat

def valueOf (base : Nat) (digits : List Nat) : Nat :=
  digits.foldl (fun n d => n * base + d) 0

def digits? : List Char → Option Nat
  | [] => none
  | text => if text.all isDigit then some (valueOf 10 (text.map digitValue)) else none

def natural? : List Char → Option Nat
  | '+' :: rest => digits? rest
  | text => digits? text

def wordLimit : Nat :=
  Nat.pow 2 64

def word? (text : List Char) : Option Nat :=
  (natural? text).filter (· < wordLimit)

def hexValue? (c : Char) : Option Nat :=
  if isDigit c then some (digitValue c)
  else if 'a' ≤ c && c ≤ 'f' then some (c.toNat - 'a'.toNat + 10)
  else if 'A' ≤ c && c ≤ 'F' then some (c.toNat - 'A'.toNat + 10)
  else none

/-- A number in base sixteen, in lower case and without leading zeros. -/
def hex (n : Nat) : String :=
  String.ofList (Nat.toDigits 16 n)

end BuildPeer.Text
