import BuildPeer.Binary64.Shortest

/-!
Decimals as text, with all digits in their places or with one digit before the point and an
exponent of ten after it.
-/

namespace BuildPeer.Binary64

def paddedDigits (width n : Nat) : List Char :=
  let digits := Nat.toDigits 10 n
  List.replicate (width - digits.length) '0' ++ digits

/-- Every digit in its place, and at least one after the point. -/
def positional (d : Decimal) : List Char :=
  if 0 ≤ d.place then
    paddedDigits d.count d.digits ++ List.replicate d.place.toNat '0' ++ ['.', '0']
  else
    let after := (-d.place).toNat
    let unit := Nat.pow 10 after
    paddedDigits 1 (d.digits / unit) ++ '.' :: paddedDigits after (d.digits % unit)

/-- One digit before the point, and no point if it is the only one. -/
def scientific (d : Decimal) : List Char :=
  let after := d.count - 1
  let unit := Nat.pow 10 after
  let point := if after = 0 then [] else '.' :: paddedDigits after (d.digits % unit)
  let sign := if d.leading < 0 then '-' else '+'
  paddedDigits 1 (d.digits / unit) ++ point ++ 'e' :: sign :: Nat.toDigits 10 d.leading.natAbs

def signedChars (x : Binary64) (magnitude : List Char) : List Char :=
  if x.negative then '-' :: magnitude else magnitude

def plainChars (x : Binary64) : List Char :=
  x.signedChars (positional x.shortest)

end BuildPeer.Binary64
