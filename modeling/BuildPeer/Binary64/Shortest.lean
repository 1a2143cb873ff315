import BuildPeer.Binary64

/-!
The shortest decimal of a number: the fewest significant digits that still round to it, and of
those decimals the one nearest to it. All decimals of one length and one leading place form a grid;
if a point of the grid rounds to the number then so does one of the two grid points next to it, so
only those two are tried.
-/

namespace BuildPeer.Binary64

/-- A decimal `digits * 10 ^ place`, with `digits` written in `count` digits. -/
structure Decimal where
  digits : Nat
  count : Nat
  place : Int
  deriving DecidableEq, Repr

def Decimal.leading (d : Decimal) : Int :=
  d.place + d.count - 1

def log10 (num den : Nat) : Int :=
  let guess : Int := (log2 num den * 30103) / 100000
  let below (e : Int) : Bool := num * Nat.pow 10 (-e).toNat < den * Nat.pow 10 e.toNat
  if below guess then guess - 1
  else if below (guess + 1) then guess
  else guess + 1

/-- Whether `digits * 10 ^ place` rounds to the magnitude of `x`. With `s` the significand and
`q` the exponent, the decimals that do lie between `s - 1/2` and `s + 1/2` times `2 ^ q`; below a
power of two the spacing halves, so the lower end is then `s - 1/4`. The ends count when `s` is
even. -/
def holds (x : Binary64) (digits : Nat) (place : Int) : Bool :=
  let s := x.significand
  let lowGap := if s = Nat.pow 2 52 ∧ leastExponent < x.exponent then 1 else 2
  let scale : Int := x.exponent - 2
  let decimal := digits * Nat.pow 10 place.toNat * Nat.pow 2 (-scale).toNat
  let unit := Nat.pow 2 scale.toNat * Nat.pow 10 (-place).toNat
  let low := (4 * s - lowGap) * unit
  let high := (4 * s + 2) * unit
  if s % 2 = 0 then low ≤ decimal && decimal ≤ high else low < decimal && decimal < high

def decimal? (x : Binary64) (count : Nat) : Option Decimal :=
  let (num, den) := x.quotient
  let place : Int := log10 num den - count + 1
  let num := num * Nat.pow 10 (-place).toNat
  let den := den * Nat.pow 10 place.toNat
  let floor := num / den
  let rest := num % den
  let lower := x.holds floor place
  let upper := x.holds (floor + 1) place
  if lower && (!upper || 2 * rest < den || (2 * rest == den && floor % 2 == 0)) then
    some ⟨floor, count, place⟩
  else if upper then
    -- One more than 99…9 has the digits of the next power of ten.
    if floor + 1 = Nat.pow 10 count then some ⟨Nat.pow 10 (count - 1), count, place + 1⟩
    else some ⟨floor + 1, count, place⟩
  else none

def shortest (x : Binary64) : Decimal :=
  if x.isZero then ⟨0, 1, 0⟩
  else ((List.range 17).findSome? fun n => x.decimal? (n + 1)).getD ⟨0, 1, 0⟩

end BuildPeer.Binary64
