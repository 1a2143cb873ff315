import BuildPeer.Binary64
import Mathlib.Algebra.Order.Field.Power
import Mathlib.Data.Rat.Cast.Order
import Mathlib.Tactic.FieldSimp
import Mathlib.Tactic.Linarith
import Mathlib.Tactic.Positivity
import Mathlib.Tactic.Ring

/-!
Rounding quotients of naturals. The arithmetic on naturals is that of the rationals they stand for:
comparing with a power, whose exponent may be negative, clears it on both sides. A rounded quotient
is well formed: it has 53 bits, or the least exponent.
-/

namespace BuildPeer.Binary64

/-- The fields of a number: the significand has 53 bits, or the exponent is the least. -/
structure WellFormed (x : Binary64) : Prop where
  significand : x.significand < 2 ^ 53
  lowest : leastExponent ≤ x.exponent
  highest : x.exponent ≤ greatestExponent
  normal : 2 ^ 52 ≤ x.significand ∨ x.exponent = leastExponent

def magnitude (x : Binary64) : ℚ :=
  x.significand * 2 ^ x.exponent

-- Powers with exponents of either sign.

theorem zpow_mul_toNat (base : ℕ) (positive : 0 < base) (e : ℤ) :
    (base : ℚ) ^ e * base ^ (-e).toNat = base ^ e.toNat := by
  have nonzero : (base : ℚ) ≠ 0 := Nat.cast_ne_zero.mpr positive.ne'
  rcases le_total 0 e with up | down
  · obtain ⟨n, rfl⟩ := Int.eq_ofNat_of_zero_le up
    simp
  · obtain ⟨n, same⟩ := Int.eq_ofNat_of_zero_le (Int.neg_nonneg_of_nonpos down)
    obtain rfl : e = -(n : ℤ) := by omega
    simp [nonzero]

/-- A quotient is compared with a multiple of a power by clearing the denominators of both. -/
theorem scaled_lt (base : ℕ) (positive : 0 < base) (num : ℕ) {den : ℕ} (some_ : 0 < den) (e : ℤ)
    (n : ℕ) :
    num * base ^ (-e).toNat < n * (den * base ^ e.toNat) ↔ (num / den : ℚ) < n * base ^ e := by
  have denPositive : (0 : ℚ) < den := Nat.cast_pos.mpr some_
  have basePositive : (0 : ℚ) < (base : ℚ) ^ (-e).toNat := pow_pos (Nat.cast_pos.mpr positive) _
  have cleared : (n * base ^ e * den * base ^ (-e).toNat : ℚ) = n * (den * base ^ e.toNat) := by
    rw [← zpow_mul_toNat base positive e]
    ring
  rw [div_lt_iff₀ denPositive, ← mul_lt_mul_iff_left₀ basePositive, cleared,
    ← Nat.cast_lt (α := ℚ)]
  push_cast
  rfl

theorem lt_zpow_iff (base : ℕ) (positive : 0 < base) (num : ℕ) {den : ℕ} (some_ : 0 < den) (e : ℤ) :
    num * base ^ (-e).toNat < den * base ^ e.toNat ↔ (num / den : ℚ) < base ^ e := by
  simpa using scaled_lt base positive num some_ e 1

theorem quotient_positive (x : Binary64) : 0 < x.quotient.2 :=
  Nat.pow_pos (by decide)

theorem quotient_eq (x : Binary64) : (x.quotient.1 / x.quotient.2 : ℚ) = x.magnitude := by
  have positive : (0 : ℚ) < 2 ^ (-x.exponent).toNat := by positivity
  have cleared := zpow_mul_toNat 2 (by decide) x.exponent
  simp only [quotient, magnitude, Nat.pow_eq, Nat.cast_mul, Nat.cast_pow, Nat.cast_ofNat] at cleared ⊢
  rw [div_eq_iff positive.ne', mul_assoc, cleared]

-- The power of two below a quotient.

theorem log2_spec {num den : ℕ} (some_ : 0 < num) (positive : 0 < den) :
    (2 : ℚ) ^ log2 num den ≤ num / den ∧ (num / den : ℚ) < 2 ^ (log2 num den + 1) := by
  have two : (0 : ℚ) < 2 := by norm_num
  have denPositive : (0 : ℚ) < den := Nat.cast_pos.mpr positive
  have numLow : (2 : ℚ) ^ (Nat.log2 num : ℤ) ≤ num := by
    exact_mod_cast Nat.log2_self_le some_.ne'
  have numHigh : (num : ℚ) < 2 ^ ((Nat.log2 num : ℤ) + 1) := by
    exact_mod_cast Nat.lt_log2_self
  have denLow : (2 : ℚ) ^ (Nat.log2 den : ℤ) ≤ den := by
    exact_mod_cast Nat.log2_self_le positive.ne'
  have denHigh : (den : ℚ) < 2 ^ ((Nat.log2 den : ℤ) + 1) := by
    exact_mod_cast Nat.lt_log2_self
  have compare := lt_zpow_iff 2 (by decide) num positive
    ((Nat.log2 num : ℤ) - Nat.log2 den)
  simp only [log2, Nat.pow_eq]
  generalize (Nat.log2 num : ℤ) = a at *
  generalize (Nat.log2 den : ℤ) = b at *
  split
  · rename_i below
    refine ⟨?_, ?_⟩
    · rw [le_div_iff₀ denPositive]
      calc (2 : ℚ) ^ (a - b - 1) * den
          ≤ 2 ^ (a - b - 1) * 2 ^ (b + 1) := by gcongr
        _ = 2 ^ a := by rw [← zpow_add₀ two.ne']; congr 1; ring
        _ ≤ num := numLow
    · rw [sub_add_cancel]
      exact compare.mp below
  · rename_i notBelow
    refine ⟨not_lt.mp (fun less => notBelow (compare.mpr less)), ?_⟩
    rw [div_lt_iff₀ denPositive]
    calc (num : ℚ) < 2 ^ (a + 1) := numHigh
      _ = 2 ^ (a - b + 1) * 2 ^ b := by rw [← zpow_add₀ two.ne']; congr 1; ring
      _ ≤ 2 ^ (a - b + 1) * den := by gcongr

-- The nearest whole number.

theorem le_nearest {num den a : ℕ} (positive : 0 < den) (low : a * den ≤ num) :
    a ≤ nearest num den := by
  have floor : a ≤ num / den := (Nat.le_div_iff_mul_le positive).mpr low
  simp only [nearest]
  split
  · exact floor
  · split <;> omega

theorem nearest_le {num den b : ℕ} (positive : 0 < den) (high : num < b * den) :
    nearest num den ≤ b := by
  have floor : num / den < b := (Nat.div_lt_iff_lt_mul positive).mpr high
  simp only [nearest]
  split
  · omega
  · split <;> omega

-- Rounded quotients.

theorem zero_wellFormed : zero.WellFormed := by
  refine ⟨?_, ?_, ?_, ?_⟩ <;> decide

theorem neg_wellFormed {x : Binary64} (wellFormed : x.WellFormed) : x.neg.WellFormed :=
  ⟨wellFormed.significand, wellFormed.lowest, wellFormed.highest, wellFormed.normal⟩

theorem ofQuotient?_wellFormed {num den : ℕ} (positive : 0 < den) {x : Binary64}
    (rounded : ofQuotient? num den = some x) : x.WellFormed := by
  unfold ofQuotient? at rounded
  split at rounded
  · cases rounded
    exact zero_wellFormed
  · rename_i some_
    obtain ⟨low, high⟩ := log2_spec (Nat.pos_of_ne_zero some_) positive
    have one : (1 : ℚ) ≤ 2 := by norm_num
    have two : (0 : ℚ) < 2 := by norm_num
    simp only [Nat.pow_eq] at rounded
    generalize exact_ : max (log2 num den - 52) leastExponent = e at rounded
    have denominator : 0 < den * 2 ^ e.toNat := Nat.mul_pos positive (Nat.pow_pos (by decide))
    have lowest : leastExponent ≤ e := by omega
    -- The quotient is below 2^53 units, and is at least 2^52 of them unless the exponent is the least.
    have within : nearest (num * 2 ^ (-e).toNat) (den * 2 ^ e.toNat) ≤ 2 ^ 53 := by
      refine nearest_le denominator
        ((scaled_lt 2 (by decide) num positive e _).mpr (high.trans_le ?_))
      rw [Nat.cast_pow, Nat.cast_ofNat, ← zpow_natCast, ← zpow_add₀ two.ne']
      exact zpow_le_zpow_right₀ one (by omega)
    have normal : 2 ^ 52 ≤ nearest (num * 2 ^ (-e).toNat) (den * 2 ^ e.toNat) ∨
        e = leastExponent := by
      by_cases least : e = leastExponent
      · exact .inr least
      · refine .inl (le_nearest denominator (not_lt.mp fun less => ?_))
        have below := (scaled_lt 2 (by decide) num positive e _).mp less
        have same : (52 : ℕ) + e = log2 num den := by omega
        rw [Nat.cast_pow, Nat.cast_ofNat, ← zpow_natCast, ← zpow_add₀ two.ne', same] at below
        exact absurd below (not_lt.mpr low)
    generalize nearest (num * 2 ^ (-e).toNat) (den * 2 ^ e.toNat) = s at rounded within normal
    split at rounded
    · split at rounded
      · cases rounded
      · rename_i inRange
        cases rounded
        exact ⟨Nat.pow_lt_pow_right (by decide) (by decide), by dsimp only; omega, not_lt.mp inRange,
          .inl le_rfl⟩
    · rename_i notFull
      split at rounded
      · cases rounded
      · rename_i inRange
        cases rounded
        exact ⟨lt_of_le_of_ne within notFull, lowest, not_lt.mp inRange, normal⟩

theorem ofNat_wellFormed (n : ℕ) : (ofNat n).WellFormed := by
  unfold ofNat
  cases rounded : ofQuotient? n 1 with
  | none => exact zero_wellFormed
  | some x => exact ofQuotient?_wellFormed (by decide) rounded

theorem mul?_wellFormed {x y z : Binary64} (product : x.mul? y = some z) : z.WellFormed :=
  ofQuotient?_wellFormed (Nat.mul_pos x.quotient_positive y.quotient_positive) product

end BuildPeer.Binary64
