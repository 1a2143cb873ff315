import BuildPeer.Binary64.Shortest
import BuildPeer.Proofs.Binary64.Rounding

/-!
What the shortest decimal says about its number. The decimals that round to a number are those
between the middles to its two neighbours, so no decimal rounds to two numbers. Of the decimals with
seventeen digits some round to any number, since they stand closer together than the numbers do; so
there is a shortest one.
-/

namespace BuildPeer.Binary64

def Decimal.value (d : Decimal) : ℚ :=
  d.digits * 10 ^ d.place

/-- How far below a number its lower middle lies, in quarters of its unit. -/
def lowGap (x : Binary64) : ℕ :=
  if x.significand = 2 ^ 52 ∧ leastExponent < x.exponent then 1 else 2

def lowEnd (x : Binary64) : ℚ :=
  (4 * x.significand - x.lowGap) * 2 ^ (x.exponent - 2)

def highEnd (x : Binary64) : ℚ :=
  (4 * x.significand + 2) * 2 ^ (x.exponent - 2)

/-- A value rounds to a number: it is between its ends, and at an end only if the significand is
even. -/
structure Rounds (x : Binary64) (v : ℚ) : Prop where
  low : x.lowEnd ≤ v
  high : v ≤ x.highEnd
  inside : x.significand % 2 = 1 → x.lowEnd < v ∧ v < x.highEnd

variable {x y : Binary64} {v : ℚ}

theorem lowGap_cases (x : Binary64) :
    x.lowGap = 2 ∨ x.lowGap = 1 ∧ x.significand = 2 ^ 52 := by
  unfold lowGap
  split
  · rename_i full
    exact .inr ⟨rfl, full.1⟩
  · exact .inl rfl

theorem unit_positive (e : ℤ) : (0 : ℚ) < 2 ^ e :=
  zpow_pos (by norm_num) e

theorem rounds_of_inside (low : x.lowEnd < v) (high : v < x.highEnd) : x.Rounds v :=
  ⟨low.le, high.le, fun _ => ⟨low, high⟩⟩

theorem cleared_iff (n digits : ℕ) (e place : ℤ) :
    (n * (2 ^ e.toNat * 10 ^ (-place).toNat) ≤ digits * 10 ^ place.toNat * 2 ^ (-e).toNat ↔
        (n * 2 ^ e : ℚ) ≤ digits * 10 ^ place) ∧
      (digits * 10 ^ place.toNat * 2 ^ (-e).toNat ≤ n * (2 ^ e.toNat * 10 ^ (-place).toNat) ↔
        (digits * 10 ^ place : ℚ) ≤ n * 2 ^ e) := by
  have two := zpow_mul_toNat 2 (by decide) e
  have ten := zpow_mul_toNat 10 (by decide) place
  push_cast at two ten
  let factor : ℚ := 2 ^ (-e).toNat * 10 ^ (-place).toNat
  have positive : 0 < factor := by positivity
  have units : ((n * (2 ^ e.toNat * 10 ^ (-place).toNat) : ℕ) : ℚ) = n * 2 ^ e * factor := by
    push_cast
    rw [← two]
    ring
  have decimal : ((digits * 10 ^ place.toNat * 2 ^ (-e).toNat : ℕ) : ℚ) =
      digits * 10 ^ place * factor := by
    push_cast
    rw [← ten]
    ring
  rw [← Nat.cast_le (α := ℚ), ← Nat.cast_le (α := ℚ), units, decimal,
    mul_le_mul_iff_left₀ positive, mul_le_mul_iff_left₀ positive]
  exact ⟨Iff.rfl, Iff.rfl⟩

theorem holds_iff (some_ : 0 < x.significand) (digits : ℕ) (place : ℤ) :
    x.holds digits place = true ↔ x.Rounds (digits * 10 ^ place) := by
  have gap : x.lowGap ≤ 4 * x.significand := by
    have cases := x.lowGap_cases
    omega
  obtain ⟨lowLe, leLow⟩ :=
    cleared_iff (4 * x.significand - x.lowGap) digits (x.exponent - 2) place
  obtain ⟨highLe, leHigh⟩ := cleared_iff (4 * x.significand + 2) digits (x.exponent - 2) place
  push_cast [Nat.cast_sub gap] at lowLe leLow highLe leHigh
  rw [← lowEnd] at lowLe leLow
  rw [← highEnd] at highLe leHigh
  let unit := 2 ^ (x.exponent - 2).toNat * 10 ^ (-place).toNat
  let decimal := digits * 10 ^ place.toNat * 2 ^ (-(x.exponent - 2)).toNat
  change (if x.significand % 2 = 0 then
      decide ((4 * x.significand - x.lowGap) * unit ≤ decimal) &&
        decide (decimal ≤ (4 * x.significand + 2) * unit)
    else decide ((4 * x.significand - x.lowGap) * unit < decimal) &&
        decide (decimal < (4 * x.significand + 2) * unit)) = true ↔ _
  split
  · rename_i even
    rw [Bool.and_eq_true, decide_eq_true_eq, decide_eq_true_eq, lowLe, leHigh]
    exact ⟨fun ends => ⟨ends.1, ends.2, fun odd => by omega⟩, fun rounds => ⟨rounds.low, rounds.high⟩⟩
  · rename_i odd
    rw [Bool.and_eq_true, decide_eq_true_eq, decide_eq_true_eq, ← not_le, ← not_le, leLow, highLe,
      not_le, not_le]
    exact ⟨fun ends => rounds_of_inside ends.1 ends.2, fun rounds => rounds.inside (by omega)⟩

-- No value rounds to two numbers.

/-- If a value rounds to two numbers, the lower end of one is not above the upper end of the other; and
it is below if one of the significands is odd. -/
theorem Rounds.meet (first : x.Rounds v) (second : y.Rounds v) :
    y.lowEnd ≤ x.highEnd ∧
      (x.significand % 2 = 1 ∨ y.significand % 2 = 1 → y.lowEnd < x.highEnd) := by
  refine ⟨second.low.trans first.high, ?_⟩
  rintro (odd | odd)
  · exact second.low.trans_lt (first.inside odd).2
  · exact (second.inside odd).1.trans_le first.high

theorem Rounds.not_less (first : x.Rounds v) (second : y.Rounds v)
    (same : x.exponent = y.exponent) : ¬x.significand < y.significand := by
  intro less
  obtain ⟨meet, strict⟩ := first.meet second
  have unit := unit_positive (y.exponent - 2)
  simp only [lowEnd, highEnd, same, mul_le_mul_iff_left₀ unit, mul_lt_mul_iff_left₀ unit] at meet strict
  have meet : 4 * y.significand ≤ 4 * x.significand + 2 + y.lowGap := by
    have sum := sub_le_iff_le_add.mp meet
    exact_mod_cast sum
  have strict (odd : x.significand % 2 = 1 ∨ y.significand % 2 = 1) :
      4 * y.significand < 4 * x.significand + 2 + y.lowGap := by
    have sum := sub_lt_iff_lt_add.mp (strict odd)
    exact_mod_cast sum
  have cases := y.lowGap_cases
  omega

theorem Rounds.not_lower (first : x.Rounds v) (second : y.Rounds v) (wellFormed : x.WellFormed)
    (other : y.WellFormed) : ¬x.exponent < y.exponent := by
  intro lower
  obtain ⟨meet, strict⟩ := first.meet second
  have small := wellFormed.significand
  have notLeast : leastExponent < y.exponent := wellFormed.lowest.trans_lt lower
  have normal : 2 ^ 52 ≤ y.significand := other.normal.resolve_right notLeast.ne'
  have gap : y.lowGap = if y.significand = 2 ^ 52 then 1 else 2 := by
    simp [lowGap, notLeast]
  have gapSmall : (0 : ℚ) ≤ 4 * y.significand - y.lowGap := by
    have : y.lowGap ≤ 4 * y.significand := by split at gap <;> omega
    rw [sub_nonneg]
    exact_mod_cast this
  -- The unit of the greater one is at least two of the units of the smaller one.
  have unit := unit_positive (x.exponent - 2)
  have units : (2 : ℚ) * 2 ^ (x.exponent - 2) ≤ 2 ^ (y.exponent - 2) := by
    rw [← zpow_one_add₀ (by norm_num)]
    exact zpow_le_zpow_right₀ (by norm_num) (by omega)
  have scaled : (4 * y.significand - y.lowGap) * 2 * 2 ^ (x.exponent - 2) ≤ y.lowEnd := by
    rw [mul_assoc]
    exact mul_le_mul_of_nonneg_left units gapSmall
  have meet : 4 * y.significand * 2 ≤ 4 * x.significand + 2 + y.lowGap * 2 := by
    have both := (mul_le_mul_iff_left₀ unit).mp (scaled.trans meet)
    rw [sub_mul, sub_le_iff_le_add] at both
    exact_mod_cast both
  have strict (odd : x.significand % 2 = 1) :
      4 * y.significand * 2 < 4 * x.significand + 2 + y.lowGap * 2 := by
    have both := (mul_lt_mul_iff_left₀ unit).mp (scaled.trans_lt (strict (.inl odd)))
    rw [sub_mul, sub_lt_iff_lt_add] at both
    exact_mod_cast both
  split at gap <;> omega

theorem Rounds.unique (first : x.Rounds v) (second : y.Rounds v) (wellFormed : x.WellFormed)
    (other : y.WellFormed) : x.significand = y.significand ∧ x.exponent = y.exponent := by
  have same : x.exponent = y.exponent :=
    le_antisymm (not_lt.mp (second.not_lower first other wellFormed))
      (not_lt.mp (first.not_lower second wellFormed other))
  exact ⟨le_antisymm (not_lt.mp (second.not_less first same.symm)) (not_lt.mp (first.not_less second same)),
    same⟩

-- The power of ten below a quotient.

/-- The guess of a power of ten from a power of two is at most one too high. The ratio that the guess
takes for the logarithm of two lies between 59/196 and 28/93 closely enough. -/
theorem guess_le {k : ℤ} (low : -1074 ≤ k) (high : k ≤ 1023) :
    (10 : ℚ) ^ (k * 30103 / 100000 - 1) ≤ 2 ^ k := by
  generalize guessed : k * 30103 / 100000 - 1 = e
  rcases le_or_gt 0 e with up | down
  · obtain ⟨n, rfl⟩ := Int.eq_ofNat_of_zero_le up
    obtain ⟨m, rfl⟩ := Int.eq_ofNat_of_zero_le (by omega : 0 ≤ k)
    rw [zpow_natCast, zpow_natCast, ← pow_le_pow_iff_left₀ (n := 59) (by positivity) (by positivity)
      (by decide)]
    calc ((10 : ℚ) ^ n) ^ 59 = (10 ^ 59) ^ n := pow_right_comm _ _ _
      _ ≤ (2 ^ 196) ^ n := by gcongr; norm_num
      _ = 2 ^ (196 * n) := (pow_mul _ _ _).symm
      _ ≤ 2 ^ (m * 59) := pow_le_pow_right₀ (by norm_num) (by omega)
      _ = (2 ^ m) ^ 59 := pow_mul _ _ _
  · obtain ⟨n, negated⟩ := Int.eq_ofNat_of_zero_le (by omega : 0 ≤ -e)
    obtain rfl : e = -(n : ℤ) := by omega
    rcases le_or_gt 0 k with natural | negative
    · exact (zpow_le_one_of_nonpos₀ (by norm_num) (by omega)).trans
        (one_le_zpow₀ (by norm_num) natural)
    · obtain ⟨m, negated⟩ := Int.eq_ofNat_of_zero_le (by omega : 0 ≤ -k)
      obtain rfl : k = -(m : ℤ) := by omega
      rw [zpow_neg, zpow_neg, zpow_natCast, zpow_natCast]
      refine inv_anti₀ (by positivity) ?_
      rw [← pow_le_pow_iff_left₀ (n := 93) (by positivity) (by positivity) (by decide)]
      calc ((2 : ℚ) ^ m) ^ 93 = (2 ^ 93) ^ m := pow_right_comm _ _ _
        _ ≤ (10 ^ 28) ^ m := by gcongr; norm_num
        _ = 10 ^ (28 * m) := (pow_mul _ _ _).symm
        _ ≤ 10 ^ (n * 93) := pow_le_pow_right₀ (by norm_num) (by omega)
        _ = (10 ^ n) ^ 93 := pow_mul _ _ _

theorem log10_le {num den : ℕ} (some_ : 0 < num) (positive : 0 < den)
    (low : -1074 ≤ log2 num den) (high : log2 num den ≤ 1023) :
    (10 : ℚ) ^ log10 num den ≤ num / den := by
  have compare (e : ℤ) := lt_zpow_iff 10 (by decide) num positive e
  simp only [log10, Nat.pow_eq, decide_eq_true_eq]
  split
  · exact (guess_le low high).trans (log2_spec some_ positive).1
  · rename_i notBelow
    split
    · exact not_lt.mp fun less => notBelow ((compare _).mpr less)
    · rename_i notBelow
      exact not_lt.mp fun less => notBelow ((compare _).mpr less)

-- The decimals that are tried.

theorem magnitude_positive (some_ : 0 < x.significand) : 0 < x.magnitude :=
  mul_pos (Nat.cast_pos.mpr some_) (unit_positive _)

theorem magnitude_eq_quarters (x : Binary64) :
    x.magnitude = 4 * x.significand * 2 ^ (x.exponent - 2) := by
  rw [magnitude, zpow_sub₀ (by norm_num)]
  ring

theorem low_lt_magnitude (x : Binary64) : x.lowEnd < x.magnitude := by
  have unit := unit_positive (x.exponent - 2)
  have gap : 0 < (x.lowGap : ℚ) := by
    have cases := x.lowGap_cases
    exact_mod_cast (by omega : 0 < x.lowGap)
  rw [magnitude_eq_quarters, lowEnd, mul_lt_mul_iff_left₀ unit]
  linarith

theorem magnitude_lt_high (x : Binary64) : x.magnitude < x.highEnd := by
  have unit := unit_positive (x.exponent - 2)
  rw [magnitude_eq_quarters, highEnd, mul_lt_mul_iff_left₀ unit]
  linarith

def lastPlace (x : Binary64) (count : ℕ) : ℤ :=
  log10 x.quotient.1 x.quotient.2 - count + 1

def floorDigits (x : Binary64) (count : ℕ) : ℕ :=
  x.quotient.1 * 10 ^ (-x.lastPlace count).toNat / (x.quotient.2 * 10 ^ (x.lastPlace count).toNat)

theorem floorDigits_spec (x : Binary64) (count : ℕ) :
    x.floorDigits count * 10 ^ x.lastPlace count ≤ x.magnitude ∧
      x.magnitude < (x.floorDigits count + 1) * 10 ^ x.lastPlace count := by
  have den : 0 < x.quotient.2 * 10 ^ (x.lastPlace count).toNat :=
    Nat.mul_pos x.quotient_positive (Nat.pow_pos (by decide))
  have compare (n : ℕ) := scaled_lt 10 (by decide) x.quotient.1 x.quotient_positive
    (x.lastPlace count) n
  simp only [quotient_eq] at compare
  constructor
  · refine not_lt.mp fun less => ?_
    exact absurd ((compare _).mpr less) (not_lt.mpr (Nat.div_mul_le_self _ _))
  · have above := (compare (x.floorDigits count + 1)).mp ((Nat.div_lt_iff_lt_mul den).mp (Nat.lt_succ_self _))
    exact_mod_cast above

theorem decimal?_eq (x : Binary64) (count : ℕ) :
    ∃ below even : Bool, x.decimal? count =
      if x.holds (x.floorDigits count) (x.lastPlace count) &&
          (!x.holds (x.floorDigits count + 1) (x.lastPlace count) || below || even) then
        some ⟨x.floorDigits count, count, x.lastPlace count⟩
      else if x.holds (x.floorDigits count + 1) (x.lastPlace count) then
        if x.floorDigits count + 1 = 10 ^ count then
          some ⟨10 ^ (count - 1), count, x.lastPlace count + 1⟩
        else some ⟨x.floorDigits count + 1, count, x.lastPlace count⟩
      else none :=
  ⟨_, _, rfl⟩

theorem decimal?_rounds (some_ : 0 < x.significand) {count : ℕ} (digits : 0 < count)
    {d : Decimal} (found : x.decimal? count = some d) : d.count = count ∧ x.Rounds d.value := by
  obtain ⟨below, even, same⟩ := x.decimal?_eq count
  rw [same] at found
  split at found
  · rename_i taken
    cases found
    exact ⟨rfl, (holds_iff some_ _ _).mp (Bool.and_elim_left taken)⟩
  · split at found
    · rename_i upper
      have rounds := (holds_iff some_ _ _).mp upper
      split at found
      · rename_i full
        cases found
        refine ⟨rfl, ?_⟩
        -- The digits carry: they are those of the next power of ten.
        have carried : ((10 ^ (count - 1) : ℕ) : ℚ) * 10 ^ (x.lastPlace count + 1) =
            (x.floorDigits count + 1 : ℕ) * 10 ^ x.lastPlace count := by
          obtain ⟨n, rfl⟩ := Nat.exists_eq_add_one_of_ne_zero digits.ne'
          rw [full, zpow_add_one₀ (by norm_num), Nat.add_sub_cancel]
          push_cast
          ring
        rw [Decimal.value, carried]
        exact rounds
      · cases found
        exact ⟨rfl, rounds⟩
    · cases found

theorem decimal?_none (some_ : 0 < x.significand) {count : ℕ} (none_ : x.decimal? count = none) :
    ¬x.Rounds (x.floorDigits count * 10 ^ x.lastPlace count) ∧
      ¬x.Rounds ((x.floorDigits count + 1) * 10 ^ x.lastPlace count) := by
  have lower := holds_iff some_ (x.floorDigits count) (x.lastPlace count)
  have upper := holds_iff some_ (x.floorDigits count + 1) (x.lastPlace count)
  obtain ⟨below, even, same⟩ := x.decimal?_eq count
  push_cast at upper
  rw [same] at none_
  rw [← lower, ← upper]
  split at none_
  · cases none_
  · rename_i notLower
    split at none_
    · split at none_ <;> cases none_
    · rename_i notUpper
      refine ⟨fun holds => notLower ?_, notUpper⟩
      simp [holds, notUpper]

theorem WellFormed.log2_bounds (wellFormed : x.WellFormed) (some_ : 0 < x.significand) :
    0 < x.quotient.1 ∧ -1074 ≤ log2 x.quotient.1 x.quotient.2 ∧
      log2 x.quotient.1 x.quotient.2 ≤ 1023 := by
  have positive : 0 < x.quotient.1 := Nat.mul_pos some_ (Nat.pow_pos (by decide))
  obtain ⟨low, high⟩ := log2_spec positive x.quotient_positive
  rw [quotient_eq, magnitude] at low high
  have two : (1 : ℚ) < 2 := by norm_num
  have unit := unit_positive x.exponent
  have lowest := wellFormed.lowest
  have highest := wellFormed.highest
  have small : (x.significand : ℚ) < 2 ^ (53 : ℤ) := by exact_mod_cast wellFormed.significand
  have one : (1 : ℚ) ≤ x.significand := by exact_mod_cast some_
  simp only [leastExponent, greatestExponent] at lowest highest
  refine ⟨positive, ?_, ?_⟩
  · have above : (2 : ℚ) ^ (-1074 : ℤ) < 2 ^ (log2 x.quotient.1 x.quotient.2 + 1) := by
      calc (2 : ℚ) ^ (-1074 : ℤ) ≤ 2 ^ x.exponent := zpow_le_zpow_right₀ two.le lowest
        _ ≤ x.significand * 2 ^ x.exponent := le_mul_of_one_le_left unit.le one
        _ < _ := high
    have exponents := (zpow_lt_zpow_iff_right₀ two).mp above
    omega
  · have below : (2 : ℚ) ^ log2 x.quotient.1 x.quotient.2 < 2 ^ (1024 : ℤ) := by
      calc (2 : ℚ) ^ log2 x.quotient.1 x.quotient.2 ≤ x.significand * 2 ^ x.exponent := low
        _ < 2 ^ (53 : ℤ) * 2 ^ x.exponent := mul_lt_mul_of_pos_right small unit
        _ = 2 ^ (53 + x.exponent) := (zpow_add₀ (by norm_num) _ _).symm
        _ ≤ 2 ^ (1024 : ℤ) := zpow_le_zpow_right₀ two.le (by omega)
    have exponents := (zpow_lt_zpow_iff_right₀ two).mp below
    omega

/-- Seventeen digits are enough for every number. -/
theorem decimal?_seventeen (wellFormed : x.WellFormed) (some_ : 0 < x.significand) :
    x.decimal? 17 ≠ none := by
  intro none_
  obtain ⟨notLower, notUpper⟩ := decimal?_none some_ none_
  obtain ⟨below, above⟩ := x.floorDigits_spec 17
  obtain ⟨positive, low, high⟩ := wellFormed.log2_bounds some_
  have unit := unit_positive (x.exponent - 2)
  -- Neither decimal lies between the ends, so the two are farther apart than the ends are.
  have outside (w : ℚ) (not : ¬x.Rounds w) : w ≤ x.lowEnd ∨ x.highEnd ≤ w := by
    by_contra inside
    obtain ⟨left, right⟩ := not_or.mp inside
    exact not (rounds_of_inside (not_le.mp left) (not_le.mp right))
  have lower := (outside _ notLower).resolve_right
    (not_le.mpr (below.trans_lt x.magnitude_lt_high))
  have upper := (outside _ notUpper).resolve_left
    (not_le.mpr (x.low_lt_magnitude.trans above))
  have apart : (2 + x.lowGap) * 2 ^ (x.exponent - 2) ≤ (10 : ℚ) ^ x.lastPlace 17 := by
    simp only [lowEnd, highEnd] at lower upper
    linarith
  -- But the seventeenth digit of a number counts less than that.
  have first := log10_le positive x.quotient_positive low high
  rw [quotient_eq, magnitude_eq_quarters] at first
  have place : log10 x.quotient.1 x.quotient.2 = x.lastPlace 17 + 16 := by
    simp only [lastPlace]
    omega
  rw [place, zpow_add₀ (by norm_num)] at first
  have all : (2 + x.lowGap) * (10 : ℚ) ^ (16 : ℤ) ≤ 4 * x.significand := by
    refine le_of_mul_le_mul_right ?_ unit
    calc (2 + x.lowGap) * (10 : ℚ) ^ (16 : ℤ) * 2 ^ (x.exponent - 2)
        = (2 + x.lowGap) * 2 ^ (x.exponent - 2) * 10 ^ (16 : ℤ) := by ring
      _ ≤ 10 ^ x.lastPlace 17 * 10 ^ (16 : ℤ) := by gcongr
      _ ≤ 4 * x.significand * 2 ^ (x.exponent - 2) := first
  have all : (2 + x.lowGap) * 10 ^ 16 ≤ 4 * x.significand := by exact_mod_cast all
  have small := wellFormed.significand
  have cases := x.lowGap_cases
  omega

/-- The shortest decimal of a number rounds to it. -/
theorem shortest_rounds (wellFormed : x.WellFormed) (some_ : 0 < x.significand) :
    0 < x.shortest.count ∧ x.Rounds x.shortest.value := by
  have notZero : ¬x.isZero = true := by
    rw [isZero, beq_iff_eq]
    exact some_.ne'
  rw [shortest, if_neg notZero]
  cases found : (List.range 17).findSome? fun n => x.decimal? (n + 1) with
  | none =>
      have all := List.findSome?_eq_none_iff.mp found
      exact absurd (all 16 (by decide)) (decimal?_seventeen wellFormed some_)
  | some d =>
      obtain ⟨n, -, here⟩ := List.exists_of_findSome?_eq_some found
      obtain ⟨count, rounds⟩ := decimal?_rounds some_ n.succ_pos here
      exact ⟨by rw [Option.getD_some, count]; exact n.succ_pos, rounds⟩

theorem shortest_zero (zero : x.significand = 0) : x.shortest = ⟨0, 1, 0⟩ := by
  rw [shortest, if_pos (by rw [isZero, zero]; rfl)]

theorem shortest_count (wellFormed : x.WellFormed) : 0 < x.shortest.count := by
  rcases Nat.eq_zero_or_pos x.significand with zero | some_
  · rw [shortest_zero zero]
    decide
  · exact (shortest_rounds wellFormed some_).1

theorem lowEnd_positive (some_ : 0 < x.significand) : 0 < x.lowEnd := by
  refine mul_pos ?_ (unit_positive _)
  have cases := x.lowGap_cases
  rw [sub_pos]
  exact_mod_cast (by omega : x.lowGap < 4 * x.significand)

theorem shortest_value_eq_zero_iff (wellFormed : x.WellFormed) :
    x.shortest.value = 0 ↔ x.significand = 0 := by
  constructor
  · intro nothing
    by_contra some_
    have positive : 0 < x.significand := Nat.pos_of_ne_zero some_
    have rounds := (shortest_rounds wellFormed positive).2
    rw [nothing] at rounds
    exact absurd rounds.low (not_le.mpr (lowEnd_positive positive))
  · intro zero
    rw [shortest_zero zero, Decimal.value]
    simp

/-- The shortest decimal and the sign tell a number from all others. -/
theorem eq_of_shortest (wellFormed : x.WellFormed) (other : y.WellFormed)
    (sign : x.negative = y.negative) (same : x.shortest.value = y.shortest.value) : x = y := by
  have fields : x.significand = y.significand ∧ x.exponent = y.exponent := by
    rcases Nat.eq_zero_or_pos x.significand with zero | some_
    · have otherZero : y.significand = 0 := by
        rw [← shortest_value_eq_zero_iff other, ← same, shortest_value_eq_zero_iff wellFormed]
        exact zero
      have normal := wellFormed.normal
      have otherNormal := other.normal
      omega
    · have otherSome : 0 < y.significand := by
        refine Nat.pos_of_ne_zero fun otherZero => some_.ne' ?_
        rw [← shortest_value_eq_zero_iff wellFormed, same, shortest_value_eq_zero_iff other]
        exact otherZero
      have first := (shortest_rounds wellFormed some_).2
      have second := (shortest_rounds other otherSome).2
      rw [← same] at second
      exact first.unique second wellFormed other
  cases x
  cases y
  simp only [mk.injEq]
  exact ⟨sign, fields⟩

end BuildPeer.Binary64
