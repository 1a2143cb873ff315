import BuildPeer.Json.Printer
import BuildPeer.Proofs.Binary64.Shortest
import BuildPeer.Proofs.Text.Numeral
import Mathlib.Data.List.TakeWhile

/-!
What the text of a number says. A decimal text denotes a rational, whichever of its forms it has, and
the text of a number denotes the shortest decimal of the number; so two numbers with one text are the
same number.
-/

namespace BuildPeer.Binary64

open Text (isDigit ne_of_isDigit)

def exponentOf : List Char → ℤ
  | '-' :: digits => -Nat.ofDigitChars 10 digits 0
  | _ :: digits => Nat.ofDigitChars 10 digits 0
  | [] => 0

def mantissaOf (text : List Char) : ℚ :=
  let behind := (text.dropWhile (· ≠ '.')).drop 1
  Nat.ofDigitChars 10 (text.takeWhile (· ≠ '.')) 0 +
    Nat.ofDigitChars 10 behind 0 / 10 ^ behind.length

/-- The number that a text without a sign denotes, with an exponent of ten at its end or none. -/
def denoted (text : List Char) : ℚ :=
  mantissaOf (text.takeWhile (· ≠ 'e')) * 10 ^ exponentOf ((text.dropWhile (· ≠ 'e')).drop 1)

-- Runs of digits.

theorem isDigit_paddedDigits {width n : ℕ} {c : Char} (member : c ∈ paddedDigits width n) :
    isDigit c = true := by
  rcases List.mem_append.mp member with zero | digit
  · rw [List.eq_of_mem_replicate zero]
    decide
  · exact Text.isDigit_toDigits digit

@[simp]
theorem ofDigitChars_paddedDigits (width n : ℕ) :
    Nat.ofDigitChars 10 (paddedDigits width n) 0 = n := by
  simp [paddedDigits, Nat.ofDigitChars_append, Nat.ofDigitChars_replicate_zero,
    Nat.ofDigitChars_ten_toDigits]

theorem paddedDigits_length {width n : ℕ} (some_ : 0 < width) (fits : n < 10 ^ width) :
    (paddedDigits width n).length = width := by
  have short : (Nat.toDigits 10 n).length ≤ width :=
    (Nat.length_toDigits_le_iff (by decide) some_).mpr fits
  simp only [paddedDigits, List.length_append, List.length_replicate]
  omega

theorem paddedDigits_cons (width n : ℕ) :
    ∃ c rest, paddedDigits width n = c :: rest ∧ isDigit c = true := by
  cases written : paddedDigits width n with
  | nil =>
      have none_ := (List.append_eq_nil_iff.mp written).2
      exact absurd none_ Nat.toDigits_ne_nil
  | cons c rest => exact ⟨c, rest, rfl, isDigit_paddedDigits (written ▸ List.mem_cons_self)⟩

-- Reading the two forms.

theorem mantissaOf_digits {text : List Char} (digits : ∀ c ∈ text, isDigit c = true) :
    mantissaOf text = Nat.ofDigitChars 10 text 0 := by
  have passed : ∀ c ∈ text, decide (c ≠ '.') = true := fun c member =>
    decide_eq_true (ne_of_isDigit (digits c member) rfl)
  rw [mantissaOf, List.takeWhile_eq_self_iff.mpr passed, List.dropWhile_eq_nil_iff.mpr passed]
  simp

theorem mantissaOf_point {whole part : List Char} (digits : ∀ c ∈ whole, isDigit c = true) :
    mantissaOf (whole ++ '.' :: part) =
      Nat.ofDigitChars 10 whole 0 + Nat.ofDigitChars 10 part 0 / 10 ^ part.length := by
  have passed : ∀ c ∈ whole, decide (c ≠ '.') = true := fun c member =>
    decide_eq_true (ne_of_isDigit (digits c member) rfl)
  rw [mantissaOf, List.takeWhile_append_of_pos passed, List.dropWhile_append_of_pos passed]
  simp

theorem denoted_mantissa {text : List Char} (plain : ∀ c ∈ text, c ≠ 'e') :
    denoted text = mantissaOf text := by
  have passed : ∀ c ∈ text, decide (c ≠ 'e') = true := fun c member =>
    decide_eq_true (plain c member)
  rw [denoted, List.takeWhile_eq_self_iff.mpr passed, List.dropWhile_eq_nil_iff.mpr passed]
  simp [exponentOf]

theorem denoted_exponent {mantissa exponent : List Char} (plain : ∀ c ∈ mantissa, c ≠ 'e') :
    denoted (mantissa ++ 'e' :: exponent) = mantissaOf mantissa * 10 ^ exponentOf exponent := by
  have passed : ∀ c ∈ mantissa, decide (c ≠ 'e') = true := fun c member =>
    decide_eq_true (plain c member)
  rw [denoted, List.takeWhile_append_of_pos passed, List.dropWhile_append_of_pos passed]
  simp

theorem split_at (n after : ℕ) :
    (n / 10 ^ after : ℕ) + ((n % 10 ^ after : ℕ) : ℚ) / 10 ^ after = n / 10 ^ after := by
  have whole := Nat.div_add_mod n (10 ^ after)
  have cast : (10 ^ after * (n / 10 ^ after : ℕ) + (n % 10 ^ after : ℕ) : ℚ) = n := by
    exact_mod_cast whole
  rw [eq_div_iff (by positivity), add_mul, div_mul_cancel₀ _ (by positivity)]
  linarith

theorem mantissaOf_split {n after : ℕ} (some_ : 0 < after) :
    mantissaOf (paddedDigits 1 (n / 10 ^ after) ++ '.' :: paddedDigits after (n % 10 ^ after)) =
      n / 10 ^ after := by
  rw [mantissaOf_point fun c => isDigit_paddedDigits, ofDigitChars_paddedDigits,
    ofDigitChars_paddedDigits, paddedDigits_length some_ (Nat.mod_lt _ (Nat.pow_pos (by decide))),
    split_at]

theorem plain_split (n m after : ℕ) :
    ∀ c ∈ paddedDigits 1 n ++ '.' :: paddedDigits after m, c ≠ 'e' := by
  intro c member
  rcases List.mem_append.mp member with digit | member
  · exact ne_of_isDigit (isDigit_paddedDigits digit) rfl
  · rcases List.mem_cons.mp member with rfl | digit
    · decide
    · exact ne_of_isDigit (isDigit_paddedDigits digit) rfl

theorem denoted_positional (d : Decimal) : denoted (positional d) = d.value := by
  unfold positional
  split
  · rename_i natural
    obtain ⟨n, place⟩ := Int.eq_ofNat_of_zero_le natural
    have digits : ∀ c ∈ paddedDigits d.count d.digits ++ List.replicate n '0', isDigit c = true := by
      intro c member
      rcases List.mem_append.mp member with digit | zero
      · exact isDigit_paddedDigits digit
      · rw [List.eq_of_mem_replicate zero]
        decide
    have plain : ∀ c ∈ paddedDigits d.count d.digits ++ List.replicate n '0' ++ ['.', '0'],
        c ≠ 'e' := by
      intro c member
      rcases List.mem_append.mp member with digit | member
      · exact ne_of_isDigit (digits c digit) rfl
      · have either : c = '.' ∨ c = '0' := by simpa using member
        rcases either with rfl | rfl <;> decide
    rw [Decimal.value, place, Int.toNat_natCast, denoted_mantissa plain, mantissaOf_point digits,
      Nat.ofDigitChars_append, ofDigitChars_paddedDigits, Nat.ofDigitChars_replicate_zero]
    simp [Nat.ofDigitChars_cons, mul_comm]
  · rename_i negative
    have place : d.place = -((-d.place).toNat : ℤ) := by omega
    have some_ : 0 < (-d.place).toNat := by omega
    generalize (-d.place).toNat = after at place some_
    simp only [Nat.pow_eq]
    rw [denoted_mantissa (plain_split _ _ _), mantissaOf_split some_, Decimal.value, place, zpow_neg,
      zpow_natCast, div_eq_mul_inv]

theorem exponentOf_written (e : ℤ) :
    exponentOf ((if e < 0 then '-' else '+') :: Nat.toDigits 10 e.natAbs) = e := by
  split
  · rw [exponentOf, Nat.ofDigitChars_ten_toDigits]
    omega
  · rw [exponentOf, Nat.ofDigitChars_ten_toDigits]
    · omega
    · decide

theorem denoted_scientific {d : Decimal} (some_ : 0 < d.count) : denoted (scientific d) = d.value := by
  have leading : d.leading = d.place + (d.count - 1 : ℕ) := by
    rw [Decimal.leading]
    omega
  unfold scientific
  generalize d.count - 1 = after at leading
  have mantissa : ∀ point, point = (if after = 0 then []
        else '.' :: paddedDigits after (d.digits % Nat.pow 10 after)) →
      (∀ c ∈ paddedDigits 1 (d.digits / Nat.pow 10 after) ++ point, c ≠ 'e') ∧
        mantissaOf (paddedDigits 1 (d.digits / Nat.pow 10 after) ++ point) =
          d.digits / 10 ^ after := by
    rintro point rfl
    simp only [Nat.pow_eq]
    split
    · rename_i none_
      subst none_
      rw [List.append_nil]
      refine ⟨fun c member => ne_of_isDigit (isDigit_paddedDigits member) rfl, ?_⟩
      rw [mantissaOf_digits fun c => isDigit_paddedDigits, ofDigitChars_paddedDigits]
      simp
    · rename_i some_
      exact ⟨plain_split _ _ _, mantissaOf_split (Nat.pos_of_ne_zero some_)⟩
  obtain ⟨plain, value⟩ := mantissa _ rfl
  dsimp only
  rw [denoted_exponent plain, value, exponentOf_written, leading, Decimal.value,
    zpow_add₀ (by norm_num), zpow_natCast]
  field_simp

-- Texts of numbers.

def unsigned (x : Binary64) : List Char :=
  if -5 ≤ x.shortest.leading ∧ x.shortest.leading ≤ 15 then positional x.shortest
  else scientific x.shortest

variable {x y : Binary64}

theorem chars_eq (x : Binary64) : x.chars = x.signedChars x.unsigned :=
  rfl

theorem denoted_unsigned (wellFormed : x.WellFormed) : denoted x.unsigned = x.shortest.value := by
  unfold unsigned
  split
  · exact denoted_positional _
  · exact denoted_scientific (shortest_count wellFormed)

theorem positional_cons (d : Decimal) : ∃ c rest, positional d = c :: rest ∧ isDigit c = true := by
  unfold positional
  split
  · obtain ⟨c, rest, written, digit⟩ := paddedDigits_cons d.count d.digits
    exact ⟨c, _, by rw [written]; rfl, digit⟩
  · obtain ⟨c, rest, written, digit⟩ :=
      paddedDigits_cons 1 (d.digits / Nat.pow 10 (-d.place).toNat)
    exact ⟨c, _, by dsimp only; rw [written]; rfl, digit⟩

theorem scientific_cons (d : Decimal) : ∃ c rest, scientific d = c :: rest ∧ isDigit c = true := by
  obtain ⟨c, rest, written, digit⟩ := paddedDigits_cons 1 (d.digits / Nat.pow 10 (d.count - 1))
  exact ⟨c, _, by unfold scientific; dsimp only; rw [written]; rfl, digit⟩

theorem unsigned_cons (x : Binary64) : ∃ c rest, x.unsigned = c :: rest ∧ isDigit c = true := by
  unfold unsigned
  split
  · exact positional_cons _
  · exact scientific_cons _

/-- Only a sign is a minus, so equal texts have equal signs and are equal without them. -/
theorem unsigned_of_chars (same : x.chars = y.chars) :
    x.negative = y.negative ∧ x.unsigned = y.unsigned := by
  obtain ⟨c, rest, first, digit⟩ := x.unsigned_cons
  obtain ⟨d, more, second, otherDigit⟩ := y.unsigned_cons
  have noSign : c ≠ '-' := ne_of_isDigit digit rfl
  have otherNoSign : d ≠ '-' := ne_of_isDigit otherDigit rfl
  rw [chars_eq, chars_eq, signedChars, signedChars, first, second] at same
  rw [first, second]
  cases negative : x.negative with
  | false =>
      cases otherNegative : y.negative with
      | false =>
          rw [negative, otherNegative] at same
          exact ⟨rfl, same⟩
      | true =>
          rw [negative, otherNegative] at same
          exact absurd (List.cons.inj same).1 noSign
  | true =>
      cases otherNegative : y.negative with
      | false =>
          rw [negative, otherNegative] at same
          exact absurd (List.cons.inj same).1.symm otherNoSign
      | true =>
          rw [negative, otherNegative] at same
          exact ⟨rfl, (List.cons.inj same).2⟩

theorem eq_of_chars (wellFormed : x.WellFormed) (other : y.WellFormed)
    (same : x.chars = y.chars) : x = y := by
  obtain ⟨sign, unsigned_⟩ := unsigned_of_chars same
  refine eq_of_shortest wellFormed other sign ?_
  rw [← denoted_unsigned wellFormed, unsigned_, denoted_unsigned other]

/-- The text of a number has a point in it or an exponent behind it, so it is no run of digits. -/
theorem chars_marked (x : Binary64) : '.' ∈ x.chars ∨ 'e' ∈ x.chars := by
  have marked : '.' ∈ x.unsigned ∨ 'e' ∈ x.unsigned := by
    unfold unsigned
    split
    · left
      unfold positional
      split <;> simp
    · right
      simp [scientific]
  have inside : x.unsigned ⊆ x.chars := by
    rw [chars_eq, signedChars]
    split
    · exact List.subset_cons_self _ _
    · exact List.Subset.refl _
  exact marked.imp (fun member => inside member) fun member => inside member

end BuildPeer.Binary64
