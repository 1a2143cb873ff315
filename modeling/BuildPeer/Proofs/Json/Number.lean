import BuildPeer.Proofs.Binary64.Text
import BuildPeer.Proofs.Json.Value
import Mathlib.Data.List.DropRight

/-!
Which number an integer literal is read as, and how that number is written. A literal of a word is
read as itself. Any other is read as a floating-point number, or refused if it is beyond them all; so
several literals are read as one number. Writing loses nothing: the text of a number is that of no
other.
-/

namespace BuildPeer

/-- Numbers as they are read: floating-point numbers have their normal form. -/
def Number.WellFormed : Number → Prop
  | .integer _ => True
  | .real x => x.WellFormed

theorem integerChars_injective {m n : ℤ} (same : integerChars m = integerChars n) : m = n := by
  have digits {a b : ℕ} (same : Nat.toDigits 10 a = Nat.toDigits 10 b) : a = b := by
    have value := congrArg (fun digits => Nat.ofDigitChars 10 digits 0) same
    simpa only [Nat.ofDigitChars_ten_toDigits] using value
  have noSign {a b : ℕ} : '-' :: Nat.toDigits 10 a ≠ Nat.toDigits 10 b := by
    intro same
    have digit : Text.isDigit '-' = true := Text.isDigit_toDigits (same ▸ List.mem_cons_self)
    cases digit
  unfold integerChars at same
  split at same
  · split at same
    · have magnitudes := digits (List.cons.inj same).2
      omega
    · exact absurd same noSign
  · split at same
    · exact absurd same.symm noSign
    · have magnitudes := digits same
      omega

theorem mem_integerChars {n : ℤ} {c : Char} (member : c ∈ integerChars n) :
    c = '-' ∨ Text.isDigit c = true := by
  unfold integerChars at member
  split at member
  · exact (List.mem_cons.mp member).imp id Text.isDigit_toDigits
  · exact .inr (Text.isDigit_toDigits member)

theorem integerChars_ne_chars (n : ℤ) (x : Binary64) : integerChars n ≠ x.chars := by
  intro same
  have marked := x.chars_marked
  rw [← same] at marked
  rcases marked with point | exponent
  · exact absurd (mem_integerChars point) (by decide)
  · exact absurd (mem_integerChars exponent) (by decide)

/-- The text of a number is that of no other. -/
theorem Number.eq_of_chars {a b : Number} (wellFormed : a.WellFormed) (other : b.WellFormed)
    (same : a.chars = b.chars) : a = b := by
  cases a with
  | integer m =>
      cases b with
      | integer n => exact congrArg _ (integerChars_injective same)
      | real y => exact absurd same (integerChars_ne_chars m y)
  | real x =>
      cases b with
      | integer n => exact absurd same.symm (integerChars_ne_chars n x)
      | real y => exact congrArg _ (Binary64.eq_of_chars wellFormed other same)

namespace Json.Reader

open Binary64 (ofNat)

-- Literals beyond words.

theorem gather_overflow {limit value : ℕ} (count : ℕ) {digits : List Char}
    (all : ∀ c ∈ digits, Text.isDigit c = true) (low : value < limit)
    (exceeds : limit ≤ Nat.ofDigitChars 10 digits value) :
    ∃ kept taken left, (∀ c ∈ left, Text.isDigit c = true) ∧ left ≠ [] ∧
      ∀ rest, gather limit value count (digits ++ rest) = (kept, taken, left ++ rest) := by
  induction digits generalizing value count with
  | nil =>
      rw [Nat.ofDigitChars_nil] at exceeds
      omega
  | cons c digits ih =>
      by_cases fits : value * 10 + Text.digitValue c < limit
      · rw [Nat.ofDigitChars_cons, Nat.mul_comm] at exceeds
        obtain ⟨kept, taken, left, leftDigits, some_, gathered⟩ :=
          ih (count + 1) (fun c member => all c (List.mem_cons_of_mem _ member)) fits exceeds
        refine ⟨kept, taken, left, leftDigits, some_, fun rest => ?_⟩
        rw [List.cons_append, gather, if_pos ⟨all c List.mem_cons_self, fits⟩]
        exact gathered rest
      · refine ⟨value, count, c :: digits, all, List.cons_ne_nil _ _, fun rest => ?_⟩
        rw [List.cons_append, gather, if_neg fun both => fits both.2]

theorem startsWithDigit_append {digits : List Char} (all : ∀ c ∈ digits, Text.isDigit c = true)
    (some_ : digits ≠ []) (rest : List Char) : startsWithDigit (digits ++ rest) = true := by
  cases digits with
  | nil => exact absurd rfl some_
  | cons c digits => exact all c List.mem_cons_self

theorem realTail_ends {rest : List Char} (ends : Ends rest) (negative : Bool) (significand : ℕ)
    (exponent : ℤ) :
    realTail negative significand exponent rest = ofParts negative significand exponent rest := by
  unfold realTail
  split
  · exact absurd rfl (ends 'e' rfl).2.2.1
  · exact absurd rfl (ends 'E' rfl).2.2.2
  · rfl

theorem longTail_digits {digits rest : List Char} (all : ∀ c ∈ digits, Text.isDigit c = true)
    (ends : Ends rest) (negative : Bool) (significand : ℕ) :
    longTail negative significand (digits ++ rest) =
      ofParts negative significand digits.length rest := by
  have stops : rest.takeWhile Text.isDigit = [] ∧ rest.dropWhile Text.isDigit = rest := by
    cases rest with
    | nil => exact ⟨rfl, rfl⟩
    | cons c rest =>
        have other := (ends c rfl).1
        simp [other]
  unfold longTail
  rw [List.takeWhile_append_of_pos all, List.dropWhile_append_of_pos all, stops.1, stops.2,
    List.append_nil]
  dsimp only
  split
  · exact absurd rfl (ends '.' rfl).2.1
  · exact realTail_ends ends negative significand _

theorem scale_wellFormed {x y : Binary64} {exponent : ℤ} (up : 0 ≤ exponent)
    (wellFormed : x.WellFormed) (scaled : scale x exponent = some y) : y.WellFormed := by
  by_cases near : exponent.natAbs ≤ 308
  · rw [scale, if_pos near, if_pos up] at scaled
    exact Binary64.mul?_wellFormed scaled
  · by_cases zero : x.isZero = true
    · rw [scale, if_neg near, if_pos zero] at scaled
      cases scaled
      exact wellFormed
    · rw [scale, if_neg near, if_neg zero, if_pos up] at scaled
      cases scaled

def withSign (negative : Bool) (x : Binary64) : Binary64 :=
  if negative then x.neg else x

theorem withSign_wellFormed {x : Binary64} (negative : Bool) (wellFormed : x.WellFormed) :
    (withSign negative x).WellFormed := by
  cases negative with
  | false => exact wellFormed
  | true => exact Binary64.neg_wellFormed wellFormed

theorem ofParts_toOption (negative : Bool) (significand : ℕ) (exponent : ℤ) (text : List Char) :
    (ofParts negative significand exponent text).toOption =
      ((scale (ofNat significand) exponent).map (withSign negative)).map fun x => (.real x, text) := by
  unfold ofParts
  cases scale (ofNat significand) exponent <;> rfl

def ReadsReal (n : ℤ) (read : Option Binary64) : Prop :=
  ∀ rest, Ends rest →
    (number (integerChars n ++ rest)).toOption = read.map fun x => (.real x, rest)

/-- A literal of twenty digits or more is cut to a significand and scaled. -/
theorem readsReal_long {n : ℤ} (long : significandLimit ≤ n.natAbs) :
    ∃ read : Option Binary64, (∀ x, read = some x → x.WellFormed) ∧ ReadsReal n read := by
  have positive : 0 < n.natAbs := Nat.lt_of_lt_of_le (by decide) long
  obtain ⟨first, digits, small, all, value, magnitude_⟩ := magnitude_positive positive
  obtain ⟨kept, taken, left, leftDigits, some_, gathered⟩ := gather_overflow 0 all
    (Nat.lt_of_lt_of_le small (by decide)) (value.symm ▸ long)
  refine ⟨(scale (ofNat kept) left.length).map (withSign (decide (n < 0))), ?_, ?_⟩
  · intro x read
    obtain ⟨y, scaled, rfl⟩ := Option.map_eq_some_iff.mp read
    exact withSign_wellFormed _
      (scale_wellFormed (Int.natCast_nonneg _) (Binary64.ofNat_wellFormed kept) scaled)
  · intro rest ends
    simp only [number_signed, magnitude_, gathered, startsWithDigit_append leftDigits some_, if_true,
      longTail_digits leftDigits ends, ofParts_toOption]

/-- A negative literal that fits a significand but no word is rounded. -/
theorem readsReal_negative {n : ℤ} (negative : n < -2 ^ 63) (short : n.natAbs < significandLimit) :
    ReadsReal n (some (withSign true (ofNat n.natAbs))) := by
  intro rest ends
  have beyond : ¬(0 < n.natAbs ∧ n.natAbs ≤ Nat.pow 2 63) := by
    have half : Nat.pow 2 63 = 2 ^ 63 := rfl
    omega
  have tail : integerTail true n.natAbs rest =
      .ok (.real (withSign true (ofNat n.natAbs)), rest) := by
    unfold integerTail
    split
    · exact absurd rfl (ends '.' rfl).2.1
    · exact absurd rfl (ends 'e' rfl).2.2.1
    · exact absurd rfl (ends 'E' rfl).2.2.2
    · rw [if_neg (by decide), if_neg beyond]
      rfl
  rw [number_signed, decide_eq_true (by omega : n < 0), magnitude_toDigits _ ends short, tail]
  rfl

/-- The number that an integer literal is read as; none if it is beyond them all. -/
def ofInteger? (n : ℤ) : Option Number :=
  (number (integerChars n)).toOption.map Prod.fst

theorem ofInteger?_word {n : ℤ} (word : -2 ^ 63 ≤ n ∧ n < 2 ^ 64) :
    ofInteger? n = some (.integer n) := by
  have read := number_integerChars (n := n) Ends.nil word.1 word.2
  rw [List.append_nil] at read
  rw [ofInteger?, read]
  rfl

theorem readsReal_of_not_word {n : ℤ} (beyond : ¬(-2 ^ 63 ≤ n ∧ n < 2 ^ 64)) :
    ∃ read : Option Binary64, (∀ x, read = some x → x.WellFormed) ∧ ReadsReal n read := by
  have limit : significandLimit = 2 ^ 64 := rfl
  by_cases long : significandLimit ≤ n.natAbs
  · exact readsReal_long long
  · refine ⟨_, ?_, readsReal_negative (by omega) (by omega)⟩
    rintro x ⟨⟩
    exact withSign_wellFormed true (Binary64.ofNat_wellFormed _)

theorem ReadsReal.ofInteger? {n : ℤ} {read : Option Binary64} (reads : ReadsReal n read) :
    ofInteger? n = read.map .real := by
  have whole := reads [] Ends.nil
  rw [List.append_nil] at whole
  rw [Reader.ofInteger?, whole, Option.map_map]
  rfl

theorem number_literal (n : ℤ) {rest : List Char} (ends : Ends rest) :
    (number (integerChars n ++ rest)).toOption = (ofInteger? n).map (·, rest) := by
  by_cases word : -2 ^ 63 ≤ n ∧ n < 2 ^ 64
  · rw [number_integerChars ends word.1 word.2, ofInteger?_word word]
    rfl
  · obtain ⟨read, -, reads⟩ := readsReal_of_not_word word
    rw [reads rest ends, reads.ofInteger?, Option.map_map]
    rfl

theorem ofInteger?_wellFormed {n : ℤ} {x : Number} (read : ofInteger? n = some x) :
    x.WellFormed := by
  by_cases word : -2 ^ 63 ≤ n ∧ n < 2 ^ 64
  · rw [ofInteger?_word word] at read
    cases read
    trivial
  · obtain ⟨real, wellFormed, reads⟩ := readsReal_of_not_word word
    rw [reads.ofInteger?] at read
    obtain ⟨x, found, rfl⟩ := Option.map_eq_some_iff.mp read
    exact wellFormed x found

/-- Two literals have one text when they are read as one floating-point number, and only then. -/
theorem sameText_iff {m n : ℤ} (different : m ≠ n) {a b : Number} (first : ofInteger? m = some a)
    (second : ofInteger? n = some b) :
    a.chars = b.chars ↔ ∃ x : Binary64, a = .real x ∧ b = .real x := by
  have real {n : ℤ} {x : Number} (read : ofInteger? n = some x) :
      x = .integer n ∨ ∃ y : Binary64, x = .real y := by
    by_cases word : -2 ^ 63 ≤ n ∧ n < 2 ^ 64
    · rw [ofInteger?_word word] at read
      exact .inl (Option.some.inj read).symm
    · obtain ⟨read_, -, reads⟩ := readsReal_of_not_word word
      rw [reads.ofInteger?] at read
      obtain ⟨y, -, same⟩ := Option.map_eq_some_iff.mp read
      exact .inr ⟨y, same.symm⟩
  constructor
  · intro same
    obtain rfl := Number.eq_of_chars (ofInteger?_wellFormed first) (ofInteger?_wellFormed second) same
    rcases real first with rfl | ⟨x, rfl⟩
    · rcases real second with same | ⟨y, same⟩
      · exact absurd (Number.integer.inj same) different
      · cases same
    · exact ⟨x, rfl, rfl⟩
  · rintro ⟨x, rfl, rfl⟩
    rfl

-- Literals as values.

theorem value_skipSpace (room : Nat) (text : List Char) :
    value room (skipSpace text) = value room text := by
  have twice : skipSpace (skipSpace text) = skipSpace text := List.dropWhile_idempotent _ _
  cases room <;> simp only [value, twice]

theorem value_literal (room : Nat) {n : ℤ} {rest : List Char} (ends : Ends rest) :
    (value room (integerChars n ++ rest)).toOption =
      (ofInteger? n).map fun x => (.number x, rest) := by
  have read := number_literal n ends
  obtain ⟨c, digits, written, front⟩ := integerChars_cons n
  obtain ⟨solid, noList, noObject, -⟩ := front_plain front
  rw [written, List.cons_append] at read ⊢
  rw [value_scalar rfl ⟨solid, noList, noObject⟩, scalar_number front, map_toOption Json.number read,
    Option.map_map]
  rfl

theorem parse_literal {n : ℤ} {x : Number} (read : ofInteger? n = some x) :
    Json.parse (integerChars n) = .ok (.number x) := by
  have literal := value_literal Json.nestingLimit (n := n) Ends.nil
  rw [List.append_nil, read] at literal
  apply eq_ok_of_toOption
  apply whole_toOption
  exact literal

end Json.Reader
end BuildPeer
