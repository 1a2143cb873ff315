import BuildPeer.Text.Blank
import BuildPeer.Text.Numeral

/-!
Decimal numerals, read and written. The numerals that are read are an optional plus sign and one or
more digits; those that are written are among them, and reading one gives the number back. None has
a blank in it.
-/

namespace BuildPeer.Text

theorem isDigit_toDigits {n : Nat} {c : Char} (member : c ∈ Nat.toDigits 10 n) :
    isDigit c = true :=
  Nat.isDigit_of_mem_toDigits (by decide) (by decide) member

theorem toNat_of_isDigit {c : Char} (digit : isDigit c = true) : 48 ≤ c.toNat ∧ c.toNat ≤ 57 := by
  simp only [isDigit, Bool.and_eq_true, decide_eq_true_eq] at digit
  exact digit

theorem ne_of_isDigit {c other : Char} (digit : isDigit c = true) (noDigit : isDigit other = false) :
    c ≠ other := by
  rintro rfl
  rw [digit] at noDigit
  cases noDigit

theorem isBlank_of_isDigit {c : Char} (digit : isDigit c = true) : isBlank c = false := by
  have range := toNat_of_isDigit digit
  simp only [isBlank, Bool.or_eq_false_iff, Bool.and_eq_false_iff, decide_eq_false_iff_not,
    beq_eq_false_iff_ne]
  omega

theorem valueOf_map_digitValue (text : List Char) (n : Nat) :
    (text.map digitValue).foldl (fun n d => n * 10 + d) n = Nat.ofDigitChars 10 text n := by
  rw [List.foldl_map]
  simp only [Nat.ofDigitChars_eq_foldl, digitValue, Nat.mul_comm]

theorem toDigits_cons (n : Nat) :
    ∃ c rest, Nat.toDigits 10 n = c :: rest ∧ isDigit c = true := by
  cases written : Nat.toDigits 10 n with
  | nil => exact absurd written Nat.toDigits_ne_nil
  | cons c rest => exact ⟨c, rest, rfl, isDigit_toDigits (n := n) (by simp [written])⟩

-- What is read, and as which number.

theorem digits?_eq_some_iff {text : List Char} {n : Nat} :
    digits? text = some n ↔
      text ≠ [] ∧ (∀ c ∈ text, isDigit c = true) ∧ Nat.ofDigitChars 10 text 0 = n := by
  cases text with
  | nil => simp [digits?]
  | cons c rest =>
      rw [digits?, valueOf, valueOf_map_digitValue]
      · simp only [Option.ite_none_right_eq_some, List.all_eq_true, Option.some.injEq]
        simp
      · simp

theorem natural?_eq_some_iff {text : List Char} {n : Nat} :
    natural? text = some n ↔
      ∃ sign digits, text = sign ++ digits ∧ (sign = [] ∨ sign = ['+']) ∧
        digits? digits = some n := by
  constructor
  · intro read
    unfold natural? at read
    split at read
    · rename_i rest
      exact ⟨['+'], rest, rfl, .inr rfl, read⟩
    · exact ⟨[], text, rfl, .inl rfl, read⟩
  · rintro ⟨sign, digits, rfl, rfl | rfl, read⟩
    · have unsigned : ∀ rest, digits ≠ '+' :: rest := by
        rintro rest rfl
        have plus := (digits?_eq_some_iff.mp read).2.1 '+' List.mem_cons_self
        exact absurd plus (by decide)
      rw [List.nil_append, natural?]
      · exact read
      · exact unsigned
    · exact read

theorem word?_eq_some_iff {text : List Char} {n : Nat} :
    word? text = some n ↔
      ∃ sign digits, text = sign ++ digits ∧ (sign = [] ∨ sign = ['+']) ∧ digits ≠ [] ∧
        (∀ c ∈ digits, isDigit c = true) ∧ Nat.ofDigitChars 10 digits 0 = n ∧ n < wordLimit := by
  rw [word?, Option.filter_eq_some_iff, natural?_eq_some_iff]
  simp only [digits?_eq_some_iff, decide_eq_true_eq]
  constructor
  · rintro ⟨⟨sign, digits, split, signed, some_, ascii, value⟩, small⟩
    exact ⟨sign, digits, split, signed, some_, ascii, value, small⟩
  · rintro ⟨sign, digits, split, signed, some_, ascii, value, small⟩
    exact ⟨⟨sign, digits, split, signed, some_, ascii, value⟩, small⟩

theorem digits?_toDigits (n : Nat) : digits? (Nat.toDigits 10 n) = some n :=
  digits?_eq_some_iff.mpr
    ⟨Nat.toDigits_ne_nil, fun _ => isDigit_toDigits, Nat.ofDigitChars_ten_toDigits⟩

theorem natural?_toDigits (n : Nat) : natural? (Nat.toDigits 10 n) = some n :=
  natural?_eq_some_iff.mpr ⟨[], _, rfl, .inl rfl, digits?_toDigits n⟩

theorem word?_toDigits {n : Nat} (small : n < wordLimit) :
    word? (Nat.toDigits 10 n) = some n := by
  simp [word?, natural?_toDigits, small]

theorem word?_solid {text : List Char} {n : Nat} (read : word? text = some n) :
    text ≠ [] ∧ ∀ c ∈ text, isBlank c = false := by
  obtain ⟨sign, digits, rfl, signed, some_, ascii, -, -⟩ := word?_eq_some_iff.mp read
  refine ⟨by simp [some_], ?_⟩
  intro c member
  rcases List.mem_append.mp member with inSign | digit
  · rcases signed with rfl | rfl
    · cases inSign
    · rw [List.mem_singleton.mp inSign]
      decide
  · exact isBlank_of_isDigit (ascii c digit)

end BuildPeer.Text
