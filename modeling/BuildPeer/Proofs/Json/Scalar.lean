import BuildPeer.Json.Printer
import BuildPeer.Json.Scalar
import BuildPeer.Proofs.Text.Numeral

/-!
Strings and integers read back from what is written for them, with anything behind them that does
not go on with them. A string ends with its quote; an integer has no end of its own, so what is
behind it must not be a digit, a point or an exponent.
-/

namespace BuildPeer.Json.Reader

-- Strings.

theorem hexValue?_digitChar {n : Nat} (small : n < 16) :
    Text.hexValue? (Nat.digitChar n) = some n := by
  have all : ∀ n : Fin 16, Text.hexValue? (Nat.digitChar n) = some n.val := by decide
  exact all ⟨n, small⟩

theorem hexDigits_control {c : Char} (control : c.toNat < 0x20) (rest : List Char) :
    hexDigits ('0' :: '0' :: (escapedChar.paddedHex c.toNat ++ rest)) = .ok (c.toNat, rest) := by
  have high := hexValue?_digitChar (n := c.toNat / 16) (by omega)
  have low := hexValue?_digitChar (n := c.toNat % 16) (by omega)
  have zero : Text.hexValue? '0' = some 0 := rfl
  have value : Text.valueOf 16 [0, 0, c.toNat / 16, c.toNat % 16] = c.toNat := by
    simp only [Text.valueOf, List.foldl_cons, List.foldl_nil]
    omega
  simp only [escapedChar.paddedHex, List.cons_append, List.nil_append, hexDigits, zero, high, low,
    value]

theorem escape_control {c : Char} (control : c.toNat < 0x20) (rest : List Char) :
    escape ('u' :: '0' :: '0' :: (escapedChar.paddedHex c.toNat ++ rest)) = .ok (c, rest) := by
  have single : codeUnit c.toNat rest = .ok (c, rest) := by
    unfold codeUnit
    rw [if_neg (by omega), if_pos (by omega), Char.ofNat_toNat]
  simp only [escape, hexDigits_control control, single]

theorem escapedChar_cases (c : Char) :
    (∃ e, escapedChar c = ['\\', e] ∧ e ≠ 'u' ∧ plainEscape? e = some c) ∨
      (c.toNat < 0x20 ∧
        escapedChar c = '\\' :: 'u' :: '0' :: '0' :: escapedChar.paddedHex c.toNat) ∨
      (c ≠ '"' ∧ c ≠ '\\' ∧ ¬c.toNat < 0x20 ∧ escapedChar c = [c]) := by
  unfold escapedChar
  split
  · exact .inl ⟨'"', rfl, by decide, rfl⟩
  · exact .inl ⟨'\\', rfl, by decide, rfl⟩
  · exact .inl ⟨'b', rfl, by decide, rfl⟩
  · exact .inl ⟨'f', rfl, by decide, rfl⟩
  · exact .inl ⟨'n', rfl, by decide, rfl⟩
  · exact .inl ⟨'r', rfl, by decide, rfl⟩
  · exact .inl ⟨'t', rfl, by decide, rfl⟩
  · rename_i noQuote noEscape _ _ _ _ _
    split
    · rename_i control
      exact .inr (.inl ⟨control, rfl⟩)
    · rename_i printable
      exact .inr (.inr ⟨noQuote, noEscape, printable, rfl⟩)

theorem stringFrom_quote (done rest : List Char) :
    stringFrom done ('"' :: rest) = .ok (String.ofList done.reverse, rest) := by
  rw [stringFrom]

theorem stringFrom_escape {done text rest : List Char} {c : Char}
    (escaped : escape text = .ok (c, rest)) :
    stringFrom done ('\\' :: text) = stringFrom (c :: done) rest := by
  rw [stringFrom]
  split
  · rename_i refused
    rw [escaped] at refused
    cases refused
  · rename_i again
    rw [escaped] at again
    cases again
    rfl

theorem stringFrom_plain {c : Char} (noQuote : c ≠ '"') (noEscape : c ≠ '\\')
    (printable : ¬c.toNat < 0x20) (done rest : List Char) :
    stringFrom done (c :: rest) = stringFrom (c :: done) rest := by
  rw [stringFrom]
  · rw [if_neg printable]
  · exact noQuote
  · exact noEscape

theorem stringFrom_escapedChar (c : Char) (done rest : List Char) :
    stringFrom done (escapedChar c ++ rest) = stringFrom (c :: done) rest := by
  rcases escapedChar_cases c with ⟨e, written, other, stands⟩ | ⟨control, written⟩ |
    ⟨noQuote, noEscape, printable, written⟩
  · have escaped : escape (e :: rest) = .ok (c, rest) := by
      rw [escape]
      · rw [stands]
      · exact other
    rw [written]
    exact stringFrom_escape escaped
  · rw [written]
    exact stringFrom_escape (escape_control control rest)
  · rw [written]
    exact stringFrom_plain noQuote noEscape printable done rest

theorem stringFrom_chars (text done rest : List Char) :
    stringFrom done (text.flatMap escapedChar ++ '"' :: rest) =
      .ok (String.ofList (done.reverse ++ text), rest) := by
  induction text generalizing done with
  | nil => simpa using stringFrom_quote done rest
  | cons c text ih =>
      rw [List.flatMap_cons, List.append_assoc, stringFrom_escapedChar, ih]
      simp

theorem stringChars_append (s : String) (rest : List Char) :
    stringChars s ++ rest = '"' :: (s.toList.flatMap escapedChar ++ '"' :: rest) := by
  simp [stringChars]

theorem string_chars (s : String) (rest : List Char) :
    string (s.toList.flatMap escapedChar ++ '"' :: rest) = .ok (s, rest) := by
  rw [string, stringFrom_chars]
  simp

-- Integers.

/-- What may stand behind a value: nothing that goes on with a number. -/
def Ends (rest : List Char) : Prop :=
  ∀ c, rest.head? = some c → Text.isDigit c = false ∧ c ≠ '.' ∧ c ≠ 'e' ∧ c ≠ 'E'

theorem Ends.nil : Ends [] := by
  intro c head
  cases head

theorem Ends.noDigit {rest : List Char} (ends : Ends rest) : startsWithDigit rest = false := by
  cases rest with
  | nil => rfl
  | cons c rest => exact (ends c rfl).1

theorem le_ofDigitChars (digits : List Char) (value : Nat) :
    value ≤ Nat.ofDigitChars 10 digits value := by
  induction digits generalizing value with
  | nil => simp
  | cons c digits ih =>
      rw [Nat.ofDigitChars_cons]
      exact Nat.le_trans (by omega) (ih _)

theorem gather_digits {limit value : Nat} (count : Nat) {digits rest : List Char}
    (all : ∀ c ∈ digits, Text.isDigit c = true)
    (fits : Nat.ofDigitChars 10 digits value < limit) (stops : startsWithDigit rest = false) :
    gather limit value count (digits ++ rest) =
      (Nat.ofDigitChars 10 digits value, count + digits.length, rest) := by
  induction digits generalizing value count with
  | nil =>
      cases rest with
      | nil => simp [gather]
      | cons c rest =>
          have other : Text.isDigit c = false := stops
          simp [gather, other]
  | cons c digits ih =>
      have digit : Text.isDigit c = true := all c List.mem_cons_self
      have next : value * 10 + Text.digitValue c = 10 * value + (c.toNat - '0'.toNat) := by
        rw [Text.digitValue, Nat.mul_comm]
      rw [Nat.ofDigitChars_cons] at fits ⊢
      have below : value * 10 + Text.digitValue c < limit := by
        rw [next]
        exact Nat.lt_of_le_of_lt (le_ofDigitChars _ _) fits
      have step := ih (count + 1) (fun c member => all c (List.mem_cons_of_mem _ member)) fits
      rw [List.cons_append, gather, if_pos ⟨digit, below⟩, next, step, List.length_cons,
        Nat.add_assoc, Nat.add_comm 1]

theorem integerTail_ends {negative : Bool} {n : Nat} {rest : List Char} (ends : Ends rest)
    (range : negative = true → 0 < n ∧ n ≤ Nat.pow 2 63) :
    integerTail negative n rest = .ok (.integer (if negative then -n else n), rest) := by
  unfold integerTail
  split
  · exact absurd rfl (ends '.' rfl).2.1
  · exact absurd rfl (ends 'e' rfl).2.2.1
  · exact absurd rfl (ends 'E' rfl).2.2.2
  · cases negative with
    | false => rfl
    | true => simp [range rfl]

theorem toDigits_head {n : Nat} (positive : 0 < n) :
    ∃ c rest, Nat.toDigits 10 n = c :: rest ∧ c ≠ '0' := by
  induction n using Nat.strongRecOn with
  | ind n ih =>
      by_cases small : n < 10
      · refine ⟨Nat.digitChar n, [], Nat.toDigits_of_lt_base small, ?_⟩
        have all : ∀ n : Fin 10, 0 < n.val → Nat.digitChar n ≠ '0' := by decide
        exact all ⟨n, small⟩ positive
      · obtain ⟨c, rest, written, other⟩ := ih (n / 10) (by omega) (by omega)
        refine ⟨c, rest ++ [Nat.digitChar (n % 10)], ?_, other⟩
        rw [Nat.toDigits_of_base_le (by decide) (by omega), written]
        rfl

theorem magnitude_positive {n : Nat} (positive : 0 < n) :
    ∃ first digits, first < 10 ∧ (∀ d ∈ digits, Text.isDigit d = true) ∧
      Nat.ofDigitChars 10 digits first = n ∧
      ∀ negative rest, magnitude negative (Nat.toDigits 10 n ++ rest) =
        let gathered := gather significandLimit first 0 (digits ++ rest)
        if startsWithDigit gathered.2.2 then longTail negative gathered.1 gathered.2.2
        else integerTail negative gathered.1 gathered.2.2 := by
  obtain ⟨c, digits, written, notZero⟩ := toDigits_head positive
  have all : ∀ d ∈ c :: digits, Text.isDigit d = true := by
    rw [← written]
    exact fun d member => Text.isDigit_toDigits member
  have digit : Text.isDigit c = true := all c List.mem_cons_self
  have range := Text.toNat_of_isDigit digit
  refine ⟨Text.digitValue c, digits, ?_, fun d member => all d (List.mem_cons_of_mem _ member), ?_,
    ?_⟩
  · change c.toNat - 48 < 10
    omega
  · have whole := Nat.ofDigitChars_ten_toDigits (n := n)
    rw [written, Nat.ofDigitChars_cons, Nat.mul_zero, Nat.zero_add] at whole
    exact whole
  · intro negative rest
    rw [written, List.cons_append, magnitude]
    · rw [if_pos digit]
    · exact notZero

theorem magnitude_toDigits (negative : Bool) {n : Nat} {rest : List Char} (ends : Ends rest)
    (small : n < significandLimit) :
    magnitude negative (Nat.toDigits 10 n ++ rest) = integerTail negative n rest := by
  rcases Nat.eq_zero_or_pos n with rfl | positive
  · rw [Nat.toDigits_zero, List.singleton_append, magnitude, if_neg (by simp [ends.noDigit])]
  · obtain ⟨first, digits, -, all, value, read⟩ := magnitude_positive positive
    have gathered := gather_digits 0 all (value ▸ small) ends.noDigit
    simp only [read, gathered, value, ends.noDigit, Bool.false_eq_true, ↓reduceIte]

theorem number_signed (n : Int) (rest : List Char) :
    number (integerChars n ++ rest) =
      magnitude (decide (n < 0)) (Nat.toDigits 10 n.natAbs ++ rest) := by
  unfold integerChars
  split
  · rename_i negative
    rw [List.cons_append, number, decide_eq_true negative]
  · rename_i natural
    obtain ⟨c, digits, written, digit⟩ := Text.toDigits_cons n.natAbs
    have unsigned : c ≠ '-' := Text.ne_of_isDigit digit rfl
    rw [decide_eq_false natural, written, List.cons_append, number]
    exact fun more same => unsigned (List.cons.inj same).1

theorem number_integerChars {n : Int} {rest : List Char} (ends : Ends rest)
    (low : -Nat.pow 2 63 ≤ n) (high : n < Text.wordLimit) :
    number (integerChars n ++ rest) = .ok (.integer n, rest) := by
  have limit : significandLimit = Text.wordLimit := rfl
  have half : Nat.pow 2 63 + Nat.pow 2 63 = Text.wordLimit := by decide
  rw [number_signed, magnitude_toDigits _ ends (by omega), integerTail_ends ends]
  · by_cases negative : n < 0
    · have value : -(n.natAbs : Int) = n := by omega
      rw [decide_eq_true negative, if_pos rfl, value]
    · have value : (n.natAbs : Int) = n := by omega
      rw [decide_eq_false negative, if_neg Bool.false_ne_true, value]
  · intro negative
    have below := of_decide_eq_true negative
    omega

end BuildPeer.Json.Reader
