import BuildPeer.Header
import BuildPeer.Proofs.Text.Blank
import BuildPeer.Proofs.Text.Numeral
import Mathlib.Data.List.Basic

/-!
What header lines declare. A line is taken exactly if it is the tag and a number below 2^64, with
blanks around the number; a written header is the case of one space before it and the line break
after it. What is refused is named in the refusal, without blanks at its ends.
-/

namespace BuildPeer.Header

theorem parse_tagged_word {rest : List Char} {n : Nat}
    (word : Text.word? (Text.trim rest) = some n) : parse (tag ++ rest) = .ok n := by
  simp only [parse, List.isPrefixOf?_eq_some_iff_append_eq.mpr rfl, word]

theorem parse_tagged_none {rest : List Char} (none_ : Text.word? (Text.trim rest) = none) :
    parse (tag ++ rest) =
      .error (.invalidContentLength (String.ofList (Text.trim rest))) := by
  simp only [parse, List.isPrefixOf?_eq_some_iff_append_eq.mpr rfl, none_]

theorem parse_untagged {line : List Char} (untagged : ∀ rest, line ≠ tag ++ rest) :
    parse line = .error (.missingContentLength (String.ofList (Text.trimEnd line))) := by
  rw [parse]
  cases found : tag.isPrefixOf? line with
  | none => rfl
  | some rest => exact absurd (List.isPrefixOf?_eq_some_iff_append_eq.mp found).symm (untagged rest)

theorem parse_word {left word right : List Char} {n : Nat}
    (blankLeft : ∀ c ∈ left, Text.isBlank c = true)
    (blankRight : ∀ c ∈ right, Text.isBlank c = true) (declared : Text.word? word = some n) :
    parse (tag ++ (left ++ word ++ right)) = .ok n := by
  obtain ⟨some_, solid⟩ := Text.word?_solid declared
  apply parse_tagged_word
  rw [Text.trim_between blankLeft blankRight solid some_]
  exact declared

-- The grammar of header lines.

/-- The number of bytes that a header line declares: the tag, blanks, a plus sign or none, ASCII
digits of any number, and blanks; the digits denote a number below 2^64. -/
inductive Declares : List Char → Nat → Prop where
  | intro {left sign digits right : List Char} (blankLeft : ∀ c ∈ left, Text.isBlank c = true)
      (signed : sign = [] ∨ sign = ['+']) (some_ : digits ≠ [])
      (ascii : ∀ c ∈ digits, '0' ≤ c ∧ c ≤ '9') (blankRight : ∀ c ∈ right, Text.isBlank c = true)
      (small : Nat.ofDigitChars 10 digits 0 < Nat.pow 2 64) :
      Declares ("Content-Length:".toList ++ left ++ (sign ++ digits) ++ right)
        (Nat.ofDigitChars 10 digits 0)

theorem Declares.parse {line : List Char} {n : Nat} (declares : Declares line n) :
    parse line = .ok n := by
  obtain ⟨blankLeft, signed, some_, ascii, blankRight, small⟩ := declares
  have word := Text.word?_eq_some_iff.mpr
    ⟨_, _, rfl, signed, some_, by simpa [Text.isDigit] using ascii, rfl, small⟩
  have parsed := parse_word blankLeft blankRight word
  rw [← List.append_assoc, ← List.append_assoc] at parsed
  exact parsed

theorem declares_of_parse {line : List Char} {n : Nat} (parsed : parse line = .ok n) :
    Declares line n := by
  by_cases tagged : ∃ rest, line = tag ++ rest
  · obtain ⟨rest, rfl⟩ := tagged
    cases word : Text.word? (Text.trim rest) with
    | none =>
        rw [parse_tagged_none word] at parsed
        cases parsed
    | some m =>
        rw [parse_tagged_word word] at parsed
        cases parsed
        obtain ⟨sign, digits, split, signed, some_, ascii, rfl, small⟩ :=
          Text.word?_eq_some_iff.mp word
        obtain ⟨left, right, around, blankLeft, blankRight⟩ := (Text.trim_trims rest).blanks
        rw [around, split, ← List.append_assoc, ← List.append_assoc]
        exact .intro blankLeft signed some_ (by simpa [Text.isDigit] using ascii) blankRight small
  · rw [parse_untagged fun rest same => tagged ⟨rest, same⟩] at parsed
    cases parsed

/-- A header line is taken exactly if it declares a length, and then as that one. Any other line is
refused: one with the tag for what stands behind it, without the blanks around that; one without the
tag as it is, but for the blanks at its end. -/
theorem parse_iff_declares (line : List Char) :
    (∀ n, parse line = .ok n ↔ Declares line n) ∧
      ((∀ n, ¬Declares line n) →
        (∀ rest, line = "Content-Length:".toList ++ rest →
          ∃ value, Text.Trims rest value ∧
            parse line = .error (.invalidContentLength (String.ofList value))) ∧
        ((∀ rest, line ≠ "Content-Length:".toList ++ rest) →
          ∃ value, Text.TrimsEnd line value ∧
            parse line = .error (.missingContentLength (String.ofList value)))) := by
  refine ⟨fun n => ⟨declares_of_parse, Declares.parse⟩, ?_⟩
  intro refused
  constructor
  · rintro rest rfl
    refine ⟨Text.trim rest, Text.trim_trims rest, ?_⟩
    cases word : Text.word? (Text.trim rest) with
    | none => exact parse_tagged_none word
    | some n => exact absurd (declares_of_parse (parse_tagged_word word)) (refused n)
  · intro untagged
    exact ⟨Text.trimEnd line, Text.trimEnd_trimsEnd line, parse_untagged untagged⟩

/-- The greatest length behind zeros and a sign, among blanks of other scripts; one more; and a line
whose tag does not come first. -/
theorem parse_iff_declares_at_the_limit :
    let digits (last : Char) := List.replicate 30 '0' ++ "1844674407370955161".toList ++ [last]
    let line (last : Char) :=
      "Content-Length:".toList ++ ['\u3000'] ++ (['+'] ++ digits last) ++ ['\u0085', '\r', '\n']
    parse (line '5') = .ok (Nat.pow 2 64 - 1) ∧
      (∃ value, Text.Trims (['\u3000'] ++ (['+'] ++ digits '6') ++ ['\u0085', '\r', '\n']) value ∧
        parse (line '6') = .error (.invalidContentLength (String.ofList value))) ∧
      ∃ value, Text.TrimsEnd " Content-Length:1\n".toList value ∧
        parse " Content-Length:1\n".toList = .error (.missingContentLength (String.ofList value)) := by
  intro digits line
  have refused {line : List Char} {violation : Violation} (parsed : parse line = .error violation) :
      ∀ n, ¬Declares line n := by
    intro n declares
    rw [((parse_iff_declares line).1 n).mpr declares] at parsed
    cases parsed
  have ascii : ∀ c ∈ digits '5', '0' ≤ c ∧ c ≤ '9' := by
    have all : (digits '5').all Text.isDigit = true := rfl
    simpa only [Text.isDigit, Bool.and_eq_true, decide_eq_true_eq] using List.all_eq_true.mp all
  refine ⟨((parse_iff_declares _).1 _).mpr ?_, ?_, ?_⟩
  · exact .intro (List.all_eq_true.mp rfl) (.inr rfl) (by decide) ascii
      (List.all_eq_true.mp rfl) (by decide)
  · exact ((parse_iff_declares _).2 (refused rfl)).1 _ rfl
  · refine ((parse_iff_declares _).2 (refused rfl)).2 ?_
    intro rest same
    cases same

-- Headers as they are written.

def line (length : Nat) : List Char :=
  tag ++ ' ' :: Nat.toDigits 10 length

theorem render_line (length : Nat) : render length = line length ++ ['\r', '\n', '\r', '\n'] :=
  rfl

theorem parse_line {length : Nat} (small : length < Text.wordLimit) (right : List Char)
    (blank : ∀ c ∈ right, Text.isBlank c = true) : parse (line length ++ right) = .ok length := by
  have space : ∀ c ∈ [' '], Text.isBlank c = true := List.all_eq_true.mp rfl
  have parsed := parse_word space blank (Text.word?_toDigits small)
  simpa [line] using parsed

theorem line_ascii {length : Nat} {c : Char} (member : c ∈ line length) :
    32 ≤ c.toNat ∧ c.toNat < 128 := by
  simp only [line, List.mem_append, List.mem_cons] at member
  rcases member with inTag | rfl | digit
  · have all : tag.all (fun c => 32 ≤ c.toNat && c.toNat < 128) = true := by decide
    simpa using List.all_eq_true.mp all c inTag
  · decide
  · have range := Text.toNat_of_isDigit (Text.isDigit_toDigits digit)
    omega

theorem line_length {length : Nat} (small : length < Text.wordLimit) : (line length).length ≤ 36 := by
  have digits : (Nat.toDigits 10 length).length ≤ 20 :=
    (Nat.length_toDigits_le_iff (by decide) (by decide)).mpr (Nat.lt_trans small (by decide))
  have tagged : tag.length = 15 := by decide
  simp only [line, List.length_append, List.length_cons, tagged]
  omega

end BuildPeer.Header
