import BuildPeer.Json.Shape
import BuildPeer.Proofs.Json.Value

/-!
Values of a known shape, read from compact text.
-/

namespace BuildPeer.Json.Reader

theorem mismatch_refuses (wanted : String) (text : List Char) :
    (mismatch (α := α) wanted text).toOption = none := by
  unfold mismatch
  split
  · rfl
  · rfl
  · split <;> rfl

def asText? : Json → Option String
  | .string s => some s
  | _ => none

theorem text_chars {v : Json} (words : v.everywhere isWord = true) (rest : List Char) :
    (Reader.text (v.chars ++ rest)).toOption = (asText? v).map (·, rest) := by
  have other {c : Char} {more : List Char} (written : v.chars = c :: more)
      (plain : isSpace c = false ∧ c ≠ '"') :
      (Reader.text (v.chars ++ rest)).toOption = none := by
    rw [written, List.cons_append, Reader.text, skipSpace_solid plain.1]
    split
    · rename_i quoted
      exact absurd (List.cons.inj quoted).1 plain.2
    · exact mismatch_refuses _ _
  cases v with
  | string s =>
      have read := string_chars s rest
      rw [chars, stringChars_append]
      change (string (s.toList.flatMap escapedChar ++ '"' :: rest)).toOption = _
      rw [read]
      rfl
  | null => exact other rfl (by decide)
  | bool b =>
      cases b with
      | true => exact other rfl (by decide)
      | false => exact other rfl (by decide)
  | number n =>
      cases n with
      | integer n =>
          obtain ⟨c, digits, written, front⟩ := integerChars_cons n
          obtain ⟨solid, -, -, noQuote⟩ := front_plain front
          exact other written ⟨solid, noQuote⟩
      | real x => cases words
  | array xs => exact other rfl (by decide)
  | object ms => exact other rfl (by decide)

end BuildPeer.Json.Reader
