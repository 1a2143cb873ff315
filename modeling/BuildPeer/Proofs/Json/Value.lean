import BuildPeer.Json.Value
import BuildPeer.Proofs.Json.Sequence
import BuildPeer.Proofs.Json.Tree

/-!
A tree whose numbers are words is read back from its text, if there is room for its depth. The
induction is on the room: it is what the reader counts down, and the parts of a list or an object
are less deep than the whole.
-/

namespace BuildPeer.Json.Reader

-- The front of a value decides how it is read.

theorem integerChars_cons (n : Int) :
    ∃ c rest, integerChars n = c :: rest ∧ (c = '-' ∨ Text.isDigit c = true) := by
  unfold integerChars
  split
  · exact ⟨'-', _, rfl, .inl rfl⟩
  · obtain ⟨c, rest, written, digit⟩ := Text.toDigits_cons n.natAbs
    exact ⟨c, rest, written, .inr digit⟩

theorem starts_number {c : Char} (front : c = '-' ∨ Text.isDigit c = true) (rest : List Char) :
    Starts (c :: rest) := by
  refine ⟨c, rest, rfl, ?_⟩
  rcases front with rfl | digit
  · decide
  · have range := Text.toNat_of_isDigit digit
    constructor
    · simp only [isSpace, Bool.or_eq_false_iff, beq_eq_false_iff_ne]
      refine ⟨⟨⟨?_, ?_⟩, ?_⟩, ?_⟩ <;> (rintro rfl; revert range; decide)
    · rintro rfl
      revert range
      decide

theorem front_plain {c : Char} (front : c = '-' ∨ Text.isDigit c = true) :
    isSpace c = false ∧ c ≠ '[' ∧ c ≠ '{' ∧ c ≠ '"' := by
  obtain ⟨_, _, same, solid, -⟩ := starts_number front []
  cases same
  refine ⟨solid, ?_, ?_, ?_⟩ <;> (rintro rfl; revert front; decide)

theorem chars_flat {v : Json} (words : v.everywhere isWord = true) (flat : v.depth = 0) :
    ∃ c rest, v.chars = c :: rest ∧ isSpace c = false ∧ c ≠ '[' ∧ c ≠ '{' := by
  cases v with
  | null => exact ⟨'n', _, rfl, by decide⟩
  | bool b =>
      cases b with
      | true => exact ⟨'t', _, rfl, by decide⟩
      | false => exact ⟨'f', _, rfl, by decide⟩
  | number n =>
      cases n with
      | integer n =>
          obtain ⟨c, rest, written, front⟩ := integerChars_cons n
          obtain ⟨solid, noList, noObject, -⟩ := front_plain front
          exact ⟨c, rest, written, solid, noList, noObject⟩
      | real x => cases words
  | string s => exact ⟨'"', _, rfl, by decide⟩
  | array xs => cases flat
  | object ms => cases flat

theorem starts_chars {v : Json} (words : v.everywhere isWord = true) : Starts v.chars := by
  cases v with
  | null => exact ⟨'n', _, rfl, by decide⟩
  | bool b =>
      cases b with
      | true => exact ⟨'t', _, rfl, by decide⟩
      | false => exact ⟨'f', _, rfl, by decide⟩
  | number n =>
      cases n with
      | integer n =>
          obtain ⟨c, rest, written, front⟩ := integerChars_cons n
          rw [chars, Number.chars, written]
          exact starts_number front rest
      | real x => cases words
  | string s => exact ⟨'"', _, rfl, by decide⟩
  | array xs => exact ⟨'[', _, rfl, by decide⟩
  | object ms => exact ⟨'{', _, rfl, by decide⟩

theorem scalar_number {c : Char} (front : c = '-' ∨ Text.isDigit c = true) (rest : List Char) :
    scalar (c :: rest) = (number (c :: rest)).map fun (n, rest) => (.number n, rest) := by
  have other {d : Char} (notFront : ¬(d = '-' ∨ Text.isDigit d = true)) : c ≠ d := by
    rintro rfl
    exact notFront front
  rw [scalar, if_pos front]
  all_goals exact other (by decide)

theorem value_scalar {text : List Char} {c : Char} {rest : List Char} (written : text = c :: rest)
    (plain : isSpace c = false ∧ c ≠ '[' ∧ c ≠ '{') (room : Nat) :
    value room text = scalar text := by
  obtain ⟨solid, noList, noObject⟩ := plain
  subst written
  cases room with
  | zero =>
      rw [value, skipSpace_solid solid]
      split
      · rename_i opens
        exact absurd (List.cons.inj opens).1 noList
      · rename_i opens
        exact absurd (List.cons.inj opens).1 noObject
      · rfl
  | succ room =>
      rw [value, skipSpace_solid solid]
      split
      · rename_i opens
        exact absurd (List.cons.inj opens).1 noList
      · rename_i opens
        exact absurd (List.cons.inj opens).1 noObject
      · rfl

theorem value_list (room : Nat) (text : List Char) :
    value (room + 1) ('[' :: text) =
      (closeList (elements (value room)) text).map fun (xs, rest) => (.array xs, rest) := by
  rw [value, skipSpace_solid (by decide)]
  rfl

theorem value_object (room : Nat) (text : List Char) :
    value (room + 1) ('{' :: text) =
      (closeObject (members (member (value room)) []) text).map fun (ms, rest) =>
        (.object ms.reverse, rest) := by
  rw [value, skipSpace_solid (by decide)]
  rfl

theorem foldlM_cons_some (ms done : List (String × Json)) :
    ms.foldlM (fun done m => some (m :: done)) done = some (ms.reverse ++ done) := by
  induction ms generalizing done with
  | nil => rfl
  | cons m ms ih => simp [List.foldlM_cons, ih]

theorem value_flat {v : Json} (words : v.everywhere isWord = true) (flat : v.depth = 0)
    {rest : List Char} (ends : Ends rest) (room : Nat) :
    value room (v.chars ++ rest) = .ok (v, rest) := by
  cases v with
  | null => exact value_scalar rfl (by decide) room
  | bool b =>
      cases b with
      | true => exact value_scalar rfl (by decide) room
      | false => exact value_scalar rfl (by decide) room
  | number n =>
      cases n with
      | integer n =>
          have range : -Nat.pow 2 63 ≤ n ∧ n < Text.wordLimit := by
            simpa [everywhere, isWord] using words
          have read := number_integerChars ends range.1 range.2
          obtain ⟨c, digits, written, front⟩ := integerChars_cons n
          obtain ⟨solid, noList, noObject, -⟩ := front_plain front
          rw [chars, Number.chars]
          rw [written, List.cons_append] at read ⊢
          rw [value_scalar rfl ⟨solid, noList, noObject⟩, scalar_number front, read]
          rfl
      | real x => cases words
  | string s =>
      have read := string_chars s rest
      rw [chars, stringChars_append, value_scalar rfl (by decide), scalar, read]
      rfl
  | array xs => cases flat
  | object ms => cases flat

/-- Reading undoes writing. -/
theorem value_chars {room : Nat} {v : Json} (words : v.everywhere isWord = true)
    (fits : v.depth ≤ room) {rest : List Char} (ends : Ends rest) :
    value room (v.chars ++ rest) = .ok (v, rest) := by
  induction room generalizing v rest with
  | zero => exact value_flat words (Nat.le_zero.mp fits) ends 0
  | succ room ih =>
      cases v with
      | array xs =>
          have inside := (everywhere_array.mp words).2
          have shallow := depth_array_le.mp fits
          have read := elements_chars (fun x member => starts_chars (inside x member))
            (fun x member rest => ih (inside x member) (shallow x member)) rest
          rw [chars, List.cons_append, value_list, read]
          rfl
      | object ms =>
          have inside := (everywhere_object.mp words).2
          have shallow := depth_object_le.mp fits
          have steps : ∀ m ∈ ms, ∀ done rest, Ends rest →
              (member (value room) done m.1 (':' :: (m.2.chars ++ rest))).toOption =
                (some (m :: done)).map (·, rest) := by
            intro m isMember done rest ends
            rw [member, afterColon_chars, ih (inside m isMember) (shallow m isMember) ends]
            rfl
          have taken := members_chars steps [] rest
          rw [foldlM_cons_some, List.append_nil] at taken
          have read := eq_ok_of_toOption (closeObject_toOption taken)
          rw [chars, List.cons_append, value_object, read]
          simp [Except.map]
      | null => exact value_flat words rfl ends _
      | bool b => exact value_flat words rfl ends _
      | number n => exact value_flat words rfl ends _
      | string s => exact value_flat words rfl ends _

end BuildPeer.Json.Reader

namespace BuildPeer.Json

theorem parse_chars {v : Json} (words : v.everywhere isWord = true)
    (fits : v.depth ≤ nestingLimit) : parse v.chars = .ok v := by
  have read := Reader.value_chars words fits .nil
  rw [List.append_nil] at read
  apply Reader.eq_ok_of_toOption
  apply Reader.whole_toOption
  rw [read]
  rfl

end BuildPeer.Json
