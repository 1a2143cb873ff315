import BuildPeer.Text.Blank

/-!
Texts with the blanks at their ends removed: what is removed is blank, and what is left neither
begins nor ends with a blank. A text without blanks is left whole.
-/

namespace BuildPeer.Text

/-- `inner` is `text` without the blanks at its end. -/
structure TrimsEnd (text inner : List Char) : Prop where
  blanks : ∃ right, text = inner ++ right ∧ ∀ c ∈ right, isBlank c = true
  solidLast : ∀ c, inner.getLast? = some c → isBlank c = false

structure Trims (text inner : List Char) : Prop where
  blanks : ∃ left right, text = left ++ inner ++ right ∧
    (∀ c ∈ left, isBlank c = true) ∧ ∀ c ∈ right, isBlank c = true
  solidFirst : ∀ c, inner.head? = some c → isBlank c = false
  solidLast : ∀ c, inner.getLast? = some c → isBlank c = false

theorem dropWhile_blanks (text : List Char) :
    ∃ left, text = left ++ text.dropWhile isBlank ∧ (∀ c ∈ left, isBlank c = true) ∧
      ∀ c, (text.dropWhile isBlank).head? = some c → isBlank c = false := by
  refine ⟨text.takeWhile isBlank, List.takeWhile_append_dropWhile.symm,
    List.all_eq_true.mp List.all_takeWhile, ?_⟩
  intro c first
  have stops := List.head?_dropWhile_not isBlank text
  rw [first] at stops
  exact stops

theorem trimEnd_trimsEnd (text : List Char) : TrimsEnd text (trimEnd text) := by
  obtain ⟨left, split, blank, solid⟩ := dropWhile_blanks text.reverse
  refine ⟨⟨left.reverse, ?_, ?_⟩, ?_⟩
  · rw [trimEnd, ← List.reverse_append, ← split, List.reverse_reverse]
  · exact fun c member => blank c (List.mem_reverse.mp member)
  · intro c last
    rw [trimEnd, List.getLast?_reverse] at last
    exact solid c last

theorem trim_trims (text : List Char) : Trims text (trim text) := by
  obtain ⟨left, split, blankLeft, solid⟩ := dropWhile_blanks text
  obtain ⟨⟨right, splitEnd, blankRight⟩, solidLast⟩ := trimEnd_trimsEnd (trimStart text)
  refine ⟨⟨left, right, ?_, blankLeft, blankRight⟩, ?_, solidLast⟩
  · rw [List.append_assoc, trim, ← splitEnd]
    exact split
  · intro c first
    have front := congrArg List.head? splitEnd
    change (trimEnd (trimStart text)).head? = some c at first
    rw [List.head?_append, first, Option.some_or] at front
    exact solid c front

-- Blanks around a word.

theorem dropWhile_isBlank {left word : List Char} (blank : ∀ c ∈ left, isBlank c = true)
    (solid : ∀ c ∈ word, isBlank c = false) (some_ : word ≠ []) (right : List Char) :
    (left ++ (word ++ right)).dropWhile isBlank = word ++ right := by
  rw [List.dropWhile_append_of_pos blank]
  cases word with
  | nil => exact absurd rfl some_
  | cons c word => simp [solid c List.mem_cons_self]

theorem trim_between {left word right : List Char} (blankLeft : ∀ c ∈ left, isBlank c = true)
    (blankRight : ∀ c ∈ right, isBlank c = true) (solid : ∀ c ∈ word, isBlank c = false)
    (some_ : word ≠ []) : trim (left ++ word ++ right) = word := by
  have backwards : ∀ c ∈ right.reverse, isBlank c = true :=
    fun c member => blankRight c (List.mem_reverse.mp member)
  have solidBackwards : ∀ c ∈ word.reverse, isBlank c = false :=
    fun c member => solid c (List.mem_reverse.mp member)
  have last := dropWhile_isBlank backwards solidBackwards (by simpa using some_) []
  rw [trim, trimStart, List.append_assoc, dropWhile_isBlank blankLeft solid some_, trimEnd,
    List.reverse_append]
  simpa using congrArg List.reverse last

end BuildPeer.Text
