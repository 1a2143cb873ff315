import BuildPeer.Json.Skip
import BuildPeer.Proofs.Json.Value

/-!
Stepping over a tree reads exactly what is written for it, however deep it is. The step keeps its
own list of what is open, so the statement is about any such list: behind a value it is the same as
in front of it. The induction is on the tree; each part of its text is one step of the machine.
-/

namespace BuildPeer.Json.Reader

-- Strings and numbers.

theorem skipString_escape {text rest : List Char} (escaped : skipEscape text = .ok ((), rest)) :
    skipString ('\\' :: text) = skipString rest := by
  rw [skipString]
  split
  · rename_i refused
    rw [escaped] at refused
    cases refused
  · rename_i again
    rw [escaped] at again
    cases again
    rfl

theorem skipString_escapedChar (c : Char) (rest : List Char) :
    skipString (escapedChar c ++ rest) = skipString rest := by
  rcases escapedChar_cases c with ⟨e, written, other, stands⟩ | ⟨control, written⟩ |
    ⟨noQuote, noEscape, printable, written⟩
  · have escaped : skipEscape (e :: rest) = .ok ((), rest) := by
      rw [skipEscape]
      · rw [stands]
      · exact other
    rw [written]
    exact skipString_escape escaped
  · have escaped : skipEscape ('u' :: '0' :: '0' :: (escapedChar.paddedHex c.toNat ++ rest)) =
        .ok ((), rest) := by
      rw [skipEscape, hexDigits_control control]
      rfl
    rw [written]
    exact skipString_escape escaped
  · rw [written, List.singleton_append, skipString, if_neg printable]
    · exact noQuote
    · exact noEscape

theorem skipString_chars (text rest : List Char) :
    skipString (text.flatMap escapedChar ++ '"' :: rest) = .ok ((), rest) := by
  induction text with
  | nil => rw [List.flatMap_nil, List.nil_append, skipString]
  | cons c text ih => rw [List.flatMap_cons, List.append_assoc, skipString_escapedChar, ih]

theorem skipNumberTail_ends {rest : List Char} (ends : Ends rest) :
    skipNumberTail rest = .ok ((), rest) := by
  unfold skipNumberTail
  split
  · exact absurd rfl (ends '.' rfl).2.1
  · unfold skipRealTail
    split
    · exact absurd rfl (ends 'e' rfl).2.2.1
    · exact absurd rfl (ends 'E' rfl).2.2.2
    · rfl

theorem dropWhile_isDigit {digits rest : List Char} (all : ∀ c ∈ digits, Text.isDigit c = true)
    (ends : Ends rest) : (digits ++ rest).dropWhile Text.isDigit = rest := by
  rw [List.dropWhile_append_of_pos all]
  cases rest with
  | nil => rfl
  | cons c rest => rw [List.dropWhile_cons_of_neg (by simp [(ends c rfl).1])]

theorem skipMagnitude_toDigits (n : Nat) {rest : List Char} (ends : Ends rest) :
    skipMagnitude (Nat.toDigits 10 n ++ rest) = .ok ((), rest) := by
  have all : ∀ d ∈ Nat.toDigits 10 n, Text.isDigit d = true :=
    fun d member => Text.isDigit_toDigits member
  rcases Nat.eq_zero_or_pos n with rfl | positive
  · rw [Nat.toDigits_zero, List.singleton_append, skipMagnitude, if_neg (by simp [ends.noDigit])]
    exact skipNumberTail_ends ends
  · obtain ⟨c, digits, written, notZero⟩ := toDigits_head positive
    have dropped := dropWhile_isDigit all ends
    rw [written] at all dropped ⊢
    have front : startsWithDigit (c :: digits ++ rest) = true := all c List.mem_cons_self
    rw [skipMagnitude]
    · rw [if_pos front, dropped]
      exact skipNumberTail_ends ends
    · exact fun _ same => notZero (List.cons.inj same).1

theorem skipScalar_integerChars (n : Int) {rest : List Char} (ends : Ends rest) :
    skipScalar (integerChars n ++ rest) = .ok ((), rest) := by
  have read := skipMagnitude_toDigits n.natAbs ends
  unfold integerChars
  split
  · exact read
  · obtain ⟨c, digits, written, digit⟩ := Text.toDigits_cons n.natAbs
    rw [written, List.cons_append] at read ⊢
    rw [skipScalar, if_pos digit, read]
    all_goals exact Text.ne_of_isDigit digit rfl

-- The machine.

/-- From one point of a step to another over a text, in at most as many parts as it has characters:
what is wanted, and what is open. -/
def Passes (start stop : Wanted × List Open) (text rest : List Char) : Prop :=
  ∃ parts ≤ text.length, ∀ more,
    skipFrom start.1 start.2 (parts + more) (text ++ rest) = skipFrom stop.1 stop.2 more rest

section

variable {start middle stop : Wanted × List Open} {text next rest : List Char}

theorem Passes.trans (first : Passes start middle text (next ++ rest))
    (second : Passes middle stop next rest) : Passes start stop (text ++ next) rest := by
  obtain ⟨parts, few, passed⟩ := first
  obtain ⟨others, fewOthers, passedNext⟩ := second
  refine ⟨parts + others, ?_, fun more => ?_⟩
  · rw [List.length_append]
    omega
  · rw [Nat.add_assoc, List.append_assoc, passed, passedNext]

theorem Passes.part {c : Char}
    (step : skipPart start.1 start.2 (c :: text ++ rest) = .ok (some stop, rest)) :
    Passes start stop (c :: text) rest := by
  refine ⟨1, by simp, fun more => ?_⟩
  rw [Nat.add_comm, skipFrom, step]

end

theorem skipName_chars (name : String) (rest : List Char) :
    skipName (stringChars name ++ ':' :: rest) = .ok ((), rest) := by
  have read := skipString_chars name.toList (':' :: rest)
  rw [stringChars_append, skipName, skipSpace_solid (by decide)]
  simp only [read]
  exact afterColon_chars rest

theorem passes_flat {c : Char} {text rest : List Char} (opened : List Open)
    (plain : isSpace c = false ∧ c ≠ '[' ∧ c ≠ '{')
    (skipped : skipScalar (c :: text ++ rest) = .ok ((), rest)) :
    Passes (.value, opened) (.separator, opened) (c :: text) rest := by
  obtain ⟨solid, noList, noObject⟩ := plain
  apply Passes.part
  unfold skipPart
  rw [List.cons_append] at skipped ⊢
  rw [skipSpace_solid solid]
  dsimp only
  split
  · rename_i opens
    exact absurd (List.cons.inj opens).1 noList
  · rename_i opens
    exact absurd (List.cons.inj opens).1 noObject
  · rw [skipped]
    rfl

theorem passes_string (s : String) (opened : List Open) (rest : List Char) :
    Passes (.value, opened) (.separator, opened) (stringChars s) rest := by
  have read := skipString_chars s.toList rest
  refine passes_flat opened (by decide) ?_
  change skipScalar (stringChars s ++ rest) = _
  rw [stringChars_append, skipScalar, read]

theorem passes_integer (n : Int) (opened : List Open) {rest : List Char} (ends : Ends rest) :
    Passes (.value, opened) (.separator, opened) (integerChars n) rest := by
  have read := skipScalar_integerChars n ends
  obtain ⟨c, digits, written, front⟩ := integerChars_cons n
  obtain ⟨solid, noList, noObject, -⟩ := front_plain front
  rw [written] at read ⊢
  exact passes_flat opened ⟨solid, noList, noObject⟩ read

theorem skipPart_bracket (opened : List Open) (text : List Char) :
    skipPart .value opened ('[' :: text) =
      match skipSpace text with
      | [] => .error (.upon .endInList [])
      | ']' :: rest => .ok (some (.separator, opened), rest)
      | rest => .ok (some (.value, .list :: opened), rest) := by
  rw [skipPart, skipSpace_solid (by decide)]
  rfl

theorem passes_bracket {text : List Char} (starts : Starts text) (opened : List Open) :
    Passes (.value, opened) (.value, .list :: opened) ['['] text := by
  obtain ⟨c, more, rfl, solid, opens⟩ := starts
  apply Passes.part
  rw [List.singleton_append, skipPart_bracket, skipSpace_solid solid]
  split
  · rename_i empty
    cases empty
  · rename_i closes
    exact absurd (List.cons.inj closes).1 opens
  · rfl

theorem skipPart_brace (name : String) (opened : List Open) (rest : List Char) :
    skipPart .value opened ('{' :: (stringChars name ++ rest)) =
      (skipName (stringChars name ++ rest)).map fun ((), rest) =>
        (some (.value, .object :: opened), rest) := by
  rw [skipPart, skipSpace_solid (by decide)]
  rfl

theorem passes_brace (name : String) (opened : List Open) (rest : List Char) :
    Passes (.value, opened) (.value, .object :: opened)
      ('{' :: (stringChars name ++ [':'])) rest := by
  apply Passes.part
  rw [List.cons_append, List.append_assoc, List.singleton_append, skipPart_brace, skipName_chars]
  rfl

theorem skipPart_memberComma (outer : List Open) (text : List Char) :
    skipPart .separator (.object :: outer) (',' :: text) =
      (skipName text).map fun ((), rest) => (some (.value, .object :: outer), rest) := by
  rw [skipPart, skipSpace_solid (by decide)]
  rfl

theorem passes_memberComma (name : String) (outer : List Open) (rest : List Char) :
    Passes (.separator, .object :: outer) (.value, .object :: outer)
      (',' :: (stringChars name ++ [':'])) rest := by
  apply Passes.part
  rw [List.cons_append, List.append_assoc, List.singleton_append, skipPart_memberComma,
    skipName_chars]
  rfl

-- Whole values.

mutual
theorem passes_value : ∀ v : Json, v.everywhere isWord = true → ∀ opened {rest}, Ends rest →
    Passes (.value, opened) (.separator, opened) v.chars rest
  | .null, _, opened, rest, _ => passes_flat opened (by decide) rfl
  | .bool true, _, opened, rest, _ => passes_flat opened (by decide) rfl
  | .bool false, _, opened, rest, _ => passes_flat opened (by decide) rfl
  | .number (.integer n), _, opened, rest, ends => passes_integer n opened ends
  | .number (.real x), words, _, _, _ => by cases words
  | .string s, _, opened, rest, _ => passes_string s opened rest
  | .array [], _, opened, rest, _ => Passes.part rfl
  | .object [], _, opened, rest, _ => Passes.part rfl
  | .array (x :: xs), words, opened, rest, _ => by
      have inside := (everywhere_array.mp words).2
      have first := inside x List.mem_cons_self
      have front := (starts_chars first).append (elementChars false xs ++ rest)
      have opens := passes_bracket front opened
      have element := passes_value x first (.list :: opened) (ends_elementChars xs rest)
      have more := passes_elements xs (fun x member => inside x (List.mem_cons_of_mem _ member))
        opened rest
      rw [← List.append_assoc] at opens
      exact opens.trans (element.trans more)
  | .object ((name, v) :: ms), words, opened, rest, _ => by
      have inside := (everywhere_object.mp words).2
      have first := inside (name, v) List.mem_cons_self
      have opens := passes_brace name opened (v.chars ++ memberChars false ms ++ rest)
      have member := passes_value v first (.object :: opened) (ends_memberChars ms rest)
      have more := passes_members ms (fun m member => inside m (List.mem_cons_of_mem _ member))
        opened rest
      have written : (Json.object ((name, v) :: ms)).chars =
          ('{' :: (stringChars name ++ [':'])) ++ (v.chars ++ memberChars false ms) := by
        simp [chars, memberChars]
      rw [written]
      exact opens.trans (member.trans more)
theorem passes_elements : ∀ xs : List Json, (∀ x ∈ xs, x.everywhere isWord = true) →
    ∀ outer rest, Passes (.separator, .list :: outer) (.separator, outer)
      (elementChars false xs) rest
  | [], _, outer, rest => Passes.part rfl
  | x :: xs, words, outer, rest => by
      have comma : Passes (.separator, .list :: outer) (.value, .list :: outer) [',']
          (x.chars ++ elementChars false xs ++ rest) := Passes.part rfl
      have element := passes_value x (words x List.mem_cons_self) (.list :: outer)
        (ends_elementChars xs rest)
      have more := passes_elements xs (fun x member => words x (List.mem_cons_of_mem _ member))
        outer rest
      have written :
          elementChars false (x :: xs) = [','] ++ (x.chars ++ elementChars false xs) := by
        simp [elementChars]
      rw [written]
      exact comma.trans (element.trans more)
theorem passes_members : ∀ ms : List (String × Json), (∀ m ∈ ms, m.2.everywhere isWord = true) →
    ∀ outer rest, Passes (.separator, .object :: outer) (.separator, outer)
      (memberChars false ms) rest
  | [], _, outer, rest => Passes.part rfl
  | (name, v) :: ms, words, outer, rest => by
      have comma := passes_memberComma name outer (v.chars ++ memberChars false ms ++ rest)
      have member := passes_value v (words (name, v) List.mem_cons_self) (.object :: outer)
        (ends_memberChars ms rest)
      have more := passes_members ms (fun m member => words m (List.mem_cons_of_mem _ member))
        outer rest
      have written : memberChars false ((name, v) :: ms) =
          (',' :: (stringChars name ++ [':'])) ++ (v.chars ++ memberChars false ms) := by
        simp [memberChars]
      rw [written]
      exact comma.trans (member.trans more)
end

/-- A tree of any depth is stepped over. -/
theorem skip_chars {v : Json} (words : v.everywhere isWord = true) {rest : List Char}
    (ends : Ends rest) : skip (v.chars ++ rest) = .ok ((), rest) := by
  obtain ⟨parts, few, passed⟩ := passes_value v words [] ends
  -- The part after the last one only finds that nothing is open any more.
  obtain ⟨more, enough⟩ : ∃ more, (v.chars ++ rest).length + 1 = parts + (more + 1) := by
    refine ⟨(v.chars ++ rest).length - parts, ?_⟩
    rw [List.length_append]
    omega
  rw [skip, enough, passed]
  rfl

end BuildPeer.Json.Reader
