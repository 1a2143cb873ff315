import BuildPeer.Json.Sequence
import BuildPeer.Proofs.Json.Scalar

/-!
Lists and objects read back from what is written for them, for any way to read the values in them:
a reader that gives back each element gives back the list, and a step that takes each member as a
function of it takes all of them as the fold of that function. A step may refuse a member; then the
whole is refused, whatever is behind.
-/

namespace BuildPeer.Json.Reader

theorem skipSpace_solid {c : Char} (solid : isSpace c = false) (rest : List Char) :
    skipSpace (c :: rest) = c :: rest := by
  simp [skipSpace, solid]

def Starts (text : List Char) : Prop :=
  ∃ c rest, text = c :: rest ∧ isSpace c = false ∧ c ≠ ']'

theorem Starts.append {text : List Char} (starts : Starts text) (rest : List Char) :
    Starts (text ++ rest) := by
  obtain ⟨c, more, rfl, solid, opens⟩ := starts
  exact ⟨c, more ++ rest, rfl, solid, opens⟩

theorem ends_cons {c : Char} (stops : Text.isDigit c = false ∧ c ≠ '.' ∧ c ≠ 'e' ∧ c ≠ 'E')
    (rest : List Char) : Ends (c :: rest) := by
  rintro d same
  cases same
  exact stops

theorem ends_elementChars (xs : List Json) (rest : List Char) :
    Ends (elementChars false xs ++ rest) := by
  cases xs with
  | nil => exact ends_cons (by decide) rest
  | cons x xs =>
      rw [elementChars, if_neg Bool.false_ne_true]
      exact ends_cons (by decide) _

theorem ends_memberChars (ms : List (String × Json)) (rest : List Char) :
    Ends (memberChars false ms ++ rest) := by
  cases ms with
  | nil => exact ends_cons (by decide) rest
  | cons m ms =>
      rw [memberChars, if_neg Bool.false_ne_true]
      exact ends_cons (by decide) _

-- Lists.

theorem nextElement_end {element : Reader α} (first : Bool) (rest : List Char) :
    nextElement first element (']' :: rest) = .ok (none, ']' :: rest) := by
  unfold nextElement
  rw [skipSpace_solid (by decide)]
  rfl

theorem nextElement_comma {element : Reader α} (text : List Char) :
    nextElement false element (',' :: text) =
      match skipSpace text with
      | [] => .error (.upon .endInValue [])
      | ']' :: rest => .error (.upon .trailingComma (']' :: rest))
      | text => (element text).map fun (a, rest) => (some a, rest) := by
  unfold nextElement
  rw [skipSpace_solid (by decide)]
  rfl

theorem nextElement_chars {element : Reader α} {text : List Char} (starts : Starts text)
    (first : Bool) :
    nextElement first element ((if first then [] else [',']) ++ text) =
      (element text).map fun (a, rest) => (some a, rest) := by
  obtain ⟨c, more, rfl, solid, opens⟩ := starts
  cases first with
  | true =>
      rw [if_pos rfl, List.nil_append]
      unfold nextElement
      rw [skipSpace_solid solid]
      split
      · rename_i empty
        cases empty
      · rename_i closes
        exact absurd (List.cons.inj closes).1 opens
      · rw [if_pos rfl]
  | false =>
      rw [if_neg Bool.false_ne_true, List.singleton_append, nextElement_comma,
        skipSpace_solid solid]
      split
      · rename_i empty
        cases empty
      · rename_i closes
        exact absurd (List.cons.inj closes).1 opens
      · rfl

theorem length_le_elementChars {xs : List Json} (starts : ∀ x ∈ xs, Starts x.chars)
    (first : Bool) : xs.length ≤ (elementChars first xs).length := by
  induction xs generalizing first with
  | nil => simp
  | cons x xs ih =>
      have more := ih (fun x member => starts x (List.mem_cons_of_mem _ member)) false
      obtain ⟨c, text, written, -⟩ := starts x List.mem_cons_self
      simp only [elementChars, written, List.length_append, List.length_cons]
      omega

theorem elementsFrom_chars {element : Reader Json} {xs : List Json}
    (starts : ∀ x ∈ xs, Starts x.chars)
    (reads : ∀ x ∈ xs, ∀ rest, Ends rest → element (x.chars ++ rest) = .ok (x, rest))
    (done : List Json) (first : Bool) {rounds : Nat} (enough : xs.length < rounds)
    (rest : List Char) :
    elementsFrom element done first rounds (elementChars first xs ++ rest) =
      .ok (done.reverse ++ xs, ']' :: rest) := by
  induction xs generalizing done first rounds with
  | nil =>
      cases rounds with
      | zero => cases enough
      | succ rounds =>
          rw [elementChars, List.singleton_append, elementsFrom, nextElement_end]
          simp
  | cons x xs ih =>
      cases rounds with
      | zero => cases enough
      | succ rounds =>
          have read := reads x List.mem_cons_self _ (ends_elementChars xs rest)
          have front := (starts x List.mem_cons_self).append (elementChars false xs ++ rest)
          have next : nextElement first element (elementChars first (x :: xs) ++ rest) =
              .ok (some x, elementChars false xs ++ rest) := by
            rw [elementChars, List.append_assoc, List.append_assoc, nextElement_chars front, read]
            rfl
          have more := ih (fun x member => starts x (List.mem_cons_of_mem _ member))
            (fun x member => reads x (List.mem_cons_of_mem _ member)) (x :: done) false
            (Nat.lt_of_succ_lt_succ enough)
          simp only [elementsFrom, next, more]
          simp

theorem elements_chars {element : Reader Json} {xs : List Json}
    (starts : ∀ x ∈ xs, Starts x.chars)
    (reads : ∀ x ∈ xs, ∀ rest, Ends rest → element (x.chars ++ rest) = .ok (x, rest))
    (rest : List Char) :
    closeList (elements element) (elementChars true xs ++ rest) = .ok (xs, rest) := by
  have short := length_le_elementChars starts true
  have enough : xs.length < (elementChars true xs ++ rest).length + 1 := by
    rw [List.length_append]
    omega
  have read := elementsFrom_chars starts reads [] true enough rest
  have close : listEnd (']' :: rest) = .ok ((), rest) := by
    rw [listEnd, skipSpace_solid (by decide)]
    rfl
  simp only [closeList, elements, read, close]
  rfl

-- Objects.

theorem nextName_end (first : Bool) (rest : List Char) :
    nextName first ('}' :: rest) = .ok (none, '}' :: rest) := by
  unfold nextName
  rw [skipSpace_solid (by decide)]
  rfl

theorem nextName_chars (first : Bool) (name : String) (rest : List Char) :
    nextName first ((if first then [] else [',']) ++ stringChars name ++ rest) =
      .ok (some name, rest) := by
  have read := string_chars name rest
  rw [List.append_assoc, stringChars_append]
  cases first with
  | true =>
      change (string (name.toList.flatMap escapedChar ++ '"' :: rest)).map _ = _
      rw [read]
      rfl
  | false =>
      change (string (name.toList.flatMap escapedChar ++ '"' :: rest)).map _ = _
      rw [read]
      rfl

theorem length_le_memberChars (ms : List (String × Json)) (first : Bool) :
    ms.length ≤ (memberChars first ms).length := by
  induction ms generalizing first with
  | nil => simp
  | cons m ms ih =>
      obtain ⟨name, v⟩ := m
      have more := ih false
      simp only [memberChars, List.length_append, List.length_cons]
      omega

/-- A step that takes every member as a function `next` of it takes all of them as the fold of
`next`, and refuses them when `next` has no answer to one. -/
theorem membersFrom_chars {σ : Type} {step : σ → String → Reader σ}
    {next : σ → String × Json → Option σ} {ms : List (String × Json)}
    (steps : ∀ m ∈ ms, ∀ state rest, Ends rest →
      (step state m.1 (':' :: (m.2.chars ++ rest))).toOption = (next state m).map (·, rest))
    (state : σ) (first : Bool) {rounds : Nat} (enough : ms.length < rounds) (rest : List Char) :
    (membersFrom step state first rounds (memberChars first ms ++ rest)).toOption =
      (ms.foldlM next state).map (·, '}' :: rest) := by
  induction ms generalizing state first rounds with
  | nil =>
      cases rounds with
      | zero => cases enough
      | succ rounds =>
          rw [memberChars, List.singleton_append, membersFrom, nextName_end]
          rfl
  | cons m ms ih =>
      obtain ⟨name, v⟩ := m
      cases rounds with
      | zero => cases enough
      | succ rounds =>
          have named := nextName_chars first name (':' :: (v.chars ++ (memberChars false ms ++ rest)))
          have taken := steps (name, v) List.mem_cons_self state _ (ends_memberChars ms rest)
          have split : memberChars first ((name, v) :: ms) ++ rest =
              (if first then [] else [',']) ++ stringChars name ++
                ':' :: (v.chars ++ (memberChars false ms ++ rest)) := by
            simp [memberChars]
          rw [split, membersFrom, named, List.foldlM_cons]
          dsimp only at taken ⊢
          generalize step state name (':' :: (v.chars ++ (memberChars false ms ++ rest))) = stepped
            at taken
          cases result : next state (name, v) with
          | none =>
              rw [result] at taken
              cases stepped with
              | error fault => rfl
              | ok read => cases taken
          | some after =>
              rw [result] at taken
              cases stepped with
              | error fault => cases taken
              | ok read =>
                  cases taken
                  exact ih (fun m member => steps m (List.mem_cons_of_mem _ member)) after false
                    (Nat.lt_of_succ_lt_succ enough)

theorem members_chars {σ : Type} {step : σ → String → Reader σ}
    {next : σ → String × Json → Option σ} {ms : List (String × Json)}
    (steps : ∀ m ∈ ms, ∀ state rest, Ends rest →
      (step state m.1 (':' :: (m.2.chars ++ rest))).toOption = (next state m).map (·, rest))
    (state : σ) (rest : List Char) :
    (members step state (memberChars true ms ++ rest)).toOption =
      (ms.foldlM next state).map (·, '}' :: rest) := by
  have short := length_le_memberChars ms true
  have enough : ms.length < (memberChars true ms ++ rest).length + 1 := by
    rw [List.length_append]
    omega
  exact membersFrom_chars steps state true enough rest

theorem closeObject_toOption {body : Reader α} {text rest : List Char} {answer : Option α}
    (read : (body text).toOption = answer.map (·, '}' :: rest)) :
    (closeObject body text).toOption = answer.map (·, rest) := by
  unfold closeObject
  generalize body text = given at read
  cases answer with
  | none =>
      cases given with
      | ok read => cases read
      | error fault => cases fault <;> rfl
  | some a =>
      cases given with
      | error fault => cases read
      | ok given =>
          cases read
          rfl

theorem afterColon_chars {value : Reader α} (text : List Char) :
    afterColon value (':' :: text) = value text := by
  rw [afterColon, skipSpace_solid (by decide)]
  rfl

-- Whole texts.

theorem eq_ok_of_toOption {ε : Type} {given : Except ε α} {a : α}
    (read : given.toOption = some a) : given = .ok a := by
  cases given with
  | error fault => cases read
  | ok other =>
      cases read
      rfl

theorem map_toOption {ε β : Type} {given : Except ε (α × List Char)} {answer : Option α}
    {rest : List Char} (f : α → β) (read : given.toOption = answer.map (·, rest)) :
    (given.map fun (a, rest) => (f a, rest)).toOption = (answer.map f).map (·, rest) := by
  cases given with
  | error fault =>
      cases answer with
      | none => rfl
      | some a => cases read
  | ok given =>
      cases answer with
      | none => cases read
      | some a =>
          cases read
          rfl

theorem whole_toOption {value : Reader α} {text : List Char} {answer : Option α}
    (read : (value text).toOption = answer.map (·, [])) :
    (whole value text).toOption = answer := by
  unfold whole
  generalize value text = given at read
  cases answer with
  | none =>
      cases given with
      | ok read => cases read
      | error fault => rfl
  | some a =>
      cases given with
      | error fault => cases read
      | ok given =>
          cases read
          rfl

end BuildPeer.Json.Reader
