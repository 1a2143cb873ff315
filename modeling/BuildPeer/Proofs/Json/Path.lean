import BuildPeer.Proofs.Json.Tree

/-!
Where a value is found in a tree. A name that an object repeats stands for its last member; the
normal form keeps just that one, at every depth, so the same path leads to the same value.
-/

namespace BuildPeer.Json

def named (name : String) (ms : List (String × Json)) : List Json :=
  (ms.filter fun m => m.1 = name).map Prod.snd

inductive Step where
  | index (n : Nat)
  | name (s : String)
  deriving DecidableEq, Repr

/-- The part of a value one step inside; for a name, the last member of that name. -/
def get? : Json → Step → Option Json
  | .array xs, .index n => xs[n]?
  | .object ms, .name name => (named name ms).getLast?
  | _, _ => none

def at? (v : Json) (path : List Step) : Option Json :=
  path.foldlM get? v

variable {name k : String} {v : Json} {ms done : List (String × Json)}

@[simp]
theorem named_nil : named name [] = [] :=
  rfl

theorem named_cons :
    named name ((k, v) :: ms) = if k = name then v :: named name ms else named name ms := by
  by_cases same : k = name
  · simp [named, same]
  · simp [named, same]

theorem named_eq_nil (above : ∀ m ∈ ms, name < m.1) : named name ms = [] := by
  have other : ∀ m ∈ ms, ¬decide (m.1 = name) = true := by
    intro m member same
    have larger := above m member
    rw [of_decide_eq_true same] at larger
    exact String.lt_irrefl name larger
  rw [named, List.filter_eq_nil_iff.mpr other, List.map_nil]

theorem mem_named : v ∈ named name ms ↔ (name, v) ∈ ms := by
  simp [named]

theorem named_put (ascending : (ms.map Prod.fst).Pairwise (· < ·)) :
    named name (put k v ms) = if k = name then [v] else named name ms := by
  induction ms with
  | nil => rw [put, named_cons, named_nil]
  | cons m ms ih =>
      obtain ⟨j, w⟩ := m
      rw [List.map_cons, List.pairwise_cons] at ascending
      obtain ⟨first, rest⟩ := ascending
      have above : ∀ m ∈ ms, j < m.1 := fun m member => first m.1 (List.mem_map_of_mem member)
      rw [put]
      split
      · rename_i before
        rw [named_cons]
        by_cases same : k = name
        · have aboveAll : ∀ m ∈ (j, w) :: ms, name < m.1 := by
            intro m member
            rw [← same]
            rcases List.mem_cons.mp member with rfl | later
            · exact before
            · exact String.lt_trans before (above m later)
          rw [if_pos same, if_pos same, named_eq_nil aboveAll]
        · rw [if_neg same, if_neg same]
      · split
        · rename_i equal
          subst equal
          rw [named_cons, named_cons]
          by_cases same : k = name
          · rw [if_pos same, if_pos same, named_eq_nil (same ▸ above)]
          · rw [if_neg same, if_neg same, if_neg same]
        · rename_i other
          rw [named_cons, named_cons, ih rest]
          by_cases same : j = name
          · have notNamed : k ≠ name := same ▸ other
            rw [if_neg notNamed, if_neg notNamed]
          · rw [if_neg same, if_neg same]

theorem sortedElements_eq_map (xs : List Json) : sortedElements xs = xs.map sorted := by
  induction xs with
  | nil => rfl
  | cons x xs ih => rw [sortedElements, ih, List.map_cons]

/-- Of the members of one name, sorting keeps the last. -/
theorem named_sortedMembers (ascending : (done.map Prod.fst).Pairwise (· < ·)) :
    named name (sortedMembers done ms) =
      ((named name ms).getLast?.map fun v => [v.sorted]).getD (named name done) := by
  induction ms generalizing done with
  | nil => rfl
  | cons m ms ih =>
      obtain ⟨k, v⟩ := m
      rw [sortedMembers, ih (put_ascending ascending), named_put ascending, named_cons]
      by_cases same : k = name
      · rw [if_pos same, if_pos same, List.getLast?_cons]
        cases (named name ms).getLast? with
        | none => rfl
        | some last => rfl
      · rw [if_neg same, if_neg same]

theorem sorted_get? (v : Json) (step : Step) : v.sorted.get? step = (v.get? step).map sorted := by
  cases v with
  | array xs =>
      cases step with
      | index n => rw [sorted, sortedElements_eq_map, get?, get?, List.getElem?_map]
      | name s => rfl
  | object ms =>
      cases step with
      | index n => rfl
      | name s =>
          rw [sorted, get?, get?, named_sortedMembers List.Pairwise.nil]
          cases (named s ms).getLast? with
          | none => rfl
          | some last => rfl
  | null => rfl
  | bool b => rfl
  | number n => rfl
  | string s => rfl

/-- A path leads to the same value in the normal form. -/
theorem sorted_at? (v : Json) (path : List Step) : v.sorted.at? path = (v.at? path).map sorted := by
  induction path generalizing v with
  | nil => rfl
  | cons step path ih =>
      rw [at?, at?, List.foldlM_cons, List.foldlM_cons, sorted_get?]
      cases v.get? step with
      | none => rfl
      | some inside => exact ih inside

end BuildPeer.Json
