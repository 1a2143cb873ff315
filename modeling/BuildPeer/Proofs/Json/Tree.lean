import BuildPeer.Json.Basic
import BuildPeer.Text.Numeral

/-!
Properties of a tree that are properties of each of its parts, and the normal form. A value is in
normal form when the names in each of its objects ascend; sorting leaves such a value as it is, and
makes every other value one.
-/

namespace BuildPeer.Json

-- What holds of every part.

mutual
def everywhere (p : Json → Bool) : Json → Bool
  | .null => p .null
  | .bool b => p (.bool b)
  | .number n => p (.number n)
  | .string s => p (.string s)
  | .array xs => p (.array xs) && everywhereElements p xs
  | .object ms => p (.object ms) && everywhereMembers p ms
def everywhereElements (p : Json → Bool) : List Json → Bool
  | [] => true
  | x :: xs => everywhere p x && everywhereElements p xs
def everywhereMembers (p : Json → Bool) : List (String × Json) → Bool
  | [] => true
  | (_, v) :: ms => everywhere p v && everywhereMembers p ms
end

/-- Whether a number is an integer that fits a signed or an unsigned word of 64 bits. -/
def isWord : Json → Bool
  | .number (.integer n) => -Nat.pow 2 63 ≤ n && n < Text.wordLimit
  | .number (.real _) => false
  | _ => true

def isOrdered : Json → Bool
  | .object ms => decide ((ms.map Prod.fst).Pairwise (· < ·))
  | _ => true

variable {p : Json → Bool}

theorem everywhereElements_iff {xs : List Json} :
    everywhereElements p xs = true ↔ ∀ x ∈ xs, everywhere p x = true := by
  induction xs with
  | nil => simp [everywhereElements]
  | cons x xs ih => simp [everywhereElements, ih]

theorem everywhereMembers_iff {ms : List (String × Json)} :
    everywhereMembers p ms = true ↔ ∀ m ∈ ms, everywhere p m.2 = true := by
  induction ms with
  | nil => simp [everywhereMembers]
  | cons m ms ih =>
      obtain ⟨name, v⟩ := m
      simp [everywhereMembers, ih]

theorem everywhere_array {xs : List Json} :
    everywhere p (.array xs) = true ↔
      p (.array xs) = true ∧ ∀ x ∈ xs, everywhere p x = true := by
  rw [everywhere, Bool.and_eq_true, everywhereElements_iff]

theorem everywhere_object {ms : List (String × Json)} :
    everywhere p (.object ms) = true ↔
      p (.object ms) = true ∧ ∀ m ∈ ms, everywhere p m.2 = true := by
  rw [everywhere, Bool.and_eq_true, everywhereMembers_iff]

-- How deep a part is.

theorem depthElements_le {xs : List Json} {room : Nat} :
    depth.depthElements xs ≤ room ↔ ∀ x ∈ xs, depth x ≤ room := by
  induction xs with
  | nil => simp [depth.depthElements]
  | cons x xs ih => rw [depth.depthElements, Nat.max_le, ih, List.forall_mem_cons]

theorem depthMembers_le {ms : List (String × Json)} {room : Nat} :
    depth.depthMembers ms ≤ room ↔ ∀ m ∈ ms, depth m.2 ≤ room := by
  induction ms with
  | nil => simp [depth.depthMembers]
  | cons m ms ih =>
      obtain ⟨name, v⟩ := m
      rw [depth.depthMembers, Nat.max_le, ih, List.forall_mem_cons]

theorem depth_array_le {xs : List Json} {room : Nat} :
    depth (.array xs) ≤ room + 1 ↔ ∀ x ∈ xs, depth x ≤ room := by
  rw [depth, Nat.succ_le_succ_iff, depthElements_le]

theorem depth_object_le {ms : List (String × Json)} {room : Nat} :
    depth (.object ms) ≤ room + 1 ↔ ∀ m ∈ ms, depth m.2 ≤ room := by
  rw [depth, Nat.succ_le_succ_iff, depthMembers_le]

-- The normal form.

theorem put_last {name : String} {v : Json} {done : List (String × Json)}
    (last : ∀ m ∈ done, m.1 < name) : put name v done = done ++ [(name, v)] := by
  induction done with
  | nil => rfl
  | cons m done ih =>
      obtain ⟨k, w⟩ := m
      have before : k < name := last (k, w) List.mem_cons_self
      have notAfter : ¬name < k := fun after => String.lt_irrefl k (String.lt_trans before after)
      have other : name ≠ k := by
        rintro rfl
        exact String.lt_irrefl _ before
      rw [put, if_neg notAfter, if_neg other, ih fun m member => last m (List.mem_cons_of_mem _ member)]
      rfl

theorem sortedMembers_of_ordered {done ms : List (String × Json)}
    (values : ∀ m ∈ ms, m.2.sorted = m.2)
    (ascending : ((done ++ ms).map Prod.fst).Pairwise (· < ·)) :
    sortedMembers done ms = done ++ ms := by
  induction ms generalizing done with
  | nil => simp [sortedMembers]
  | cons m ms ih =>
      obtain ⟨name, v⟩ := m
      have last : ∀ m ∈ done, m.1 < name := by
        intro m member
        rw [List.map_append, List.pairwise_append] at ascending
        exact ascending.2.2 m.1 (List.mem_map_of_mem member) name (by simp)
      have same : v.sorted = v := values (name, v) List.mem_cons_self
      have whole : done ++ (name, v) :: ms = (done ++ [(name, v)]) ++ ms := by simp
      rw [sortedMembers, same, put_last last, whole]
      rw [whole] at ascending
      exact ih (fun m member => values m (List.mem_cons_of_mem _ member)) ascending

mutual
theorem sorted_of_ordered : ∀ v : Json, v.everywhere isOrdered = true → v.sorted = v
  | .null, _ => rfl
  | .bool b, _ => rfl
  | .number n, _ => rfl
  | .string s, _ => rfl
  | .array xs, ordered => by
      rw [sorted, elements_of_ordered xs (everywhere_array.mp ordered).2]
  | .object ms, ordered => by
      obtain ⟨ascending, inside⟩ := everywhere_object.mp ordered
      have values := members_of_ordered ms inside
      rw [sorted, sortedMembers_of_ordered values (by simpa [isOrdered] using ascending)]
      rfl
theorem elements_of_ordered :
    ∀ xs : List Json, (∀ x ∈ xs, x.everywhere isOrdered = true) → sortedElements xs = xs
  | [], _ => rfl
  | x :: xs, ordered => by
      rw [sortedElements, sorted_of_ordered x (ordered x List.mem_cons_self),
        elements_of_ordered xs fun x member => ordered x (List.mem_cons_of_mem _ member)]
theorem members_of_ordered :
    ∀ ms : List (String × Json), (∀ m ∈ ms, m.2.everywhere isOrdered = true) →
      ∀ m ∈ ms, m.2.sorted = m.2
  | [], _, m, member => by cases member
  | (name, v) :: ms, ordered, m, member => by
      rcases List.mem_cons.mp member with rfl | later
      · exact sorted_of_ordered v (ordered (name, v) List.mem_cons_self)
      · exact members_of_ordered ms (fun m member => ordered m (List.mem_cons_of_mem _ member)) m later
end

theorem put_members {name : String} {v : Json} {ms : List (String × Json)} :
    ∀ m ∈ put name v ms, m = (name, v) ∨ m ∈ ms := by
  induction ms with
  | nil => simp [put]
  | cons m ms ih =>
      obtain ⟨k, w⟩ := m
      intro m member
      rw [put] at member
      split at member
      · simpa using member
      · split at member
        · rcases List.mem_cons.mp member with same | later
          · exact .inl same
          · exact .inr (List.mem_cons_of_mem _ later)
        · rcases List.mem_cons.mp member with rfl | later
          · exact .inr List.mem_cons_self
          · rcases ih m later with same | old
            · exact .inl same
            · exact .inr (List.mem_cons_of_mem _ old)

theorem put_ascending {name : String} {v : Json} {ms : List (String × Json)}
    (ascending : (ms.map Prod.fst).Pairwise (· < ·)) :
    ((put name v ms).map Prod.fst).Pairwise (· < ·) := by
  induction ms with
  | nil => simp [put]
  | cons m ms ih =>
      obtain ⟨k, w⟩ := m
      rw [List.map_cons, List.pairwise_cons] at ascending
      obtain ⟨above, rest⟩ := ascending
      rw [put]
      split
      · rename_i before
        refine List.pairwise_cons.mpr ⟨?_, List.pairwise_cons.mpr ⟨above, rest⟩⟩
        intro other member
        rcases List.mem_cons.mp member with rfl | later
        · exact before
        · exact String.lt_trans before (above other later)
      · split
        · rename_i same
          rw [same]
          exact List.pairwise_cons.mpr ⟨above, rest⟩
        · rename_i notBefore other
          have after : k < name :=
            String.not_le.mp fun le => other (String.le_antisymm le (String.not_lt.mp notBefore))
          refine List.pairwise_cons.mpr ⟨?_, ih rest⟩
          intro k' member
          obtain ⟨m, isMember, rfl⟩ := List.mem_map.mp member
          rcases put_members m isMember with rfl | old
          · exact after
          · exact above m.1 (List.mem_map_of_mem old)

mutual
theorem sorted_ordered : ∀ v : Json, v.sorted.everywhere isOrdered = true
  | .null => rfl
  | .bool b => rfl
  | .number n => rfl
  | .string s => rfl
  | .array xs => everywhere_array.mpr ⟨rfl, sortedElements_ordered xs⟩
  | .object ms => sortedMembers_ordered ms [] (by simp) (by simp)
theorem sortedElements_ordered :
    ∀ xs : List Json, ∀ x ∈ sortedElements xs, x.everywhere isOrdered = true
  | [], x, member => by cases member
  | y :: ys, x, member => by
      rcases List.mem_cons.mp member with rfl | later
      · exact sorted_ordered y
      · exact sortedElements_ordered ys x later
theorem sortedMembers_ordered :
    ∀ (ms done : List (String × Json)), (done.map Prod.fst).Pairwise (· < ·) →
      (∀ m ∈ done, m.2.everywhere isOrdered = true) →
      (Json.object (sortedMembers done ms)).everywhere isOrdered = true
  | [], done, ascending, inside =>
      everywhere_object.mpr ⟨decide_eq_true ascending, inside⟩
  | (name, v) :: ms, done, ascending, inside => by
      rw [sortedMembers]
      refine sortedMembers_ordered ms _ (put_ascending ascending) ?_
      intro m member
      rcases put_members m member with rfl | old
      · exact sorted_ordered v
      · exact inside m old
end

@[simp]
theorem sorted_sorted (v : Json) : v.sorted.sorted = v.sorted :=
  sorted_of_ordered _ (sorted_ordered v)

end BuildPeer.Json
