import BuildPeer.Proofs.Json.Path
import BuildPeer.Proofs.Json.Shape
import BuildPeer.Proofs.Json.Skip

/-!
What a record keeps of a tree. As an object it fills each slot from the members of that name, no
matter where they stand and what stands between them; as an array it fills the slots in turn. What
the slots make of single values is given as a function `keep` of their name.
-/

namespace BuildPeer.Json.Reader

def Slot.Keeps (slot : Slot) (keep : String → Json → Option Json) (v : Json) : Prop :=
  ∀ rest, Ends rest →
    (slot.value (v.chars ++ rest)).toOption = (keep slot.name v).map (·, rest)

variable {keep : String → Json → Option Json} {slots : List Slot}

-- One member.

/-- A member goes to the slot of its name, which must be empty; one without a slot is left out. -/
def fill? (keep : String → Json → Option Json) :
    List Slot → List (Option Json) → String × Json → Option (List (Option Json))
  | slot :: slots, value :: values, m =>
      if slot.name = m.1 then
        if value.isSome then none else (keep slot.name m.2).map fun v => some v :: values
      else (fill? keep slots values m).map (value :: ·)
  | _, values, _ => some values

theorem fillSlot_chars {m : String × Json} (words : m.2.everywhere isWord = true)
    (keeps : ∀ slot ∈ slots, slot.name = m.1 → slot.Keeps keep m.2) (values : List (Option Json))
    {rest : List Char} (ends : Ends rest) :
    (fillSlot slots values m.1 (':' :: (m.2.chars ++ rest))).toOption =
      (fill? keep slots values m).map (·, rest) := by
  have skipped : afterColon skip (':' :: (m.2.chars ++ rest)) = .ok ((), rest) := by
    rw [afterColon_chars, skip_chars words ends]
  induction slots generalizing values with
  | nil =>
      rw [fillSlot, skipped]
      · rfl
      · intro slot slots value values same
        cases same
  | cons slot slots ih =>
      cases values with
      | nil =>
          rw [fillSlot, skipped]
          · rfl
          · intro slot slots value values _ same
            cases same
      | cons value values =>
          rw [fillSlot, fill?]
          by_cases same : slot.name = m.1
          · rw [if_pos same, if_pos same]
            by_cases filled : value.isSome = true
            · rw [if_pos filled, if_pos filled]
              rfl
            · rw [if_neg filled, if_neg filled, afterColon_chars]
              have read := keeps slot List.mem_cons_self same rest ends
              exact map_toOption (fun v => some v :: values) read
          · have read := ih (fun slot member => keeps slot (List.mem_cons_of_mem _ member)) values
            rw [if_neg same, if_neg same]
            exact map_toOption (value :: ·) read

theorem fill?_other {m : String × Json} (other : ∀ slot ∈ slots, slot.name ≠ m.1)
    (values : List (Option Json)) : fill? keep slots values m = some values := by
  induction slots generalizing values with
  | nil => rfl
  | cons slot slots ih =>
      cases values with
      | nil => rfl
      | cons value values =>
          rw [fill?, if_neg (other slot List.mem_cons_self),
            ih fun slot member => other slot (List.mem_cons_of_mem _ member)]
          rfl

-- All members.

/-- What one slot that holds `value` makes of the values under its name: it takes one if it is
empty, and refuses any other. -/
def once? (keep : Json → Option Json) : Option Json → List Json → Option (Option Json)
  | value, [] => some value
  | none, v :: vs => (keep v).bind fun w => once? keep (some w) vs
  | some _, _ :: _ => none

theorem once?_eq_none {keep : Json → Option Json} {vs : List Json} :
    once? keep none vs = some none ↔ vs = [] := by
  cases vs with
  | nil => simp [once?]
  | cons v vs =>
      cases vs with
      | nil => simp [once?, Option.bind_eq_some_iff]
      | cons other vs => simp [once?]

theorem once?_eq_some {keep : Json → Option Json} {vs : List Json} {w : Json} :
    once? keep none vs = some (some w) ↔ ∃ v, vs = [v] ∧ keep v = some w := by
  cases vs with
  | nil => simp [once?]
  | cons v vs =>
      cases vs with
      | nil => simp [once?, Option.bind_eq_some_iff]
      | cons other vs => simp [once?]

/-- The first slot takes the members of its name, and the others do not see them. -/
theorem foldlM_fill?_cons {slot : Slot} (alone : ∀ other ∈ slots, other.name ≠ slot.name)
    (value : Option Json) (values : List (Option Json)) (ms : List (String × Json)) :
    ms.foldlM (fill? keep (slot :: slots)) (value :: values) =
      (once? (keep slot.name) value (named slot.name ms)).bind fun value =>
        (ms.foldlM (fill? keep slots) values).map (value :: ·) := by
  induction ms generalizing value values with
  | nil =>
      rw [named_nil, once?]
      rfl
  | cons m ms ih =>
      obtain ⟨name, v⟩ := m
      rw [List.foldlM_cons, List.foldlM_cons, fill?, named_cons]
      -- A member is seen by the first slot or by the others, never by both.
      by_cases same : slot.name = name
      · have passed : fill? keep slots values (name, v) = some values :=
          fill?_other (fun other member => same ▸ alone other member) values
        rw [if_pos same, if_pos same.symm, passed]
        cases value with
        | some held => rfl
        | none =>
            rw [once?]
            cases keep slot.name v with
            | none => rfl
            | some w => exact ih (some w) values
      · rw [if_neg same, if_neg (Ne.symm same)]
        cases fill? keep slots values (name, v) with
        | none =>
            cases once? (keep slot.name) value (named slot.name ms) with
            | none => rfl
            | some value => rfl
        | some values => exact ih value values

/-- The order of the members does not matter, nor do members without a slot. -/
theorem foldlM_fill? (distinct : (slots.map Slot.name).Nodup) (ms : List (String × Json)) :
    ms.foldlM (fill? keep slots) (slots.map fun _ => none) =
      slots.mapM fun slot => once? (keep slot.name) none (named slot.name ms) := by
  induction slots with
  | nil =>
      induction ms with
      | nil => rfl
      | cons m ms ih => exact ih
  | cons slot slots ih =>
      rw [List.map_cons, List.nodup_cons] at distinct
      obtain ⟨alone, distinct⟩ := distinct
      have others : ∀ other ∈ slots, other.name ≠ slot.name := by
        intro other member same
        exact alone (same ▸ List.mem_map_of_mem member)
      rw [List.map_cons, foldlM_fill?_cons others, ih distinct, List.mapM_cons]
      cases once? (keep slot.name) none (named slot.name ms) with
      | none => rfl
      | some value =>
          cases slots.mapM fun slot => once? (keep slot.name) none (named slot.name ms) with
          | none => rfl
          | some values => rfl

theorem mapM_cons_eq_some {α β : Type} {f : α → Option β} {a : α} {as : List α} {bs : List β} :
    (a :: as).mapM f = some bs ↔
      ∃ b rest, f a = some b ∧ as.mapM f = some rest ∧ bs = b :: rest := by
  rw [List.mapM_cons]
  cases f a with
  | none => simp
  | some b =>
      cases as.mapM f with
      | none => simp
      | some rest => simp [eq_comm]

-- All elements.

/-- The elements in turn; slots that are not required may be left out at the end. -/
def positional? (keep : String → Json → Option Json) :
    List Slot → List Json → Option (List (Option Json))
  | [], [] => some []
  | [], _ :: _ => none
  | slot :: slots, [] =>
      if slot.required then none else (positional? keep slots []).map (none :: ·)
  | slot :: slots, v :: vs =>
      (keep slot.name v).bind fun w => (positional? keep slots vs).map (some w :: ·)

theorem positional?_cons_eq_some {slot : Slot} {v : Json} {vs : List Json}
    {filled : List (Option Json)} :
    positional? keep (slot :: slots) (v :: vs) = some filled ↔
      ∃ w rest, keep slot.name v = some w ∧ positional? keep slots vs = some rest ∧
        filled = some w :: rest := by
  rw [positional?]
  cases keep slot.name v with
  | none => simp
  | some w =>
      cases positional? keep slots vs with
      | none => simp
      | some rest => simp [eq_comm]

theorem listEnd_comma (text : List Char) :
    listEnd (',' :: text) =
      match skipSpace text with
      | ']' :: rest => .error (.upon .trailingComma (']' :: rest))
      | text => .error (.upon .trailingCharacters text) := by
  rw [listEnd, skipSpace_solid (by decide)]
  rfl

theorem listEnd_element {v : Json} (words : v.everywhere isWord = true) (first : Bool)
    (rest : List Char) :
    (listEnd ((if first then [] else [',']) ++ (v.chars ++ rest))).toOption = none := by
  obtain ⟨c, more, written, solid, opens⟩ := (starts_chars words).append rest
  rw [written]
  cases first with
  | true =>
      rw [if_pos rfl, List.nil_append, listEnd, skipSpace_solid solid]
      split
      · rename_i closes
        exact absurd (List.cons.inj closes).1 opens
      · split <;> rfl
      · rfl
      · rfl
  | false =>
      rw [if_neg Bool.false_ne_true, List.singleton_append, listEnd_comma]
      split <;> rfl

theorem closeList_map {body tail : Reader α} {f : α → α} {text rest : List Char}
    (same : body text = (tail rest).map fun (a, rest) => (f a, rest)) :
    closeList body text = (closeList tail rest).map fun (a, rest) => (f a, rest) := by
  unfold closeList
  rw [same]
  cases tail rest with
  | error fault => cases fault <;> rfl
  | ok read =>
      obtain ⟨a, left⟩ := read
      change (listEnd left).map _ = ((listEnd left).map _).map _
      cases listEnd left with
      | error fault => rfl
      | ok closed => rfl

theorem closeList_refuses {body : Reader α} {text : List Char}
    (refused : (body text).toOption = none) : (closeList body text).toOption = none := by
  unfold closeList
  cases read : body text with
  | error fault => cases fault <;> rfl
  | ok pair =>
      rw [read] at refused
      cases refused

theorem slotElements_end {wanted : String} {slot : Slot} (optional : ¬slot.required = true)
    (first : Bool) (index : Nat) (rest : List Char) :
    slotElements wanted first index (slot :: slots) (']' :: rest) =
      (slotElements wanted first (index + 1) slots (']' :: rest)).map fun (values, rest) =>
        (none :: values, rest) := by
  rw [slotElements, nextElement_end]
  exact if_neg optional

theorem slotElements_next {wanted : String} {slot : Slot} {text rest : List Char} {v : Json}
    {first : Bool} (next : nextElement first slot.value text = .ok (some v, rest)) (index : Nat) :
    slotElements wanted first index (slot :: slots) text =
      (slotElements wanted false (index + 1) slots rest).map fun (values, rest) =>
        (some v :: values, rest) := by
  rw [slotElements, next]

theorem slotElements_refuses {wanted : String} {slot : Slot} {text : List Char} {first : Bool}
    (refused : (nextElement first slot.value text).toOption = none) (index : Nat) :
    (slotElements wanted first index (slot :: slots) text).toOption = none := by
  rw [slotElements]
  cases next : nextElement first slot.value text with
  | error fault => rfl
  | ok pair =>
      rw [next] at refused
      cases refused

theorem slotElements_chars (wanted : String) {xs : List Json}
    (words : ∀ x ∈ xs, x.everywhere isWord = true)
    (keeps : ∀ p ∈ slots.zip xs, p.1.Keeps keep p.2) (first : Bool) (index : Nat)
    (rest : List Char) :
    (closeList (slotElements wanted first index slots) (elementChars first xs ++ rest)).toOption =
      (positional? keep slots xs).map (·, rest) := by
  induction slots generalizing xs first index with
  | nil =>
      cases xs with
      | nil => rfl
      | cons x xs =>
          have goesOn := listEnd_element (words x List.mem_cons_self) first
            (elementChars false xs ++ rest)
          rw [elementChars, List.append_assoc, List.append_assoc, closeList, slotElements]
          dsimp only
          cases closed : listEnd _ with
          | error fault => rfl
          | ok read =>
              rw [closed] at goesOn
              cases goesOn
  | cons slot slots ih =>
      cases xs with
      | nil =>
          have closes : nextElement first slot.value (']' :: rest) = .ok (none, ']' :: rest) :=
            nextElement_end first rest
          have more := @ih [] (by simp) (by simp) first (index + 1)
          rw [elementChars, List.singleton_append] at more ⊢
          by_cases required : slot.required = true
          · rw [closeList, slotElements, closes]
            simp [required, positional?, Except.toOption]
          · rw [closeList_map (slotElements_end required first index rest), positional?,
              if_neg required]
            exact map_toOption (none :: ·) more
      | cons x xs =>
          have front := (starts_chars (words x List.mem_cons_self)).append
            (elementChars false xs ++ rest)
          have read := keeps (slot, x) (by simp) _ (ends_elementChars xs rest)
          have more := ih (fun x member => words x (List.mem_cons_of_mem _ member))
            (fun p member => keeps p (by simp [member])) false (index + 1)
          have next := map_toOption some read
          rw [← nextElement_chars front first] at next
          rw [elementChars, List.append_assoc, List.append_assoc, positional?]
          cases kept : keep slot.name x with
          | none =>
              rw [kept] at next
              exact closeList_refuses (slotElements_refuses next index)
          | some w =>
              rw [kept] at next
              rw [closeList_map (slotElements_next (eq_ok_of_toOption next) index)]
              exact map_toOption (some w :: ·) more

-- Whole records.

/-- The members go to the slots by their names; every slot that is required must be filled. -/
theorem slotMembers_chars {ms : List (String × Json)} (distinct : (slots.map Slot.name).Nodup)
    (words : ∀ m ∈ ms, m.2.everywhere isWord = true)
    (keeps : ∀ slot ∈ slots, ∀ v ∈ named slot.name ms, slot.Keeps keep v) (rest : List Char) :
    (closeObject (slotMembers slots) (memberChars true ms ++ rest)).toOption =
      ((slots.mapM fun slot => once? (keep slot.name) none (named slot.name ms)).filter
        fun values => (missing? slots values).isNone).map (·, rest) := by
  -- Only members whose name is that of a slot are read, so only their values must be readable.
  have steps : ∀ m ∈ ms, ∀ values rest, Ends rest →
      (fillSlot slots values m.1 (':' :: (m.2.chars ++ rest))).toOption =
        (fill? keep slots values m).map (·, rest) := by
    intro m member values rest ends
    refine fillSlot_chars (words m member) (fun slot isSlot same => ?_) values ends
    exact keeps slot isSlot m.2 (mem_named.mpr (same ▸ member))
  have read := members_chars steps (slots.map fun _ => none) rest
  rw [foldlM_fill? distinct] at read
  apply closeObject_toOption
  unfold slotMembers
  generalize members (fillSlot slots) _ _ = given at read
  cases kept : slots.mapM fun slot => once? (keep slot.name) none (named slot.name ms) with
  | none =>
      rw [kept] at read
      cases given with
      | error fault => rfl
      | ok pair => cases read
  | some values =>
      rw [kept] at read
      cases given with
      | error fault => cases read
      | ok pair =>
          cases read
          dsimp only
          rw [Option.filter_some]
          cases missing? slots values with
          | none => rfl
          | some name => rfl

def kept? (keep : String → Json → Option Json) (slots : List Slot) :
    Json → Option (List (Option Json))
  | .object ms =>
      (slots.mapM fun slot => once? (keep slot.name) none (named slot.name ms)).filter
        fun values => (missing? slots values).isNone
  | .array xs => positional? keep slots xs
  | _ => none

def assigned (slots : List Slot) : Json → List (Slot × Json)
  | .object ms => slots.flatMap fun slot => (named slot.name ms).map (slot, ·)
  | .array xs => slots.zip xs
  | _ => []

theorem record_flat {name : String} {room : Nat} {v : Json} (words : v.everywhere isWord = true)
    (flat : v.depth = 0) (rest : List Char) :
    (record room name slots (v.chars ++ rest)).toOption = none := by
  obtain ⟨c, more, written, solid, noList, noObject⟩ := chars_flat words flat
  rw [written, List.cons_append, record, skipSpace_solid solid]
  split
  · rename_i opens
    exact absurd (List.cons.inj opens).1 noList
  · rename_i opens
    exact absurd (List.cons.inj opens).1 noObject
  · exact mismatch_refuses _ _

/-- Reading a record from its text is filling its slots from its tree. -/
theorem record_chars (name : String) (room : Nat) (distinct : (slots.map Slot.name).Nodup)
    {v : Json} (words : v.everywhere isWord = true)
    (keeps : ∀ p ∈ assigned slots v, p.1.Keeps keep p.2) (rest : List Char) :
    (record (room + 1) name slots (v.chars ++ rest)).toOption =
      (kept? keep slots v).map (·, rest) := by
  cases v with
  | array xs =>
      have inside := (everywhere_array.mp words).2
      have read := slotElements_chars (recordLength name slots.length) inside keeps true 0 rest
      have opens : record (room + 1) name slots ((Json.array xs).chars ++ rest) =
          closeList (slotElements (recordLength name slots.length) true 0 slots)
            (elementChars true xs ++ rest) := by
        rw [chars, List.cons_append, record, skipSpace_solid (by decide)]
        rfl
      rw [opens, read, kept?]
  | object ms =>
      have inside := (everywhere_object.mp words).2
      have read := slotMembers_chars distinct inside (fun slot isSlot v member =>
        keeps (slot, v) (by simp [assigned, isSlot, member])) rest
      have opens : record (room + 1) name slots ((Json.object ms).chars ++ rest) =
          closeObject (slotMembers slots) (memberChars true ms ++ rest) := by
        rw [chars, List.cons_append, record, skipSpace_solid (by decide)]
        rfl
      rw [opens, read, kept?]
  | null => exact record_flat words rfl rest
  | bool b => exact record_flat words rfl rest
  | number n => exact record_flat words rfl rest
  | string s => exact record_flat words rfl rest

end BuildPeer.Json.Reader
