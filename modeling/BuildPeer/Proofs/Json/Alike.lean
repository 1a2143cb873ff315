import BuildPeer.Proofs.Json.Shape
import Mathlib.Data.List.Forall2

/-!
Two records read side by side. Their slots have the same names and read values that are related in
some way; then so are the two records, and wherever one is refused the other is, for the same fault.
The relation may depend on the name of the slot.
-/

namespace BuildPeer.Json.Reader

/-- Two readings of one text: they fail alike, or they give related values and stop at the same place. -/
inductive Alike {α β : Type} (R : α → β → Prop) :
    Except Fault (α × List Char) → Except Fault (β × List Char) → Prop
  | error (fault : Fault) : Alike R (.error fault) (.error fault)
  | ok {a : α} {b : β} (related : R a b) (rest : List Char) : Alike R (.ok (a, rest)) (.ok (b, rest))

variable {α β γ δ : Type} {R : α → β → Prop} {S : γ → δ → Prop} {text : List Char}

theorem Alike.map {f : α → γ} {g : β → δ} {first : Except Fault (α × List Char)}
    {second : Except Fault (β × List Char)} (alike : Alike R first second)
    (related : ∀ a b, R a b → S (f a) (g b)) :
    Alike S (first.map fun (a, rest) => (f a, rest)) (second.map fun (b, rest) => (g b, rest)) := by
  cases alike with
  | error fault => exact .error fault
  | ok both rest => exact .ok (related _ _ both) rest

theorem Alike.refl (reading : Except Fault (α × List Char)) : Alike Eq reading reading := by
  cases reading with
  | error fault => exact .error fault
  | ok read => exact .ok rfl read.2

-- The frame of lists and objects.

theorem alike_afterColon {value : Reader α} {other : Reader β}
    (alike : ∀ text, Alike R (value text) (other text)) (text : List Char) :
    Alike R (afterColon value text) (afterColon other text) := by
  unfold afterColon
  generalize skipSpace text = text
  split
  · exact alike _
  · exact .error _
  · exact .error _

theorem alike_nextElement {element : Reader α} {other : Reader β}
    (alike : ∀ text, Alike R (element text) (other text)) (first : Bool) (text : List Char) :
    Alike (Option.Rel R) (nextElement first element text) (nextElement first other text) := by
  have taken (text : List Char) : Alike (Option.Rel R)
      ((element text).map fun (a, rest) => (some a, rest))
      ((other text).map fun (b, rest) => (some b, rest)) :=
    (alike text).map fun _ _ => Option.Rel.some
  unfold nextElement
  generalize skipSpace text = text
  split
  · exact .error _
  · exact .ok .none _
  · split
    · exact taken _
    · split
      · rename_i rest _ _
        generalize skipSpace rest = rest
        split
        · exact .error _
        · exact .error _
        · exact taken _
      · exact .error _

theorem alike_membersFrom {σ τ : Type} {S : σ → τ → Prop} {step : σ → String → Reader σ}
    {other : τ → String → Reader τ}
    (alike : ∀ s t, S s t → ∀ name text, Alike S (step s name text) (other t name text))
    (rounds : Nat) {s : σ} {t : τ} (state : S s t) (first : Bool) (text : List Char) :
    Alike S (membersFrom step s first rounds text) (membersFrom other t first rounds text) := by
  induction rounds generalizing s t first text with
  | zero => exact .error _
  | succ rounds ih =>
      rw [membersFrom, membersFrom]
      cases nextName first text with
      | error fault => exact .error fault
      | ok read =>
          obtain ⟨name, rest⟩ := read
          cases name with
          | none => exact .ok state rest
          | some name =>
              dsimp only
              have both := alike s t state name rest
              generalize step s name rest = one at both
              generalize other t name rest = two at both
              cases both with
              | error fault => exact .error fault
              | ok state rest => exact ih state false rest

theorem alike_closeList {body : Reader α} {other : Reader β} {text : List Char}
    (alike : Alike R (body text) (other text)) :
    Alike R (closeList body text) (closeList other text) := by
  unfold closeList
  generalize body text = one at alike
  generalize other text = two at alike
  cases alike with
  | error fault => cases fault <;> exact .error _
  | ok related rest =>
      dsimp only
      cases listEnd rest with
      | error fault => exact .error fault
      | ok closed => exact .ok related closed.2

theorem alike_closeObject {body : Reader α} {other : Reader β} {text : List Char}
    (alike : Alike R (body text) (other text)) :
    Alike R (closeObject body text) (closeObject other text) := by
  unfold closeObject
  generalize body text = one at alike
  generalize other text = two at alike
  cases alike with
  | error fault => cases fault <;> exact .error _
  | ok related rest =>
      dsimp only
      cases objectEnd rest with
      | error fault => exact .error fault
      | ok closed => exact .ok related closed.2

-- Slots.

structure Slot.Beside (R : String → Json → Json → Prop) (slot other : Slot) : Prop where
  name : other.name = slot.name
  required : other.required = slot.required
  alike : ∀ text, Alike (R slot.name) (slot.value text) (other.value text)

/-- What two lists of slots hold: a slot of one is empty when that of the other is, and else they hold
related values. -/
inductive Abreast (R : String → Json → Json → Prop) :
    List Slot → List (Option Json) → List (Option Json) → Prop
  | nil : Abreast R [] [] []
  | cons {slot : Slot} {slots : List Slot} {value other : Option Json}
      {values others : List (Option Json)} (here : Option.Rel (R slot.name) value other)
      (rest : Abreast R slots values others) :
      Abreast R (slot :: slots) (value :: values) (other :: others)

variable {R : String → Json → Json → Prop} {slots besides : List Slot}
  {values others : List (Option Json)}

theorem Abreast.empty (R : String → Json → Json → Prop) (slots : List Slot) :
    ∀ {besides : List Slot}, besides.length = slots.length →
      Abreast R slots (slots.map fun _ => none) (besides.map fun _ => none) := by
  induction slots with
  | nil =>
      intro besides same
      rw [List.length_eq_zero_iff.mp same]
      exact .nil
  | cons slot slots ih =>
      intro besides same
      cases besides with
      | nil => cases same
      | cons beside besides => exact .cons .none (ih (Nat.succ.inj same))

theorem alike_fillSlot (beside : List.Forall₂ (Slot.Beside R) slots besides)
    (held : Abreast R slots values others) (name : String) (text : List Char) :
    Alike (Abreast R slots) (fillSlot slots values name text)
      (fillSlot besides others name text) := by
  induction beside generalizing values others with
  | nil =>
      cases held
      simp only [fillSlot]
      cases afterColon skip text with
      | error fault => exact .error fault
      | ok read => exact .ok .nil read.2
  | cons first _ ih =>
      cases held with
      | cons here rest =>
          rw [fillSlot, fillSlot, first.name]
          split
          · cases here with
            | none =>
                exact (alike_afterColon first.alike text).map fun _ _ related =>
                  Abreast.cons (.some related) rest
            | some _ => exact .error _
          · exact (ih rest).map fun _ _ related => .cons here related

theorem missing?_abreast (beside : List.Forall₂ (Slot.Beside R) slots besides)
    (held : Abreast R slots values others) : missing? besides others = missing? slots values := by
  induction beside generalizing values others with
  | nil =>
      cases held
      rfl
  | cons first _ ih =>
      cases held with
      | cons here rest =>
          rw [missing?, missing?, first.required, first.name, ih rest]
          cases here <;> rfl

theorem alike_slotMembers (beside : List.Forall₂ (Slot.Beside R) slots besides) (text : List Char) :
    Alike (Abreast R slots) (slotMembers slots text) (slotMembers besides text) := by
  have both := alike_membersFrom (fun _ _ => alike_fillSlot beside) (text.length + 1)
    (Abreast.empty R slots beside.length_eq.symm) true text
  unfold slotMembers members
  generalize membersFrom (fillSlot slots) _ true _ text = one at both
  generalize membersFrom (fillSlot besides) _ true _ text = two at both
  cases both with
  | error fault => exact .error fault
  | ok held rest =>
      dsimp only
      rw [missing?_abreast beside held]
      cases missing? slots _ with
      | none => exact .ok held rest
      | some name => exact .error _

theorem alike_slotElements (beside : List.Forall₂ (Slot.Beside R) slots besides) (wanted : String)
    (first : Bool) (index : Nat) (text : List Char) :
    Alike (Abreast R slots) (slotElements wanted first index slots text)
      (slotElements wanted first index besides text) := by
  induction beside generalizing first index text with
  | nil => exact .ok .nil text
  | cons here _ ih =>
      have both := alike_nextElement here.alike first text
      rw [slotElements, slotElements, here.required]
      generalize nextElement first _ text = one at both
      generalize nextElement first _ text = two at both
      cases both with
      | error fault => exact .error fault
      | ok related rest =>
          cases related with
          | none =>
              dsimp only
              split
              · exact .error _
              · exact (ih first (index + 1) rest).map fun _ _ held => .cons .none held
          | some related =>
              exact (ih false (index + 1) rest).map fun _ _ held => .cons (.some related) held

theorem alike_record (beside : List.Forall₂ (Slot.Beside R) slots besides) (room : Nat)
    (name : String) (text : List Char) :
    Alike (Abreast R slots) (record room name slots text) (record room name besides text) := by
  unfold record
  rw [beside.length_eq]
  generalize skipSpace text = text
  split
  · split
    · exact .error _
    · exact alike_closeList (alike_slotElements beside _ _ _ _)
  · split
    · exact .error _
    · exact alike_closeObject (alike_slotMembers beside _)
  · generalize read : mismatch _ _ = reading
    have refused := mismatch_refuses (α := List (Option Json)) ("struct " ++ name) text
    cases reading with
    | error fault => exact .error fault
    | ok taken =>
        rw [read] at refused
        cases refused

theorem Alike.whole {α β : Type} {R : α → β → Prop} {value : Reader α} {other : Reader β}
    {text : List Char} (alike : Alike R (value text) (other text)) {a : α}
    (read : whole value text = .ok a) : ∃ b, whole other text = .ok b ∧ R a b := by
  unfold Reader.whole at read ⊢
  generalize value text = one at alike read
  generalize other text = two at alike
  cases alike with
  | error fault => cases read
  | ok related rest =>
      dsimp only at read ⊢
      generalize skipSpace rest = behind at read
      cases behind with
      | nil =>
          cases read
          exact ⟨_, rfl, related⟩
      | cons c behind => cases read

end BuildPeer.Json.Reader
