import BuildPeer.Frame
import Mathlib.Data.List.Basic

/-!
An input as a sequence of signals: one byte, one fault or one silence after another. How the bytes
are cut into chunks and which pauses lie between them is not in it. A read that cannot time out is
`Signal.pull` of the signals (`pull_signals`), so whatever holds of it holds of every script that
carries these signals. What a line or a body is among the signals follows from `Signal.pull_append`.
-/

namespace BuildPeer

inductive Signal where
  | byte (b : UInt8)
  | fault (error : IoError)
  | silence
  deriving DecidableEq, Repr

namespace Signal

def ofBytes (bytes : Bytes) : List Signal :=
  bytes.map .byte

theorem ofBytes_injective : Function.Injective ofBytes :=
  List.map_injective_iff.mpr fun _ _ same => Signal.byte.inj same

@[simp]
theorem ofBytes_append (first second : Bytes) :
    ofBytes (first ++ second) = ofBytes first ++ ofBytes second :=
  List.map_append

def pull (isLast : UInt8 → Bool) : Nat → List Signal → Bytes × Stop × List Signal
  | 0, signals => ([], .filled, signals)
  | _ + 1, [] => ([], .ended, [])
  | room + 1, .byte b :: rest =>
      if isLast b then ([b], .filled, rest)
      else
        let (taken, stop, left) := pull isLast room rest
        (b :: taken, stop, left)
  | _ + 1, .fault error :: rest => ([], .failed error, rest)
  | _ + 1, .silence :: rest => ([], .waits, .silence :: rest)

theorem pull_append (isLast : UInt8 → Bool) (room : Nat) (head : Bytes) (rest : List Signal)
    (goesOn : ∀ b ∈ head, isLast b = false) (fits : head.length ≤ room) :
    pull isLast room (ofBytes head ++ rest) =
      let (taken, stop, left) := pull isLast (room - head.length) rest
      (head ++ taken, stop, left) := by
  induction head generalizing room with
  | nil => simp [ofBytes]
  | cons b head ih =>
      cases room with
      | zero => simp at fits
      | succ room =>
          have more : ∀ b ∈ head, isLast b = false :=
            fun b member => goesOn b (List.mem_cons_of_mem _ member)
          have shorter : head.length ≤ room := by simpa using fits
          have open_ : isLast b = false := goesOn b List.mem_cons_self
          have tail := ih room more shorter
          simp only [ofBytes] at tail
          simp [ofBytes, pull, open_, tail]

theorem pull_last (isLast : UInt8 → Bool) (room : Nat) (head : Bytes) (b : UInt8)
    (rest : List Signal) (goesOn : ∀ b ∈ head, isLast b = false) (last : isLast b = true)
    (fits : head.length < room) :
    pull isLast room (ofBytes (head ++ [b]) ++ rest) = (head ++ [b], .filled, rest) := by
  obtain ⟨more, rfl⟩ : ∃ more, room = head.length + (more + 1) :=
    ⟨room - head.length - 1, by omega⟩
  have split : ofBytes (head ++ [b]) ++ rest = ofBytes head ++ .byte b :: rest := by
    simp [ofBytes]
  rw [split, pull_append isLast _ head _ goesOn (by omega), Nat.add_sub_cancel_left]
  simp [pull, last]

theorem pull_filled (isLast : UInt8 → Bool) (head : Bytes) (rest : List Signal)
    (goesOn : ∀ b ∈ head, isLast b = false) :
    pull isLast head.length (ofBytes head ++ rest) = (head, .filled, rest) := by
  rw [pull_append isLast _ head rest goesOn (Nat.le_refl _), Nat.sub_self]
  simp [pull]

theorem pull_ended (isLast : UInt8 → Bool) (room : Nat) (head : Bytes)
    (goesOn : ∀ b ∈ head, isLast b = false) (fits : head.length < room) :
    pull isLast room (ofBytes head) = (head, .ended, []) := by
  obtain ⟨more, rfl⟩ : ∃ more, room = head.length + (more + 1) :=
    ⟨room - head.length - 1, by omega⟩
  have all := pull_append isLast (head.length + (more + 1)) head [] goesOn (by omega)
  rw [List.append_nil, Nat.add_sub_cancel_left] at all
  rw [all]
  simp [pull]

theorem pull_failed (isLast : UInt8 → Bool) (room : Nat) (head : Bytes) (error : IoError)
    (later : List Signal) (goesOn : ∀ b ∈ head, isLast b = false) (fits : head.length < room) :
    pull isLast room (ofBytes head ++ .fault error :: later) = (head, .failed error, later) := by
  obtain ⟨more, rfl⟩ : ∃ more, room = head.length + (more + 1) :=
    ⟨room - head.length - 1, by omega⟩
  rw [pull_append isLast _ head _ goesOn (by omega), Nat.add_sub_cancel_left]
  simp [pull]

/-- A fault ahead is reached by bytes none of which ends the read, or it is still ahead when the read
is over. -/
theorem pull_ahead (isLast : UInt8 → Bool) (room : Nat) (mid : List Signal) (error : IoError)
    (later : List Signal) :
    (∃ head, mid = ofBytes head ∧ (∀ b ∈ head, isLast b = false) ∧ head.length < room) ∨
      ∃ left, (pull isLast room (mid ++ .fault error :: later)).2.2 = left ++ .fault error :: later := by
  induction mid generalizing room with
  | nil =>
      cases room with
      | zero => exact .inr ⟨[], rfl⟩
      | succ room => exact .inl ⟨[], rfl, by simp, by simp⟩
  | cons signal mid ih =>
      cases room with
      | zero => exact .inr ⟨signal :: mid, rfl⟩
      | succ room =>
          cases signal with
          | fault other => exact .inr ⟨mid, rfl⟩
          | silence => exact .inr ⟨.silence :: mid, rfl⟩
          | byte b =>
              by_cases last : isLast b = true
              · exact .inr ⟨mid, by simp [pull, last]⟩
              · rcases ih room with ⟨head, rfl, goesOn, fits⟩ | ⟨left, stays⟩
                · refine .inl ⟨b :: head, rfl, ?_, by simpa using fits⟩
                  exact List.forall_mem_cons.mpr ⟨by simpa using last, goesOn⟩
                · exact .inr ⟨left, by simpa [pull, last] using stays⟩

/-- What a read takes: bytes, and behind them the fault that it fails with, if it does. -/
theorem pull_takes (isLast : UInt8 → Bool) (room : Nat) (signals : List Signal) :
    let (taken, stop, left) := pull isLast room signals
    (∃ error, stop = .failed error ∧ signals = ofBytes taken ++ .fault error :: left ∧
        (∀ b ∈ taken, isLast b = false) ∧ taken.length < room) ∨
      (∀ error, stop ≠ .failed error) ∧ signals = ofBytes taken ++ left := by
  induction signals generalizing room with
  | nil => cases room <;> simp [pull, ofBytes]
  | cons signal rest ih =>
      cases room with
      | zero => simp [pull, ofBytes]
      | succ room =>
          cases signal with
          | fault error => simp [pull, ofBytes]
          | silence => simp [pull, ofBytes]
          | byte b =>
              by_cases last : isLast b = true
              · simp [pull, last, ofBytes]
              · simp only [pull, last, Bool.false_eq_true, ↓reduceIte]
                rcases ih room with ⟨error, stop, split, goesOn, fits⟩ | ⟨goesOn, split⟩
                · refine .inl ⟨error, stop, congrArg (.byte b :: ·) split, ?_, by simpa using fits⟩
                  exact List.forall_mem_cons.mpr ⟨by simpa using last, goesOn⟩
                · exact .inr ⟨goesOn, congrArg (.byte b :: ·) split⟩

end Signal

namespace Source

def signals : Source → List Signal
  | [] => []
  | .bytes chunk :: rest => Signal.ofBytes chunk ++ signals rest
  | .pause _ :: rest => signals rest
  | .fault error :: rest => .fault error :: signals rest
  | .silence :: rest => .silence :: signals rest

theorem size_signals (source : Source) :
    source.size = (source.signals.filter fun s => s matches .byte _).length := by
  induction source with
  | nil => rfl
  | cons arrival rest ih =>
      cases arrival with
      | bytes chunk =>
          have all : (Signal.ofBytes chunk).filter (fun s => s matches .byte _) =
              Signal.ofBytes chunk := by
            apply List.filter_eq_self.mpr
            intro s member
            obtain ⟨b, -, rfl⟩ := List.mem_map.mp member
            rfl
          simp only [size, signals, List.filter_append, all, List.length_append, ih]
          simp [Signal.ofBytes]
      | pause d => exact ih
      | fault error => exact ih
      | silence => exact ih

theorem size_eq_of_signals {first second : Source} (same : first.signals = second.signals) :
    first.size = second.size := by
  rw [size_signals, size_signals, same]

theorem size_of_signals_append {source left : Source} {bytes : Bytes}
    (split : source.signals = Signal.ofBytes bytes ++ left.signals) :
    source.size = bytes.length + left.size := by
  have chunk : source.signals = signals (.bytes bytes :: left) := split
  rw [size_eq_of_signals chunk]
  rfl

/-- A chunk is read as its bytes one by one; what is behind it comes in when it is used up. -/
theorem cut_signals (isLast : UInt8 → Bool) (room : Nat) (chunk : Bytes) (later : List Signal) :
    Signal.pull isLast room (Signal.ofBytes chunk ++ later) =
      match cut isLast room chunk with
      | (taken, left, true) => (taken, .filled, Signal.ofBytes left ++ later)
      | (taken, _, false) =>
          let (more, stop, left) := Signal.pull isLast (room - taken.length) later
          (taken ++ more, stop, left) := by
  induction chunk generalizing room with
  | nil => cases room <;> simp [cut, Signal.ofBytes, Signal.pull]
  | cons b chunk ih =>
      cases room with
      | zero => simp [cut, Signal.pull]
      | succ room =>
          have step := ih room
          simp only [Signal.ofBytes] at step
          by_cases last : isLast b = true
          · simp [cut, Signal.ofBytes, Signal.pull, last]
          · simp only [Signal.ofBytes, List.map_cons, List.cons_append, Signal.pull, last, cut,
              Bool.false_eq_true, ↓reduceIte, step]
            generalize cut isLast room chunk = cutting
            obtain ⟨taken, left, reached⟩ := cutting
            cases reached <;> simp

theorem pull_signals (isLast : UInt8 → Bool) (room : Nat) (source : Source) :
    Signal.pull isLast room source.signals =
      let p := source.pull isLast room none
      (p.taken, p.stop, p.rest.signals) := by
  induction source generalizing room with
  | nil => cases room <;> simp [signals, pull, Signal.pull]
  | cons arrival rest ih =>
      cases arrival with
      | bytes chunk =>
          simp only [signals, cut_signals, pull, ih]
          generalize cut isLast room chunk = cutting
          obtain ⟨taken, left, reached⟩ := cutting
          cases reached <;> simp [signals]
      | pause d =>
          cases room with
          | zero => simp [signals, pull, Signal.pull]
          | succ room => simpa [signals, pull] using ih (room + 1)
      | fault error => cases room <;> simp [signals, pull, Signal.pull]
      | silence => cases room <;> simp [signals, pull, Signal.pull]

end Source
end BuildPeer
