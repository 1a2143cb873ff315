import BuildPeer.Failure
import BuildPeer.Text.Utf8

/-!
Input as it arrives: chunks of bytes, pauses and faults, in order; after the last of them the input
is over. `pull` reads up to a number of bytes, or up to a byte that ends the read. It takes no event
that it does not need, so a pause begins when the bytes before it are used up and more are wanted.

With a budget, the pauses of one `pull` may last that long together. A pause that would last longer
is cut: the read gives up, the bytes it took are gone, and the rest of the pause is left.
-/

namespace BuildPeer

inductive Arrival where
  | bytes (chunk : Bytes)
  /-- The bytes after it come so many milliseconds later. -/
  | pause (milliseconds : Nat)
  | fault (error : IoError)
  /-- Nothing ever comes after it. -/
  | silence
  deriving DecidableEq, Repr

abbrev Source := List Arrival

/-- Why a read stops: it has all it wanted, the input is over, or it gives up. The last way is not
to stop at all, but to wait for input that never comes. -/
inductive Stop where
  | filled
  | ended
  | failed (error : IoError)
  | timedOut
  | waits
  deriving DecidableEq, Repr

structure Pull where
  taken : Bytes
  stop : Stop
  rest : Source
  deriving Repr

namespace Source

def size : Source → Nat
  | [] => 0
  | .bytes chunk :: rest => chunk.length + size rest
  | _ :: rest => size rest

/-- Cuts a chunk after `room` bytes or after the first byte that ends the read, and says whether
either was reached. -/
def cut (isLast : UInt8 → Bool) : Nat → Bytes → Bytes × Bytes × Bool
  | 0, chunk => ([], chunk, true)
  | _ + 1, [] => ([], [], false)
  | room + 1, b :: chunk =>
      if isLast b then ([b], chunk, true)
      else
        let (taken, left, reached) := cut isLast room chunk
        (b :: taken, left, reached)

def pull (isLast : UInt8 → Bool) (room : Nat) (budget : Option Nat) : Source → Pull
  | [] => ⟨[], if room = 0 then .filled else .ended, []⟩
  | .bytes chunk :: rest =>
      match cut isLast room chunk with
      | (taken, left, true) => ⟨taken, .filled, .bytes left :: rest⟩
      | (taken, _, false) =>
          let more := pull isLast (room - taken.length) budget rest
          ⟨taken ++ more.taken, more.stop, more.rest⟩
  | .pause d :: rest =>
      if room = 0 then ⟨[], .filled, .pause d :: rest⟩
      else
        match budget with
        | none => pull isLast room none rest
        | some ms =>
            if d ≤ ms then pull isLast room (some (ms - d)) rest
            else ⟨[], .timedOut, .pause (d - ms) :: rest⟩
  | .fault error :: rest =>
      if room = 0 then ⟨[], .filled, .fault error :: rest⟩ else ⟨[], .failed error, rest⟩
  | .silence :: rest =>
      if room = 0 then ⟨[], .filled, .silence :: rest⟩
      else ⟨[], if budget.isSome then .timedOut else .waits, .silence :: rest⟩

theorem cut_append (isLast : UInt8 → Bool) (room : Nat) (chunk : Bytes) :
    (cut isLast room chunk).1 ++ (cut isLast room chunk).2.1 = chunk := by
  induction room generalizing chunk with
  | zero => simp [cut]
  | succ room ih =>
      cases chunk with
      | nil => simp [cut]
      | cons b chunk =>
          unfold cut
          split
          · rfl
          · simpa using ih chunk

theorem cut_open (isLast : UInt8 → Bool) (room : Nat) (chunk : Bytes)
    (short : (cut isLast room chunk).2.2 = false) : (cut isLast room chunk).2.1 = [] := by
  induction room generalizing chunk with
  | zero => simp [cut] at short
  | succ room ih =>
      cases chunk with
      | nil => simp [cut]
      | cons b chunk =>
          unfold cut at short ⊢
          split
          · rename_i last
            simp [last] at short
          · rename_i last
            simp only [last, Bool.false_eq_true, ite_false] at short
            exact ih chunk short

theorem pull_size (isLast : UInt8 → Bool) (room : Nat) (budget : Option Nat) (source : Source) :
    (pull isLast room budget source).taken.length + size (pull isLast room budget source).rest =
      size source := by
  induction source generalizing room budget with
  | nil => simp [pull, size]
  | cons arrival rest ih =>
      cases arrival with
      | bytes chunk =>
          have whole := congrArg List.length (cut_append isLast room chunk)
          simp only [List.length_append] at whole
          unfold pull
          split
          · rename_i taken left cutting
            simp only [cutting] at whole
            simp only [size]
            omega
          · rename_i taken left cutting
            have all := cut_open isLast room chunk (by rw [cutting])
            simp only [cutting] at whole all
            have := ih (room - taken.length) budget
            simp only [size, List.length_append]
            simp only [all, List.length_nil] at whole
            omega
      | pause d =>
          unfold pull
          split
          · simp [size]
          · split
            · simpa [size] using ih room none
            · rename_i ms
              split
              · simpa [size] using ih room (some (ms - d))
              · simp [size]
      | fault error => unfold pull; split <;> simp [size]
      | silence => unfold pull; split <;> simp [size]

end Source
end BuildPeer
