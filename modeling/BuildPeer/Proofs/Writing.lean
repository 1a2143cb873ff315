import BuildPeer.Frame

/-!
What writing adds to a sink. Whatever happens, the bytes taken before stay in front of those taken
now. A sink that moves, one that takes something in a call as long as it is not full, takes bytes as
far as it has room for them, in however many calls; a frame that it takes whole is then flushed.
-/

namespace BuildPeer

namespace Sink

variable {sink : Sink} {offered : Nat}

@[simp]
theorem take_nil (sink : Sink) : sink.take [] = sink := by
  rw [take, List.append_nil]

@[simp]
theorem take_take (sink : Sink) (first second : Bytes) :
    (sink.take first).take second = sink.take (first ++ second) := by
  simp [take]

/-- What is taken of some bytes is their front, and all of them if nothing fails. -/
theorem writeAll_front (sink : Sink) (bytes : Bytes) :
    ∃ part, part <+: bytes ∧ (sink.writeAll bytes).2.taken = sink.taken ++ part ∧
      ((sink.writeAll bytes).1 = .ok () → part = bytes) := by
  fun_induction writeAll sink bytes with
  | case1 sink bytes empty =>
      have none_ : bytes = [] := List.isEmpty_iff.mp empty
      exact ⟨[], List.nil_prefix, by simp, fun _ => none_.symm⟩
  | case2 sink bytes some_ error refused => exact ⟨[], List.nil_prefix, by simp, by simp⟩
  | case3 sink bytes some_ stuck => exact ⟨[], List.nil_prefix, by simp, by simp⟩
  | case4 sink bytes some_ n accepted ih =>
      obtain ⟨part, front, taken, whole⟩ := ih
      have split := List.take_append_drop (n + 1) bytes
      refine ⟨bytes.take (n + 1) ++ part, ?_, ?_, ?_⟩
      · have joined := (List.prefix_append_right_inj (bytes.take (n + 1))).mpr front
        rwa [split] at joined
      · rw [taken, take, List.append_assoc]
      · intro done_
        rw [whole done_, split]

theorem flush_taken (sink : Sink) : sink.flush.2.taken = sink.taken := by
  unfold flush
  split
  · rfl
  · split <;> rfl

theorem flush_perCall (sink : Sink) : sink.flush.2.perCall = sink.perCall := by
  unfold flush
  split
  · rfl
  · split <;> rfl

-- Sinks that move.

def room (sink : Sink) (offered : Nat) : Nat :=
  match sink.limit with
  | none => offered
  | some limit => min offered (limit - sink.taken.length)

/-- What a call behind the limit comes to. -/
def cause (sink : Sink) : IoError :=
  sink.fault.getD writeZero

/-- A call that offers so many bytes fails, or it takes none of them. -/
inductive Refuses (sink : Sink) (offered : Nat) : IoError → Prop where
  | fails {error : IoError} (call : sink.accepts offered = .error error) :
      Refuses sink offered error
  | stuck (call : sink.accepts offered = .ok 0) : Refuses sink offered writeZero

/-- What a call that offers something comes to: as long as there is room some bytes are taken, and
none beyond it; without room none are. -/
inductive Call (sink : Sink) (offered : Nat) : Except IoError Nat → Prop where
  | takes {n : Nat} (inside : n + 1 ≤ sink.room offered) : Call sink offered (.ok (n + 1))
  | fails (full : sink.room offered = 0) : Call sink offered (.error sink.cause)
  | stuck (full : sink.room offered = 0) (cause : sink.cause = writeZero) :
      Call sink offered (.ok 0)

theorem room_le (sink : Sink) (offered : Nat) : sink.room offered ≤ offered := by
  unfold room
  split
  · exact Nat.le_refl _
  · exact Nat.min_le_left _ _

theorem call (moves : sink.perCall ≠ some 0) (some_ : 0 < offered) :
    Call sink offered (sink.accepts offered) := by
  have positive : 0 < sink.perCall.getD offered := by
    cases most : sink.perCall with
    | none => exact some_
    | some m => exact Nat.pos_of_ne_zero fun zero => moves (zero ▸ most)
  unfold accepts
  generalize sink.perCall.getD offered = most at positive
  cases limited : sink.limit with
  | none =>
      obtain ⟨n, taken⟩ := Nat.exists_eq_succ_of_ne_zero (n := min offered most) (by omega)
      simp only [taken]
      refine .takes ?_
      simp only [room, limited]
      omega
  | some limit =>
      by_cases below : sink.taken.length < limit
      · simp only [if_pos below]
        obtain ⟨n, taken⟩ := Nat.exists_eq_succ_of_ne_zero
          (n := min (min offered most) (limit - sink.taken.length)) (by omega)
        rw [taken]
        refine .takes ?_
        simp only [room, limited]
        omega
      · have full : sink.room offered = 0 := by
          simp only [room, limited]
          omega
        simp only [if_neg below]
        have same : sink.cause = sink.fault.getD writeZero := rfl
        cases given : sink.fault with
        | none =>
            rw [given] at same
            exact .stuck full same
        | some error =>
            rw [given] at same
            rw [← show sink.cause = error from same]
            exact .fails full

theorem refuses (moves : sink.perCall ≠ some 0) (some_ : 0 < offered) (full : sink.room offered = 0) :
    sink.Refuses offered sink.cause := by
  have call := call moves some_
  cases came : sink.accepts offered with
  | error error =>
      rw [came] at call
      cases call with
      | fails => exact .fails came
  | ok n =>
      rw [came] at call
      cases call with
      | takes inside => omega
      | stuck full cause =>
          rw [cause]
          exact .stuck came

theorem room_take {bytes : Bytes} (inside : bytes.length ≤ sink.room offered) :
    (sink.take bytes).room (offered - bytes.length) = sink.room offered - bytes.length := by
  unfold room at inside ⊢
  cases limited : sink.limit with
  | none => simp [take, limited]
  | some limit =>
      simp only [limited] at inside
      simp only [take, limited, List.length_append]
      omega

/-- Bytes are written as far as there is room, however many calls that takes. -/
theorem writeAll_eq (moves : sink.perCall ≠ some 0) (bytes : Bytes) :
    sink.writeAll bytes =
      (if sink.room bytes.length = bytes.length then .ok () else .error sink.cause,
        sink.take (bytes.take (sink.room bytes.length))) := by
  fun_induction Sink.writeAll sink bytes with
  | case1 sink bytes empty =>
      obtain rfl : bytes = [] := List.isEmpty_iff.mp empty
      have none_ : sink.room 0 = 0 := Nat.le_zero.mp (sink.room_le 0)
      simp [none_]
  | case2 sink bytes some_ error refused =>
      have offered : 0 < bytes.length := List.length_pos_iff.mpr (by simpa using some_)
      have call := call moves offered
      rw [refused] at call
      cases call with
      | fails full => simp [full, Nat.ne_of_lt offered]
  | case3 sink bytes some_ stuck =>
      have offered : 0 < bytes.length := List.length_pos_iff.mpr (by simpa using some_)
      have call := call moves offered
      rw [stuck] at call
      cases call with
      | stuck full cause => simp [full, cause, Nat.ne_of_lt offered]
  | case4 sink bytes some_ n accepted ih =>
      have offered : 0 < bytes.length := List.length_pos_iff.mpr (by simpa using some_)
      have call := call moves offered
      rw [accepted] at call
      have inside : n + 1 ≤ sink.room bytes.length := by
        cases call with
        | takes inside => exact inside
      -- What is left is written by a sink that has so much less room.
      have within := sink.room_le bytes.length
      have part : (bytes.take (n + 1)).length = n + 1 := List.length_take_of_le (by omega)
      have left : (sink.take (bytes.take (n + 1))).room
          (bytes.length - (bytes.take (n + 1)).length) =
            sink.room bytes.length - (bytes.take (n + 1)).length :=
        room_take (by rw [part]; exact inside)
      rw [part, ← List.length_drop] at left
      have all : sink.room bytes.length - (n + 1) = bytes.length - (n + 1) ↔
          sink.room bytes.length = bytes.length := by
        omega
      have upTo : bytes.take (sink.room bytes.length) =
          bytes.take (n + 1) ++ (bytes.drop (n + 1)).take (sink.room bytes.length - (n + 1)) := by
        rw [← List.take_add, Nat.add_sub_cancel' inside]
      have cause : (sink.take (bytes.take (n + 1))).cause = sink.cause := rfl
      rw [ih moves, left, take_take, upTo, List.length_drop, cause]
      simp only [all]

structure TakesAll (sink : Sink) : Prop where
  unlimited : sink.limit = none
  moves : sink.perCall ≠ some 0
  flushes : sink.flushFault = none

theorem TakesAll.take (takesAll : sink.TakesAll) (bytes : Bytes) : (sink.take bytes).TakesAll :=
  ⟨takesAll.unlimited, takesAll.moves, takesAll.flushes⟩

theorem TakesAll.room (takesAll : sink.TakesAll) (offered : Nat) : sink.room offered = offered := by
  rw [Sink.room, takesAll.unlimited]

theorem TakesAll.flush (takesAll : sink.TakesAll) : sink.flush = (.ok (), sink) := by
  simp [Sink.flush, takesAll.flushes]

end Sink

namespace Frame

variable {sink : Sink} {response : Response}

def report (error : IoError) : Except IoError WriteStatus :=
  if error.isPeerClosed then .ok .peerClosed else .error error

theorem report_eq (error : IoError) :
    report error = if error.kind = .brokenPipe ∨ error.kind = .connectionReset then .ok .peerClosed
      else .error error := by
  simp [report, IoError.isPeerClosed]

theorem report_ne_written (error : IoError) (bytes : Nat) :
    report error ≠ .ok (.written bytes) := by
  unfold report
  split <;> simp

/-- What is answered once all bytes are taken, by how the flush goes. -/
def answered (bytes : Nat) : Except IoError Unit → Except IoError WriteStatus
  | .ok () => .ok (.written bytes)
  | .error error => report error

theorem answered_eq_written_iff {status : Except IoError Unit} {size bytes : Nat} :
    answered size status = .ok (.written bytes) ↔ status = .ok () ∧ bytes = size := by
  cases status with
  | ok => simp [answered, eq_comm]
  | error error => simp [answered, report_ne_written]

theorem write_eq (sink : Sink) (response : Response) :
    write sink response =
      (answered (encode response).length (writeFrame sink (encode response)).1,
        (writeFrame sink (encode response)).2) := by
  simp only [write]
  cases writeFrame sink (encode response) with
  | mk status after =>
      cases status with
      | ok => rfl
      | error error =>
          dsimp only [answered, report]
          split <;> rfl

/-- What a sink takes of a response is the front of its frame, and all of it if the response counts as
written. -/
theorem write_front (sink : Sink) (response : Response) :
    ∃ part, part <+: encode response ∧ (write sink response).2.taken = sink.taken ++ part ∧
      ∀ bytes, (write sink response).1 = .ok (.written bytes) → part = encode response := by
  obtain ⟨part, front, taken, whole⟩ := sink.writeAll_front (encode response)
  refine ⟨part, front, ?_⟩
  rw [write_eq, writeFrame]
  cases wrote : sink.writeAll (encode response) with
  | mk status after =>
      rw [wrote] at taken whole
      cases status with
      | error error => exact ⟨taken, fun bytes written => absurd written (report_ne_written _ _)⟩
      | ok =>
          refine ⟨?_, fun _ _ => whole rfl⟩
          rw [← taken]
          exact Sink.flush_taken after

theorem write_keeps (sink : Sink) (response : Response) :
    sink.taken <+: (write sink response).2.taken := by
  obtain ⟨part, -, taken, -⟩ := write_front sink response
  rw [taken]
  exact List.prefix_append _ _

theorem write_whole (moves : sink.perCall ≠ some 0)
    (whole : sink.room (encode response).length = (encode response).length) :
    write sink response =
      (answered (encode response).length (sink.take (encode response)).flush.1,
        (sink.take (encode response)).flush.2) := by
  have wrote := Sink.writeAll_eq moves (encode response)
  rw [if_pos whole, whole, List.take_length] at wrote
  simp only [write_eq, writeFrame, wrote]

theorem write_short (moves : sink.perCall ≠ some 0)
    (short : sink.room (encode response).length ≠ (encode response).length) :
    write sink response =
      (report sink.cause,
        sink.take ((encode response).take (sink.room (encode response).length))) := by
  have wrote := Sink.writeAll_eq moves (encode response)
  rw [if_neg short] at wrote
  simp only [write_eq, writeFrame, wrote, answered]

theorem write_takesAll (takesAll : sink.TakesAll) (response : Response) :
    write sink response = (.ok (.written (encode response).length), sink.take (encode response)) := by
  rw [write_whole takesAll.moves (takesAll.room _), (takesAll.take _).flush]
  rfl

end Frame
end BuildPeer
