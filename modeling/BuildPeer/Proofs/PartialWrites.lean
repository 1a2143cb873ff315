import BuildPeer.Proofs.Writing

/-!
Responses written one after another to a sink that moves, whatever it takes in a call and whenever it
fails. Each adds the front of its frame, and the answer follows from the rest that was not taken and
from the flush. A sink that takes other amounts in a call stays the same sink but for that, so the
answers and the bytes taken are the same.
-/

namespace BuildPeer

namespace Sink

def calling (other : Option Nat) (sink : Sink) : Sink :=
  { sink with perCall := other }

theorem flush_calling (other : Option Nat) (sink : Sink) :
    (sink.calling other).flush = (sink.flush.1, sink.flush.2.calling other) := by
  cases flushFault : sink.flushFault with
  | none => simp [flush, calling, flushFault]
  | some error =>
      cases good : sink.goodFlushes with
      | zero => simp [flush, calling, flushFault, good]
      | succ n => simp [flush, calling, flushFault, good]

end Sink

namespace Frame

variable {sink : Sink}

theorem write_perCall (moves : sink.perCall ≠ some 0) (response : Response) :
    (write sink response).2.perCall = sink.perCall := by
  by_cases whole : sink.room (encode response).length = (encode response).length
  · rw [write_whole moves whole, Sink.flush_perCall]
    rfl
  · rw [write_short moves whole]
    rfl

theorem write_calling (moves : sink.perCall ≠ some 0) {other : Option Nat} (movesToo : other ≠ some 0)
    (response : Response) :
    write (sink.calling other) response =
      ((write sink response).1, (write sink response).2.calling other) := by
  have movesToo : (sink.calling other).perCall ≠ some 0 := movesToo
  have room : (sink.calling other).room (encode response).length =
      sink.room (encode response).length := rfl
  by_cases whole : sink.room (encode response).length = (encode response).length
  · have taken : (sink.calling other).take (encode response) =
        (sink.take (encode response)).calling other := rfl
    rw [write_whole moves whole, write_whole movesToo (room.trans whole), taken,
      Sink.flush_calling]
  · rw [write_short moves whole, write_short movesToo (room ▸ whole)]
    rfl

structure Sent where
  before : Sink
  response : Response
  answer : Except IoError WriteStatus
  after : Sink

/-- Responses written one after another, going on after failures. -/
def sendEach (sink : Sink) : List Response → List Sent
  | [] => []
  | response :: responses =>
      let (answer, after) := write sink response
      ⟨sink, response, answer, after⟩ :: sendEach after responses

theorem sendEach_calling (moves : sink.perCall ≠ some 0) {other : Option Nat}
    (movesToo : other ≠ some 0) (responses : List Response) :
    (sendEach (sink.calling other) responses).map (fun sent => (sent.answer, sent.after.taken)) =
      (sendEach sink responses).map fun sent => (sent.answer, sent.after.taken) := by
  induction responses generalizing sink with
  | nil => rfl
  | cons response responses ih =>
      have next : (write sink response).2.perCall ≠ some 0 := by
        rw [write_perCall moves]
        exact moves
      simp only [sendEach, write_calling moves movesToo, List.map_cons, ih next]
      rfl

theorem mem_sendEach (moves : sink.perCall ≠ some 0) {responses : List Response} {sent : Sent}
    (member : sent ∈ sendEach sink responses) :
    sent.before.perCall ≠ some 0 ∧ write sent.before sent.response = (sent.answer, sent.after) := by
  induction responses generalizing sink with
  | nil => cases member
  | cons response responses ih =>
      rcases List.mem_cons.mp member with rfl | later
      · exact ⟨moves, rfl⟩
      · have next : (write sink response).2.perCall ≠ some 0 := by
          rw [write_perCall moves]
          exact moves
        exact ih next later

/-- Responses over any sink that moves. Each adds the front of its frame. It counts as written exactly
if the whole frame is taken and then flushed, and its length is that of the frame. A frame that is not
taken whole is not flushed, so all that is new about the sink are the bytes taken. The error of the call
that refuses the next bytes, or of the flush, is the answer, unless it says that the other side has
closed. How much a call takes shows neither in the answers nor in what is taken. -/
theorem responses_over_any_sink (sink : Sink) (moves : sink.perCall ≠ some 0)
    (responses : List Response) :
    let reported (error : IoError) : Except IoError WriteStatus :=
      if error.kind = .brokenPipe ∨ error.kind = .connectionReset then .ok .peerClosed
      else .error error
    (∀ sent ∈ sendEach sink responses,
      let frame := encode sent.response
      let flushed := (sent.before.take frame).flush
      ∃ part rest, frame = part ++ rest ∧ sent.after.taken = sent.before.taken ++ part ∧
        (∀ bytes, sent.answer = .ok (.written bytes) ↔
          rest = [] ∧ flushed.1 = .ok () ∧ bytes = frame.length) ∧
        (rest = [] → sent.after = flushed.2 ∧
          ∀ error, flushed.1 = .error error → sent.answer = reported error) ∧
        (rest ≠ [] → sent.after = sent.before.take part ∧
          ∃ error, (sent.before.take part).Refuses rest.length error ∧
            sent.answer = reported error)) ∧
    ∀ other : Option Nat, other ≠ some 0 →
      (sendEach { sink with perCall := other } responses).map
          (fun sent => (sent.answer, sent.after.taken)) =
        (sendEach sink responses).map fun sent => (sent.answer, sent.after.taken) := by
  intro reported
  refine ⟨?_, fun other movesToo => sendEach_calling moves movesToo responses⟩
  intro sent member frame flushed
  obtain ⟨moves, wrote⟩ := mem_sendEach moves member
  by_cases whole : sent.before.room frame.length = frame.length
  · rw [write_whole moves whole, Prod.mk.injEq] at wrote
    obtain ⟨answer, after⟩ := wrote
    refine ⟨frame, [], (List.append_nil frame).symm, ?_, ?_, ?_, fun some_ => absurd rfl some_⟩
    · rw [← after, Sink.flush_taken]
      rfl
    · intro bytes
      rw [← answer, answered_eq_written_iff]
      simp [flushed, frame]
    · intro _
      refine ⟨after.symm, fun error failed => ?_⟩
      rw [← answer, failed]
      exact report_eq error
  · have within := sent.before.room_le frame.length
    have short : sent.before.room frame.length < frame.length := Nat.lt_of_le_of_ne within whole
    rw [write_short moves whole, Prod.mk.injEq] at wrote
    obtain ⟨answer, after⟩ := wrote
    let part := frame.take (sent.before.room frame.length)
    let rest := frame.drop (sent.before.room frame.length)
    have partLength : part.length = sent.before.room frame.length := List.length_take_of_le within
    have restLength : rest.length = frame.length - part.length := by
      rw [partLength, List.length_drop]
    have some_ : rest ≠ [] := List.length_pos_iff.mp (by omega)
    have full : (sent.before.take part).room rest.length = 0 := by
      have left := Sink.room_take (Nat.le_of_eq partLength)
      rw [← restLength] at left
      omega
    refine ⟨part, rest, (List.take_append_drop _ _).symm, ?_, ?_, fun none_ => absurd none_ some_, ?_⟩
    · rw [← after]
      rfl
    · intro bytes
      rw [← answer]
      simp [report_ne_written, some_]
    · intro _
      refine ⟨after.symm, sent.before.cause, ?_, ?_⟩
      · exact Sink.refuses moves (List.length_pos_iff.mpr some_) full
      · rw [← answer]
        exact report_eq _

/-- Three responses in calls of seven bytes: the first is written, the second is taken but not flushed,
and the third is refused inside its header. -/
theorem responses_over_any_sink_in_three_ways :
    let sink : Sink :=
      { perCall := some 7, limit := some 130, flushFault := some ⟨.connectionReset, "gone"⟩,
        goodFlushes := 1 }
    let responses := List.replicate 3 (Response.result (.integer 1) .null)
    let shown (sink : Sink) := (sendEach sink responses).map fun sent => (sent.answer, sent.after.taken)
    sink.perCall ≠ some 0 ∧
      (sendEach sink responses).map (fun sent => sent.answer) =
        [.ok (.written 60), .ok .peerClosed, .error Sink.writeZero] ∧
      (∀ sent ∈ sendEach sink responses, ∃ part, part <+: encode sent.response ∧
        sent.after.taken = sent.before.taken ++ part) ∧
      shown { sink with perCall := none } = shown sink := by
  intro sink responses shown
  have moves : sink.perCall ≠ some 0 := by decide
  obtain ⟨each, calls⟩ := responses_over_any_sink sink moves responses
  refine ⟨moves, by cbv, ?_, calls none (by decide)⟩
  intro sent member
  obtain ⟨part, rest, split, taken, -⟩ := each sent member
  exact ⟨part, ⟨rest, split.symm⟩, taken⟩

end Frame
end BuildPeer
