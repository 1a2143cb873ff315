import BuildPeer.Live
import BuildPeer.Proofs.Bounds

/-!
Reading while the input still arrives. A read is done with what has arrived, and then nothing that
comes later changes it; or it has taken all of that and goes on with what comes. `Grows` says so of
an operation on a reader, part by part of a frame. An operation that is not done lacks a number of
bytes: with fewer it is stopped by whatever fault is behind them.
-/

namespace BuildPeer

namespace Pull

def before (more : Source) (p : Pull) : Pull :=
  { p with rest := p.rest ++ more }

def behind (taken : Bytes) (p : Pull) : Pull :=
  { p with taken := taken ++ p.taken }

end Pull

namespace Source

@[simp]
theorem pull_nothing (isLast : UInt8 → Bool) (budget : Option Nat) (source : Source) :
    source.pull isLast 0 budget = ⟨[], .filled, source⟩ := by
  cases source with
  | nil => rfl
  | cons arrival rest => cases arrival <;> simp [pull, cut]

theorem cut_open_iff (isLast : UInt8 → Bool) (room : Nat) (chunk : Bytes) :
    cut isLast room chunk = (chunk, [], false) ↔
      chunk.length < room ∧ ∀ b ∈ chunk, isLast b = false := by
  induction room generalizing chunk with
  | zero => simp [cut]
  | succ room ih =>
      cases chunk with
      | nil => simp [cut]
      | cons b chunk =>
          have tail := ih chunk
          by_cases last : isLast b = true
          · simp [cut, last]
          · simp only [cut, last, Bool.false_eq_true, ↓reduceIte, Prod.mk.injEq, List.cons.injEq,
              true_and, List.length_cons, Nat.add_lt_add_iff_right, List.forall_mem_cons]
            rw [← tail]
            simp [Prod.ext_iff]

/-- What a pull comes to while the input still grows. -/
inductive Grown (isLast : UInt8 → Bool) (room : Nat) (budget : Option Nat) (source : Source) :
    Prop where
  | done (p : Pull) (open_ : p.stop ≠ .ended)
      (faults : ∀ error, p.stop = .failed error ∨ .fault error ∈ p.rest → .fault error ∈ source)
      (same : ∀ more, (source ++ more).pull isLast room budget = p.before more)
  | goesOn (taken : Bytes) (left : Option Nat) (short : taken.length < room)
      (inside : ∀ b ∈ taken, isLast b = false)
      (rest : ∀ more, (source ++ more).pull isLast room budget =
        (more.pull isLast (room - taken.length) left).behind taken)

theorem Grown.behind_pause {isLast : UInt8 → Bool} {room d : Nat} {budget left : Option Nat}
    {source : Source} (grown : Grown isLast room left source)
    (passes : ∀ more, pull isLast room budget (.pause d :: more) = pull isLast room left more) :
    Grown isLast room budget (.pause d :: source) := by
  cases grown with
  | done p open_ faults same =>
      refine .done p open_ (fun error given => List.mem_cons_of_mem _ (faults error given)) ?_
      intro more
      rw [List.cons_append, passes, same]
  | goesOn taken later short inside rest =>
      refine .goesOn taken later short inside ?_
      intro more
      rw [List.cons_append, passes, rest]

theorem pull_grows (isLast : UInt8 → Bool) (room : Nat) (budget : Option Nat) (source : Source) :
    Grown isLast room budget source := by
  induction source generalizing room budget with
  | nil =>
      cases room with
      | zero => exact .done ⟨[], .filled, []⟩ (by simp) (by simp) (by simp [Pull.before])
      | succ room => exact .goesOn [] budget (by simp) (by simp) (fun more => rfl)
  | cons arrival rest ih =>
      cases room with
      | zero =>
          exact .done ⟨[], .filled, arrival :: rest⟩ (by simp) (by simp) (by simp [Pull.before])
      | succ room =>
          cases arrival with
          | bytes chunk =>
              cases cutting : cut isLast (room + 1) chunk with
              | mk taken behind =>
                  obtain ⟨left, reached⟩ := behind
                  cases reached with
                  | true =>
                      refine .done ⟨taken, .filled, .bytes left :: rest⟩ (by simp) (by simp) ?_
                      intro more
                      simp [pull, cutting, Pull.before]
                  | false =>
                      have whole := cut_append isLast (room + 1) chunk
                      have all := cut_open isLast (room + 1) chunk (by rw [cutting])
                      rw [cutting] at whole all
                      obtain rfl : left = [] := all
                      obtain rfl : taken = chunk := by simpa using whole
                      obtain ⟨shortChunk, insideChunk⟩ := (cut_open_iff _ _ _).mp cutting
                      cases ih (room + 1 - taken.length) budget with
                      | done p open_ faults same =>
                          refine .done (p.behind taken) open_ ?_ ?_
                          · exact fun error given => List.mem_cons_of_mem _ (faults error given)
                          · intro more
                            simp [pull, cutting, same, Pull.before, Pull.behind]
                      | goesOn later left short inside same =>
                          refine .goesOn (taken ++ later) left ?_ ?_ ?_
                          · rw [List.length_append]
                            omega
                          · exact List.forall_mem_append.mpr ⟨insideChunk, inside⟩
                          · intro more
                            simp [pull, cutting, same, Pull.behind, Nat.sub_sub]
          | pause d =>
              cases budget with
              | none => exact (ih (room + 1) none).behind_pause (fun more => by simp [pull])
              | some ms =>
                  by_cases enough : d ≤ ms
                  · exact (ih (room + 1) (some (ms - d))).behind_pause
                      (fun more => by simp [pull, enough])
                  · exact .done ⟨[], .timedOut, .pause (d - ms) :: rest⟩ (by simp) (by simp)
                      (by simp [pull, enough, Pull.before])
          | fault error =>
              refine .done ⟨[], .failed error, rest⟩ (by simp) ?_ (by simp [pull, Pull.before])
              rintro other (⟨⟨⟩⟩ | later)
              · exact List.mem_cons_self
              · exact List.mem_cons_of_mem _ later
          | silence =>
              cases budget with
              | none =>
                  exact .done ⟨[], .waits, .silence :: rest⟩ (by simp) (by simp)
                    (by simp [pull, Pull.before])
              | some ms =>
                  exact .done ⟨[], .timedOut, .silence :: rest⟩ (by simp) (by simp)
                    (by simp [pull, Pull.before])

theorem pull_open (isLast : UInt8 → Bool) (room : Nat) (budget : Option Nat) (source : Source)
    (error : IoError) :
    ((source ++ [Arrival.fault error]).pull isLast room budget).stop ≠ .ended := by
  cases pull_grows isLast room budget source with
  | done p open_ faults same =>
      rw [same]
      exact open_
  | goesOn taken left short inside rest =>
      rw [rest]
      simp [pull, Nat.sub_ne_zero_of_lt short, Pull.behind]

def stoppedBy (error : IoError) (chunks : List Bytes) : Source :=
  chunks.map .bytes ++ [.fault error]

theorem pull_stoppedBy (isLast : UInt8 → Bool) (room : Nat) (budget : Option Nat)
    (error : IoError) (chunks : List Bytes) (short : chunks.flatten.length < room)
    (inside : ∀ b ∈ chunks.flatten, isLast b = false) :
    (stoppedBy error chunks).pull isLast room budget = ⟨chunks.flatten, .failed error, []⟩ := by
  induction chunks generalizing room with
  | nil =>
      have some_ : room ≠ 0 := by
        rintro rfl
        simp at short
      simp [stoppedBy, pull, some_]
  | cons chunk chunks ih =>
      rw [List.flatten_cons] at short inside
      rw [List.length_append] at short
      obtain ⟨insideChunk, insideLater⟩ := List.forall_mem_append.mp inside
      have cutting := (cut_open_iff isLast room chunk).mpr ⟨by omega, insideChunk⟩
      have later := ih (room - chunk.length) (by omega) insideLater
      rw [stoppedBy] at later
      simp [stoppedBy, pull, cutting, later]

end Source

namespace Frame.Reader

def ahead (more : Source) (reader : Reader) : Reader :=
  { reader with source := reader.source ++ more }

/-- An operation while the input still grows: what comes later does not change it, or it lacks so many
bytes and a fault in front of them stops it. -/
inductive Grows {α : Type} (operation : Reader → Except Halt α × Reader) (reader : Reader) :
    Prop where
  | done (same : ∀ more, operation (reader.ahead more) =
        ((operation reader).1, (operation reader).2.ahead more))
      (faults : ∀ error, (operation reader).1 = .error (.failed (.io error)) ∨
        .fault error ∈ (operation reader).2.source → .fault error ∈ reader.source)
  | lacks (bytes : Nat) (some_ : 0 < bytes)
      (stops : ∀ chunks error, chunks.flatten.length < bytes → error.kind ≠ .unexpectedEof →
        ∃ after, operation (reader.ahead (Source.stoppedBy error chunks)) =
            (.error (.failed (.io error)), after) ∧
          Live.lacking after = bytes - chunks.flatten.length)

variable {reader after : Reader} {length : Nat}

@[simp]
theorem ahead_nil (reader : Reader) : reader.ahead [] = reader := by
  rw [ahead, List.append_nil]

theorem Grows.of_done {α : Type} {operation : Reader → Except Halt α × Reader}
    (answer : Except Halt α) (after : Reader)
    (same : ∀ more, operation (reader.ahead more) = (answer, after.ahead more))
    (faults : ∀ error, answer = .error (.failed (.io error)) ∨ .fault error ∈ after.source →
      .fault error ∈ reader.source) : Grows operation reader := by
  have here : operation reader = (answer, after) := by simpa using same []
  refine .done ?_ ?_
  · rw [here]
    exact same
  · rw [here]
    exact faults

/-- An operation whose first part is done grows as the rest of it. -/
theorem Grows.behind {α : Type} {operation rest : Reader → Except Halt α × Reader}
    (same : ∀ more, operation (reader.ahead more) = rest (after.ahead more))
    (faults : ∀ error, .fault error ∈ after.source → .fault error ∈ reader.source)
    (grows : Grows rest after) : Grows operation reader := by
  cases grows with
  | done sameRest faultsRest =>
      refine .of_done _ _ (fun more => (same more).trans (sameRest more)) ?_
      exact fun error given => faults error (faultsRest error given)
  | lacks bytes some_ stops =>
      refine .lacks bytes some_ ?_
      intro chunks error less other
      rw [same]
      exact stops chunks error less other

theorem readPart_fault {part : Part} {error : IoError}
    (failed : (reader.readPart part).1 = .error (.failed (.io error))) :
    (reader.source.pull part.isLast part.room (budget reader.limits)).stop = .failed error := by
  obtain ⟨-, -, reports, came⟩ := reader.readPart_pull part
  by_contra other
  refine came ?_ error failed
  rintro cause stopped
  rw [reports cause stopped] at failed
  cases part with
  | line =>
      cases failed
      exact other stopped
  | body length =>
      simp only [Part.report] at failed
      split at failed
      · cases failed
      · cases failed
        exact other stopped

theorem readPart_faults (part : Part) {p : Pull}
    (faults : ∀ error, p.stop = .failed error ∨ .fault error ∈ p.rest →
      .fault error ∈ reader.source)
    (same : ∀ more, (reader.source ++ more).pull part.isLast part.room (budget reader.limits) =
      p.before more) (error : IoError)
    (given : (reader.readPart part).1 = .error (.failed (.io error)) ∨
      .fault error ∈ (reader.readPart part).2.source) : .fault error ∈ reader.source := by
  have here : reader.source.pull part.isLast part.room (budget reader.limits) = p := by
    simpa [Pull.before] using same []
  obtain ⟨-, left, -, -⟩ := reader.readPart_pull part
  rw [left] at given
  rw [← here] at faults
  exact faults error (given.imp_left readPart_fault)

theorem endsLine_iff (line : Bytes) :
    Live.endsLine line = true ↔ line.getLast? = some lineBreak := by
  simp [Live.endsLine]

theorem readLine_grows (reader : Reader) : Grows readLine reader := by
  cases Source.pull_grows isLineBreak maxLineLength (budget reader.limits) reader.source with
  | done p open_ faults same =>
      have here : reader.source.pull isLineBreak maxLineLength (budget reader.limits) = p := by
        simpa [Pull.before] using same []
      refine .done ?_ ?_
      · intro more
        refine Prod.ext ?_ ?_
        · simp only [readLine, ahead, same, here, pulled, Pull.before]
          cases p.stop <;> simp [apply_ite Prod.fst]
        · rw [readLine_after, readLine_after]
          simp only [ahead, same, here, Pull.before]
      · intro error given
        refine readPart_faults .line faults same error (given.imp_left ?_)
        intro failed
        simp [readPart, failed, Except.map]
  | goesOn taken left short inside rest =>
      refine .lacks 1 Nat.one_pos ?_
      intro chunks error none_ _
      have empty : chunks.flatten = [] := List.length_eq_zero_iff.mp (by omega)
      have pull := rest (Source.stoppedBy error chunks)
      rw [Source.pull_stoppedBy _ _ _ _ _ (by rw [empty]; exact Nat.sub_pos_of_lt short)
        (by rw [empty]; simp), empty] at pull
      refine ⟨(reader.ahead (Source.stoppedBy error chunks)).readLine.2, Prod.ext ?_ rfl, ?_⟩
      · simp [readLine, ahead, pull, Pull.behind, pulled]
      · have inLine : Live.endsLine taken = false := by
          rw [Bool.eq_false_iff, Ne, endsLine_iff]
          intro last
          exact absurd (inside lineBreak (List.mem_of_getLast? last)) (by decide)
        rw [readLine_after]
        simp [ahead, pull, Pull.behind, Live.lacking, empty, inLine]

/-- A line that was read in front of the end of the input has its line break. -/
theorem readLine_ends (read : reader.readLine = (.ok length, after))
    (open_ : (reader.source.pull isLineBreak maxLineLength (budget reader.limits)).stop ≠ .ended) :
    Live.endsLine after.line = true := by
  have left := reader.readLine_after
  rw [read] at left
  cases stop : (reader.source.pull isLineBreak maxLineLength (budget reader.limits)).stop with
  | ended => exact absurd stop open_
  | filled =>
      simp only [readLine, pulled, stop, List.nil_append] at read
      split at read
      · cases read
      · rename_i short
        rw [endsLine_iff, show after = _ from left]
        rcases Source.pull_filled stop with full | ⟨b, ends, last⟩
        · by_contra other
          exact short ⟨full, other⟩
        · rw [(isLineBreak_iff b).mp last] at ends
          exact ends
  | _ => simp [readLine, pulled, stop] at read

theorem readBody_grows (separated : Live.endsLine reader.line = true) (length : Nat) :
    Grows (fun reader => reader.readBody length) reader := by
  cases Source.pull_grows (fun _ => false) length (budget reader.limits) reader.source with
  | done p open_ faults same =>
      have here : reader.source.pull (fun _ => false) length (budget reader.limits) = p := by
        simpa [Pull.before] using same []
      refine .done ?_ ?_
      · intro more
        refine Prod.ext ?_ ?_
        · simp only [readBody, ahead, same, here, pulled, Pull.before]
          cases p.stop <;> simp [apply_ite Prod.fst]
        · rw [readBody_after, readBody_after]
          simp only [ahead, same, here, Pull.before]
      · exact readPart_faults (.body length) faults same
  | goesOn taken left short inside rest =>
      refine .lacks (length - taken.length) (Nat.sub_pos_of_lt short) ?_
      intro chunks error less other
      have pull := rest (Source.stoppedBy error chunks)
      rw [Source.pull_stoppedBy _ _ _ _ _ less (fun _ _ => rfl)] at pull
      refine ⟨((reader.ahead (Source.stoppedBy error chunks)).readBody length).2,
        Prod.ext ?_ rfl, ?_⟩
      · simp [readBody, ahead, pull, Pull.behind, pulled, other]
      · rw [readBody_after]
        simp [ahead, pull, Pull.behind, Live.lacking, separated, Nat.sub_sub]

theorem readRest_grows (reader : Reader) (length : Nat) :
    Grows (fun reader => reader.readRest length) reader := by
  cases readLine_grows reader with
  | lacks bytes some_ stops =>
      refine .lacks bytes some_ ?_
      intro chunks error less other
      obtain ⟨after, stopped, lacks⟩ := stops chunks error less other
      exact ⟨after, by simp only [readRest, stopped], lacks⟩
  | done same faults =>
      generalize reader.readLine = line at same faults
      obtain ⟨answer, after⟩ := line
      cases answer with
      | error halt =>
          refine .of_done (.error halt) after (fun more => by simp only [readRest, same]) ?_
          exact fun error given => faults error (given.imp_left (by rintro ⟨⟩; rfl))
      | ok size =>
          cases size with
          | zero =>
              refine .of_done (.error (violates (.truncatedFrame length))) after
                (fun more => by simp only [readRest, same]) ?_
              exact fun error given => faults error (given.imp_left (by rintro ⟨⟩))
          | succ n =>
              have open_ := Source.pull_open isLineBreak maxLineLength (budget reader.limits)
                reader.source Live.awaiting
              have ends := readLine_ends (same [.fault Live.awaiting]) open_
              have separated : Live.endsLine after.line = true := ends
              cases readBody_grows separated length with
              | lacks bytes some_ stops =>
                  refine .lacks bytes some_ ?_
                  intro chunks error less other
                  obtain ⟨last, stopped, lacks⟩ := stops chunks error less other
                  exact ⟨last, by simp only [readRest, same, stopped], lacks⟩
              | done sameBody faultsBody =>
                  generalize after.readBody length = body at sameBody faultsBody
                  obtain ⟨answer, last⟩ := body
                  cases answer with
                  | error halt =>
                      refine .of_done (.error halt) last
                        (fun more => by simp only [readRest, same, sameBody]) ?_
                      intro error given
                      refine faults error (.inr (faultsBody error (given.imp_left ?_)))
                      rintro ⟨⟩
                      rfl
                  | ok =>
                      refine .of_done (.ok (some last.body.bytes)) last
                        (fun more => by simp only [readRest, same, sameBody]; rfl) ?_
                      intro error given
                      refine faults error (.inr (faultsBody error (given.imp_left ?_)))
                      rintro ⟨⟩

/-- Reading a frame. -/
theorem read_grows (reader : Reader) : Grows Reader.read reader := by
  cases readLine_grows reader with
  | lacks bytes some_ stops =>
      refine .lacks bytes some_ ?_
      intro chunks error less other
      obtain ⟨after, stopped, lacks⟩ := stops chunks error less other
      exact ⟨after, by simp only [Reader.read, stopped], lacks⟩
  | done same faults =>
      generalize reader.readLine = line at same faults
      obtain ⟨answer, after⟩ := line
      cases answer with
      | error halt =>
          refine .of_done (.error halt) after (fun more => by simp only [Reader.read, same]) ?_
          exact fun error given => faults error (given.imp_left (by rintro ⟨⟩; rfl))
      | ok size =>
          cases size with
          | zero =>
              refine .of_done (.ok none) after (fun more => by simp only [Reader.read, same]) ?_
              exact fun error given => faults error (given.imp_left (by rintro ⟨⟩))
          | succ n =>
              cases header : readHeader after.limits after.line with
              | error violation =>
                  refine .of_done (.error (violates violation)) after ?_ ?_
                  · intro more
                    have there : readHeader (after.ahead more).limits (after.ahead more).line =
                        .error violation := header
                    simp only [Reader.read, same, there]
                  · exact fun error given => faults error (given.imp_left (by rintro ⟨⟩))
              | ok length =>
                  refine (readRest_grows after length).behind ?_ ?_
                  · intro more
                    have there : readHeader (after.ahead more).limits (after.ahead more).line =
                        .ok length := header
                    simp only [Reader.read, same, there]
                  · exact fun error later => faults error (.inr later)

end Frame.Reader
end BuildPeer
