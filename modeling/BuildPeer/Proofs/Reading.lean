import BuildPeer.Proofs.Signals

/-!
What the parts of a frame do to a reader without a timeout, said in signals: a line with its line
break, the last line of an input, a line that is too long, a body, a body that is cut off. Each
theorem takes a reader `Before` the part and leaves one before what follows, with what the part
said in its buffer.
-/

namespace BuildPeer.Frame

theorem isLineBreak_iff (b : UInt8) : isLineBreak b = true ↔ b = lineBreak := by
  simp [isLineBreak]

theorem isLineBreak_of_not_mem {bytes : Bytes} (absent : lineBreak ∉ bytes) :
    ∀ b ∈ bytes, isLineBreak b = false := by
  intro b member
  rw [Bool.eq_false_iff, Ne, isLineBreak_iff]
  rintro rfl
  exact absent member

@[simp]
theorem Block.bytes_full (body : Bytes) : (Block.mk body.length body).bytes = body := by
  simp [Block.bytes]

namespace Reader

/-- A reader with the given limits and no timeout in front of the given signals. What its buffers
hold is left open. -/
structure Before (limits : Limits) (input : List Signal) (reader : Reader) : Prop where
  limited : reader.limits = limits
  untimed : limits.readTimeout = none
  script : reader.source.signals = input

variable {limits : Limits} {reader : Reader} {input left : List Signal}

theorem Before.pull (before : Before limits input reader) {isLast : UInt8 → Bool} {room : Nat}
    {taken : Bytes} {stop : Stop} (pulls : Signal.pull isLast room input = (taken, stop, left)) :
    ∃ rest : Source, rest.signals = left ∧
      reader.source.pull isLast room (budget reader.limits) = ⟨taken, stop, rest⟩ := by
  have noBudget : budget reader.limits = none := by simp [budget, before.limited, before.untimed]
  rw [← before.script, Source.pull_signals, Prod.mk.injEq, Prod.mk.injEq] at pulls
  obtain ⟨rfl, rfl, rfl⟩ := pulls
  rw [noBudget]
  exact ⟨_, rfl, rfl⟩

theorem Before.line_came (before : Before limits input reader) {line : Bytes} {stop : Stop}
    (pulls : Signal.pull isLineBreak maxLineLength input = (line, stop, left))
    (came : stop = .filled ∨ stop = .ended)
    (short : ¬(line.length = maxLineLength ∧ line.getLast? ≠ some lineBreak)) :
    ∃ after, reader.readLine = (.ok line.length, after) ∧ after.line = line ∧
      Before limits left after := by
  obtain ⟨rest, signals, taken⟩ := before.pull pulls
  refine ⟨{ reader with line, source := rest }, ?_, rfl, before.limited, before.untimed, signals⟩
  rcases came with rfl | rfl
  · simp only [Reader.readLine, taken, pulled, List.nil_append, if_neg short]
  · simp only [Reader.readLine, taken, pulled, List.nil_append, if_neg short]

theorem Before.line_broken {head : Bytes} (absent : lineBreak ∉ head)
    (short : head.length < maxLineLength)
    (before : Before limits (Signal.ofBytes (head ++ [lineBreak]) ++ left) reader) :
    ∃ after, reader.readLine = (.ok (head.length + 1), after) ∧
      after.line = head ++ [lineBreak] ∧ Before limits left after := by
  have pulls := Signal.pull_last isLineBreak maxLineLength head lineBreak left
    (isLineBreak_of_not_mem absent) ((isLineBreak_iff _).mpr rfl) short
  have whole := before.line_came pulls (.inl rfl) (by simp)
  rw [List.length_append] at whole
  exact whole

theorem Before.line_last {line : Bytes} (absent : lineBreak ∉ line)
    (short : line.length < maxLineLength) (before : Before limits (Signal.ofBytes line) reader) :
    ∃ after, reader.readLine = (.ok line.length, after) ∧ after.line = line ∧
      Before limits [] after := by
  have pulls := Signal.pull_ended isLineBreak maxLineLength line (isLineBreak_of_not_mem absent) short
  exact before.line_came pulls (.inr rfl) (fun full => by omega)

theorem Before.line_overlong {head : Bytes} (absent : lineBreak ∉ head)
    (long : head.length = maxLineLength)
    (before : Before limits (Signal.ofBytes head ++ left) reader) :
    ∃ after, reader.readLine = (.error (violates (.headerTooLong maxLineLength)), after) ∧
      Before limits left after := by
  have pulls := Signal.pull_filled isLineBreak head left (isLineBreak_of_not_mem absent)
  rw [long] at pulls
  have noBreak : head.getLast? ≠ some lineBreak :=
    fun last => absent (List.mem_of_getLast? last)
  obtain ⟨rest, signals, taken⟩ := before.pull pulls
  refine ⟨{ reader with line := head, source := rest }, ?_, before.limited, before.untimed, signals⟩
  simp only [Reader.readLine, taken, pulled, List.nil_append, if_pos (And.intro long noBreak)]

theorem Before.body_whole (body : Bytes)
    (before : Before limits (Signal.ofBytes body ++ left) reader) :
    ∃ after, reader.readBody body.length = (.ok (), after) ∧ after.body.bytes = body ∧
      Before limits left after := by
  have pulls := Signal.pull_filled (fun _ => false) body left (fun _ _ => rfl)
  obtain ⟨rest, signals, taken⟩ := before.pull pulls
  refine ⟨{ reader with body := ⟨body.length, body⟩, source := rest }, ?_, Block.bytes_full body,
    before.limited, before.untimed, signals⟩
  simp only [Reader.readBody, taken, pulled]

theorem Before.body_cut {part : Bytes} {length : Nat} (short : part.length < length)
    (before : Before limits (Signal.ofBytes part) reader) :
    ∃ after, reader.readBody length = (.error (violates (.truncatedFrame length)), after) ∧
      Before limits [] after := by
  have pulls := Signal.pull_ended (fun _ => false) length part (fun _ _ => rfl) short
  obtain ⟨rest, signals, taken⟩ := before.pull pulls
  refine ⟨{ reader with body := ⟨length, part⟩, source := rest }, ?_, before.limited, before.untimed,
    signals⟩
  simp only [Reader.readBody, taken, pulled]

end Reader

end BuildPeer.Frame
