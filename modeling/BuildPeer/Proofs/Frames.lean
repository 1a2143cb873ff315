import BuildPeer.Proofs.Framing
import BuildPeer.Proofs.Grammar
import Mathlib.Data.List.Forall2

/-!
Complete frames: byte strings that the grammar takes whole, as one message. An empty body is no
message, so both lines of a complete frame are broken, and the frame is taken the same way whatever
stands behind it, be it bytes or faults. Hence the messages at the front of an input are those of the
complete frames that it begins with, and no complete frame is the front of another.
-/

namespace BuildPeer

theorem Envelope.decode_nil (message : Envelope) : decode [] ≠ .ok message := by
  intro decoded
  have refused : (decode []).toOption = none := by decide +kernel
  rw [decoded] at refused
  cases refused

namespace Frame

/-- A byte string that is one frame within the limit, and the message in its body. -/
def Carries (limit : Nat) (frame : Bytes) (message : Envelope) : Prop :=
  Answers limit frame (.ok (some message)) []

-- Lines with something behind them.

variable {limit : Nat} {input line rest body : Bytes} {message : Envelope}

theorem Line.ne_nil (is : Line input line rest) : input ≠ [] := by
  cases is with
  | broken => simp
  | last some_ => exact some_

theorem Line.broken_of_ne_nil (is : Line input line rest) (goesOn : rest ≠ []) :
    ∃ head, line = head ++ [lineBreak] ∧ lineBreak ∉ head ∧ head.length < maxLineLength ∧
      input = head ++ [lineBreak] ++ rest := by
  cases is with
  | @broken head _ absent short => exact ⟨head, rfl, absent, short, by simp⟩
  | last => exact absurd rfl goesOn

theorem Whole.parts (frame : Whole limit input body rest) (some_ : body ≠ []) :
    ∃ text header separator, Parts limit text header separator body ∧
      input = joined header separator body ++ rest := by
  cases frame with
  | intro opening isSeparator =>
      have bodyBehind : body ++ rest ≠ [] := by simp [some_]
      obtain ⟨separator, -, separatorOpen, separatorShort, afterIs⟩ :=
        isSeparator.broken_of_ne_nil bodyBehind
      cases opening with
      | @intro _ text _ isHeader declared fits =>
          obtain ⟨header, written, headerOpen, headerShort, inputIs⟩ :=
            isHeader.broken_of_ne_nil isSeparator.ne_nil
          refine ⟨text, header, separator,
            ⟨written, declared, fits, headerOpen, headerShort, separatorOpen, separatorShort⟩, ?_⟩
          rw [inputIs, afterIs]
          simp [joined]

theorem Parts.whole {text : List Char} {header separator : Bytes}
    (parts : Parts limit text header separator body) (rest : Bytes) :
    Whole limit (joined header separator body ++ rest) body rest := by
  have split : joined header separator body ++ rest =
      header ++ lineBreak :: (separator ++ lineBreak :: (body ++ rest)) := by
    simp [joined]
  have isHeader : Line (joined header separator body ++ rest) (Text.Utf8.encode text)
      (separator ++ lineBreak :: (body ++ rest)) := by
    rw [split, parts.written]
    exact .broken parts.headerOpen parts.headerShort
  exact ⟨⟨isHeader, parts.declared, parts.fits⟩,
    .broken parts.separatorOpen parts.separatorShort⟩

-- Messages.

theorem Answers.parts (answers : Answers limit input (.ok (some message)) rest) :
    ∃ text header separator body, Parts limit text header separator body ∧
      decode body = .ok message ∧ input = joined header separator body ++ rest := by
  cases answers with
  | @message _ bodyText _ _ frame decoded =>
      have some_ : Text.Utf8.encode bodyText ≠ [] := by
        intro empty
        have noText : bodyText = [] := by
          have back := Text.Utf8.decode_encode bodyText
          rw [empty] at back
          exact (Except.ok.inj back).symm
        rw [noText] at decoded
        exact Envelope.decode_nil message decoded
      obtain ⟨text, header, separator, parts, split⟩ := frame.parts some_
      refine ⟨text, header, separator, _, parts, ?_, split⟩
      simp [decode, decoded]

theorem Parts.answers {text : List Char} {header separator : Bytes}
    (parts : Parts limit text header separator body) (decoded : decode body = .ok message)
    (rest : Bytes) :
    Answers limit (joined header separator body ++ rest) (.ok (some message)) rest := by
  have whole := parts.whole rest
  unfold decode at decoded
  split at decoded
  · cases decoded
  · rename_i bodyText isText
    rw [Text.Utf8.decode_eq_ok_iff] at isText
    subst isText
    split at decoded
    · cases decoded
    · rename_i other isMessage
      cases decoded
      exact .message whole isMessage

theorem Answers.carries (answers : Answers limit input (.ok (some message)) rest) :
    ∃ frame, Carries limit frame message ∧ input = frame ++ rest := by
  obtain ⟨text, header, separator, body, parts, decoded, split⟩ := answers.parts
  have whole := parts.answers decoded []
  rw [List.append_nil] at whole
  exact ⟨_, whole, split⟩

theorem Carries.answers {frame : Bytes} (carries : Carries limit frame message) (rest : Bytes) :
    Answers limit (frame ++ rest) (.ok (some message)) rest := by
  obtain ⟨text, header, separator, body, parts, decoded, split⟩ := Answers.parts carries
  rw [List.append_nil] at split
  rw [split]
  exact parts.answers decoded rest

/-- A complete frame is read as its message, whatever signals are behind it. -/
theorem Reader.Before.carries {limits : Limits} {frame : Bytes} {behind : List Signal}
    {reader : Reader} (carries : Carries limits.maxFrameSize frame message)
    (before : Before limits (Signal.ofBytes frame ++ behind) reader) :
    ∃ body after, reader.read = (.ok (some body), after) ∧ decode body = .ok message ∧
      Before limits behind after := by
  obtain ⟨text, header, separator, body, parts, decoded, split⟩ := Answers.parts carries
  rw [List.append_nil] at split
  rw [split] at before
  obtain ⟨after, read, before⟩ := before.read_parts parts
  exact ⟨body, after, read, decoded, before⟩

/-- The grammar has one answer to an input, and takes it in one way. -/
theorem Answers.unique {first second : Except Violation (Option Envelope)}
    {firstRest secondRest : Bytes} (here : Answers limit input first firstRest)
    (there : Answers limit input second secondRest) : first = second ∧ firstRest = secondRest := by
  let limits : Limits := { maxFrameSize := limit }
  have before : Reader.Before limits (Signal.ofBytes input) (.start limits [.bytes input]) :=
    ⟨rfl, rfl, List.append_nil _⟩
  obtain ⟨_, readHere, leftHere⟩ := before.answers here
  obtain ⟨_, readThere, leftThere⟩ := before.answers there
  rw [readHere, Prod.mk.injEq] at readThere
  obtain ⟨sameAnswer, rfl⟩ := readThere
  exact ⟨Reader.mapError_injective Reader.violates_injective sameAnswer,
    Signal.ofBytes_injective (leftHere.script.symm.trans leftThere.script)⟩

/-- A part of a complete frame that is not all of it gives no message, but a violation. -/
theorem Carries.cut {frame part left : Bytes} (carries : Carries limit frame message)
    {missing : Bytes} (split : part ++ missing = frame) (some_ : part ≠ [])
    (short : missing ≠ []) {answer : Except Violation (Option Envelope)}
    (answers : Answers limit part answer left) : ∃ violation, answer = .error violation := by
  match answer with
  | .error violation => exact ⟨violation, rfl⟩
  | .ok none =>
      cases answers with
      | nothing => exact absurd rfl some_
  | .ok (some other) =>
      obtain ⟨front, carriesFront, partIs⟩ := answers.carries
      have again := carriesFront.answers (left ++ missing)
      rw [← List.append_assoc, ← partIs, split] at again
      have none_ := (again.unique carries).2
      simp only [List.append_eq_nil_iff] at none_
      exact absurd none_.2 short

theorem carries_wrap (small : body.length < Text.wordLimit) (fits : body.length ≤ limit)
    (decoded : decode body = .ok message) : Carries limit (wrap body) message := by
  have whole := (wrap_parts small fits).answers decoded []
  rwa [List.append_nil, ← wrap_joined] at whole

end Frame
end BuildPeer
