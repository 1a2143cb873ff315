import BuildPeer.Proofs.Reading
import BuildPeer.Proofs.Text.Utf8

/-!
The grammar of frames, as a relation between the bytes that are left, the answer to one call, and
the bytes left after it. It speaks of byte strings alone: of a first line break, of 1024 bytes, of
the text that a line is written from. The main statement is that a reader without a timeout answers
by this grammar, takes exactly the bytes that the grammar takes, and that some rule of the grammar
applies to every input.
-/

namespace BuildPeer.Frame

/-- A line at the front of an input, and what follows it. The line is over with the first line
break, if that is among its first 1024 bytes, or with a shorter input. -/
inductive Line : Bytes → Bytes → Bytes → Prop where
  | broken {head rest : Bytes} (absent : lineBreak ∉ head) (short : head.length < maxLineLength) :
      Line (head ++ lineBreak :: rest) (head ++ [lineBreak]) rest
  | last {line : Bytes} (some_ : line ≠ []) (absent : lineBreak ∉ line)
      (short : line.length < maxLineLength) : Line line line []

/-- 1024 bytes without a line break, and what follows them. -/
inductive Overlong : Bytes → Bytes → Prop where
  | intro {head rest : Bytes} (absent : lineBreak ∉ head) (long : head.length = maxLineLength) :
      Overlong (head ++ rest) rest

/-- A header line that declares a body within the limit. -/
inductive Opening (limit : Nat) : Bytes → Nat → Bytes → Prop where
  | intro {input rest : Bytes} {text : List Char} {length : Nat}
      (line : Line input (Text.Utf8.encode text) rest) (declared : Header.parse text = .ok length)
      (fits : length ≤ limit) : Opening limit input length rest

/-- A frame with its body: an opening, a separator line that says anything, and as many bytes as
were declared. -/
inductive Whole (limit : Nat) : Bytes → Bytes → Bytes → Prop where
  | intro {input afterHeader separator body rest : Bytes}
      (opening : Opening limit input body.length afterHeader)
      (line : Line afterHeader separator (body ++ rest)) : Whole limit input body rest

inductive Answers (limit : Nat) : Bytes → Except Violation (Option Envelope) → Bytes → Prop where
  | nothing : Answers limit [] (.ok none) []
  | headerTooLong {input rest} (overlong : Overlong input rest) :
      Answers limit input (.error (.headerTooLong maxLineLength)) rest
  | headerNotText {input line rest fault} (is : Line input line rest)
      (foreign : ∀ text, Text.Utf8.encode text ≠ line)
      (fault_ : Text.Utf8.decode line = .error fault) :
      Answers limit input (.error (.invalidUtf8 fault)) rest
  | headerRefused {input text rest violation} (is : Line input (Text.Utf8.encode text) rest)
      (refused : Header.parse text = .error violation) :
      Answers limit input (.error violation) rest
  | tooLarge {input text rest length} (is : Line input (Text.Utf8.encode text) rest)
      (declared : Header.parse text = .ok length) (large : limit < length) :
      Answers limit input (.error (.frameTooLarge length limit)) rest
  | noSeparator {input length} (opening : Opening limit input length []) :
      Answers limit input (.error (.truncatedFrame length)) []
  | separatorTooLong {input length afterHeader rest}
      (opening : Opening limit input length afterHeader) (overlong : Overlong afterHeader rest) :
      Answers limit input (.error (.headerTooLong maxLineLength)) rest
  | truncated {input length afterHeader separator part}
      (opening : Opening limit input length afterHeader) (is : Line afterHeader separator part)
      (short : part.length < length) :
      Answers limit input (.error (.truncatedFrame length)) []
  | bodyNotText {input body rest fault} (frame : Whole limit input body rest)
      (foreign : ∀ text, Text.Utf8.encode text ≠ body)
      (fault_ : Text.Utf8.decode body = .error fault) :
      Answers limit input (.error (.invalidUtf8 fault)) rest
  | noMessage {input text rest refusal}
      (frame : Whole limit input (Text.Utf8.encode text) rest)
      (refused : Envelope.decode text = .error refusal) :
      Answers limit input (.error (.invalidEnvelope refusal)) rest
  | message {input text rest message} (frame : Whole limit input (Text.Utf8.encode text) rest)
      (decoded : Envelope.decode text = .ok message) :
      Answers limit input (.ok (some message)) rest

-- Every input is one of those that the grammar speaks of.

theorem breaks_or_not (input : Bytes) :
    lineBreak ∉ input ∨ ∃ head rest, lineBreak ∉ head ∧ input = head ++ lineBreak :: rest := by
  by_cases present : lineBreak ∈ input
  · obtain ⟨head, rest, split, absent⟩ := List.eq_append_cons_of_mem present
    exact .inr ⟨head, rest, absent, split⟩
  · exact .inl present

theorem line_or_overlong (input : Bytes) :
    input = [] ∨ (∃ line rest, Line input line rest) ∨ ∃ rest, Overlong input rest := by
  rcases breaks_or_not input with absent | ⟨head, rest, absent, rfl⟩
  · by_cases short : input.length < maxLineLength
    · by_cases empty : input = []
      · exact .inl empty
      · exact .inr (.inl ⟨input, [], .last empty absent short⟩)
    · have long : (input.take maxLineLength).length = maxLineLength := by
        rw [List.length_take]
        omega
      have split := List.take_append_drop maxLineLength input
      refine .inr (.inr ⟨input.drop maxLineLength, ?_⟩)
      have overlong : Overlong (_ ++ input.drop maxLineLength) _ :=
        .intro (fun member => absent (List.mem_of_mem_take member)) long
      rwa [split] at overlong
  · by_cases short : head.length < maxLineLength
    · exact .inr (.inl ⟨_, rest, .broken absent short⟩)
    · have long : (head.take maxLineLength).length = maxLineLength := by
        rw [List.length_take]
        omega
      refine .inr (.inr ⟨head.drop maxLineLength ++ lineBreak :: rest, ?_⟩)
      have overlong : Overlong (_ ++ (head.drop maxLineLength ++ lineBreak :: rest)) _ :=
        .intro (fun member => absent (List.mem_of_mem_take member)) long
      rwa [← List.append_assoc, List.take_append_drop] at overlong

theorem text_or_foreign (bytes : Bytes) :
    (∃ text, Text.Utf8.encode text = bytes) ∨
      (∀ text, Text.Utf8.encode text ≠ bytes) ∧
        ∃ fault, Text.Utf8.decode bytes = .error fault := by
  cases decoded : Text.Utf8.decode bytes with
  | ok text => exact .inl ⟨text, (Text.Utf8.decode_eq_ok_iff bytes text).mp decoded⟩
  | error fault =>
      refine .inr ⟨?_, fault, rfl⟩
      rintro text rfl
      rw [Text.Utf8.decode_encode] at decoded
      cases decoded

theorem answers_total (limit : Nat) (input : Bytes) :
    ∃ answer rest, Answers limit input answer rest := by
  rcases line_or_overlong input with rfl | ⟨line, rest, is⟩ | ⟨rest, overlong⟩
  · exact ⟨_, _, .nothing⟩
  · rcases text_or_foreign line with ⟨text, rfl⟩ | ⟨foreign, fault, decoded⟩
    · cases parsed : Header.parse text with
      | error violation => exact ⟨_, _, .headerRefused is parsed⟩
      | ok length =>
          by_cases fits : length ≤ limit
          · exact opened ⟨is, parsed, fits⟩
          · exact ⟨_, _, .tooLarge is parsed (by omega)⟩
    · exact ⟨_, _, .headerNotText is foreign decoded⟩
  · exact ⟨_, _, .headerTooLong overlong⟩
where
  opened {input : Bytes} {length : Nat} {rest : Bytes} (opening : Opening limit input length rest) :
      ∃ answer left, Answers limit input answer left := by
    rcases line_or_overlong rest with rfl | ⟨separator, part, is⟩ | ⟨left, overlong⟩
    · exact ⟨_, _, .noSeparator opening⟩
    · by_cases short : part.length < length
      · exact ⟨_, _, .truncated opening is short⟩
      · have size : (part.take length).length = length := by
          rw [List.length_take]
          omega
        rw [← size] at opening
        rw [← List.take_append_drop length part] at is
        exact whole ⟨opening, is⟩
    · exact ⟨_, _, .separatorTooLong opening overlong⟩
  whole {input body rest : Bytes} (frame : Whole limit input body rest) :
      ∃ answer left, Answers limit input answer left := by
    rcases text_or_foreign body with ⟨text, rfl⟩ | ⟨foreign, fault, decoded⟩
    · cases decoded : Envelope.decode text with
      | error refusal => exact ⟨_, _, .noMessage frame decoded⟩
      | ok message => exact ⟨_, _, .message frame decoded⟩
    · exact ⟨_, _, .bodyNotText frame foreign decoded⟩

-- A reader follows the grammar.

namespace Reader

variable {limits : Limits} {reader : Reader} {input rest : Bytes}

theorem Before.line {line : Bytes} (is : Line input line rest)
    (before : Before limits (Signal.ofBytes input) reader) :
    ∃ after n, reader.readLine = (.ok (n + 1), after) ∧ after.line = line ∧
      Before limits (Signal.ofBytes rest) after := by
  cases is with
  | @broken head rest absent short =>
      have split : Signal.ofBytes (head ++ lineBreak :: rest) =
          Signal.ofBytes (head ++ [lineBreak]) ++ Signal.ofBytes rest := by
        simp [Signal.ofBytes]
      rw [split] at before
      obtain ⟨after, read, line, before⟩ := before.line_broken absent short
      exact ⟨after, _, read, line, before⟩
  | @last line some_ absent short =>
      obtain ⟨after, read, line, before⟩ := before.line_last absent short
      obtain ⟨n, size⟩ : ∃ n, input.length = n + 1 :=
        Nat.exists_eq_succ_of_ne_zero (by simpa using some_)
      rw [size] at read
      exact ⟨after, n, read, line, before⟩

theorem Before.overlong (overlong : Overlong input rest)
    (before : Before limits (Signal.ofBytes input) reader) :
    ∃ after, reader.readLine = (.error (violates (.headerTooLong maxLineLength)), after) ∧
      Before limits (Signal.ofBytes rest) after := by
  cases overlong with
  | @intro head rest absent long =>
      rw [Signal.ofBytes_append] at before
      exact before.line_overlong absent long

theorem Before.nothing (before : Before limits (Signal.ofBytes []) reader) :
    ∃ after, reader.readLine = (.ok 0, after) ∧ Before limits (Signal.ofBytes []) after := by
  obtain ⟨after, read, -, before⟩ := before.line_last List.not_mem_nil (by simp [maxLineLength])
  exact ⟨after, read, before⟩

theorem Before.header {line : Bytes} (is : Line input line rest)
    (before : Before limits (Signal.ofBytes input) reader) :
    ∃ after, reader.read =
        (match readHeader limits line with
          | .error violation => (.error (violates violation), after)
          | .ok length => after.readRest length) ∧
      Before limits (Signal.ofBytes rest) after := by
  obtain ⟨after, n, read, same, before⟩ := before.line is
  refine ⟨after, ?_, before⟩
  cases header : readHeader limits line with
  | error violation => simp only [Reader.read, read, same, before.limited, header]
  | ok length => simp only [Reader.read, read, same, before.limited, header]

theorem Before.opening {length : Nat} (opening : Opening limits.maxFrameSize input length rest)
    (before : Before limits (Signal.ofBytes input) reader) :
    ∃ after, reader.read = after.readRest length ∧ Before limits (Signal.ofBytes rest) after := by
  cases opening with
  | @intro _ text _ is declared fits =>
      obtain ⟨after, reads, before⟩ := before.header is
      have header : readHeader limits (Text.Utf8.encode text) = .ok length := by
        simp [readHeader, declared, Nat.not_lt.mpr fits]
      rw [header] at reads
      exact ⟨after, reads, before⟩

theorem Before.whole {body : Bytes} (frame : Whole limits.maxFrameSize input body rest)
    (before : Before limits (Signal.ofBytes input) reader) :
    ∃ after, reader.read = (.ok (some body), after) ∧ Before limits (Signal.ofBytes rest) after := by
  cases frame with
  | intro opening is =>
      obtain ⟨opened, reads, before⟩ := before.opening opening
      obtain ⟨separated, n, line, -, before⟩ := before.line is
      rw [Signal.ofBytes_append] at before
      obtain ⟨after, read, bytes, before⟩ := before.body_whole body
      refine ⟨after, ?_, before⟩
      simp only [reads, Reader.readRest, line, read, bytes]

theorem violates_injective : Function.Injective violates := by
  intro first second same
  simpa [violates] using same

theorem mapError_injective {α β γ : Type} {f : α → β} (injective : Function.Injective f) :
    Function.Injective (Except.mapError f : Except α γ → Except β γ) := by
  intro first second same
  cases first <;> cases second <;> simp_all [Except.mapError, injective.eq_iff]

/-- The answer that a reader gives is the one of the grammar, and so is what it leaves. -/
theorem Before.answers {answer : Except Violation (Option Envelope)}
    (answers : Answers limits.maxFrameSize input answer rest)
    (before : Before limits (Signal.ofBytes input) reader) :
    ∃ after, reader.readMessage = (answer.mapError violates, after) ∧
      Before limits (Signal.ofBytes rest) after := by
  have refused {violation : Violation} {after : Reader}
      (read : reader.read = (.error (violates violation), after)) :
      reader.readMessage = (.error (violates violation), after) := by
    simp only [Reader.readMessage, read]
  have came {body : Bytes} {answer : Except Violation Envelope} {after : Reader}
      (read : reader.read = (.ok (some body), after)) (decoded : decode body = answer) :
      reader.readMessage = ((answer.map some).mapError violates, after) := by
    cases answer <;> simp [Reader.readMessage, read, decoded, Except.map, Except.mapError]
  cases answers with
  | nothing =>
      obtain ⟨after, line, before⟩ := before.nothing
      exact ⟨after, by simp [Reader.readMessage, Reader.read, line, Except.mapError], before⟩
  | headerTooLong overlong =>
      obtain ⟨after, line, before⟩ := before.overlong overlong
      exact ⟨after, refused (by simp only [Reader.read, line]), before⟩
  | @headerNotText _ line _ fault is foreign fault_ =>
      obtain ⟨after, reads, before⟩ := before.header is
      have header : readHeader limits line = .error (.invalidUtf8 fault) := by
        simp only [readHeader, fault_]
      rw [header] at reads
      exact ⟨after, refused reads, before⟩
  | @headerRefused _ text _ violation is refusal =>
      obtain ⟨after, reads, before⟩ := before.header is
      have header : readHeader limits (Text.Utf8.encode text) = .error violation := by
        simp [readHeader, refusal]
      rw [header] at reads
      exact ⟨after, refused reads, before⟩
  | @tooLarge _ text _ length is declared large =>
      obtain ⟨after, reads, before⟩ := before.header is
      have header : readHeader limits (Text.Utf8.encode text) =
          .error (.frameTooLarge length limits.maxFrameSize) := by
        simp [readHeader, declared, large]
      rw [header] at reads
      exact ⟨after, refused reads, before⟩
  | noSeparator opening =>
      obtain ⟨opened, reads, before⟩ := before.opening opening
      obtain ⟨after, line, before⟩ := before.nothing
      exact ⟨after, refused (by simp only [reads, Reader.readRest, line]), before⟩
  | separatorTooLong opening overlong =>
      obtain ⟨opened, reads, before⟩ := before.opening opening
      obtain ⟨after, line, before⟩ := before.overlong overlong
      exact ⟨after, refused (by simp only [reads, Reader.readRest, line]), before⟩
  | truncated opening is short =>
      obtain ⟨opened, reads, before⟩ := before.opening opening
      obtain ⟨separated, n, line, -, before⟩ := before.line is
      obtain ⟨after, read, before⟩ := before.body_cut short
      exact ⟨after, refused (by simp only [reads, Reader.readRest, line, read]), before⟩
  | @bodyNotText _ body _ fault frame foreign fault_ =>
      obtain ⟨after, read, before⟩ := before.whole frame
      have decoded : decode body = .error (.invalidUtf8 fault) := by simp only [decode, fault_]
      exact ⟨after, came read decoded, before⟩
  | @noMessage _ text _ refusal frame refused_ =>
      obtain ⟨after, read, before⟩ := before.whole frame
      have decoded : decode (Text.Utf8.encode text) = .error (.invalidEnvelope refusal) := by
        simp [decode, refused_]
      exact ⟨after, came read decoded, before⟩
  | @message _ text _ message frame isMessage =>
      obtain ⟨after, read, before⟩ := before.whole frame
      have decoded : decode (Text.Utf8.encode text) = .ok message := by simp [decode, isMessage]
      exact ⟨after, came read decoded, before⟩

/-- A reader without a timeout, whatever its buffers hold, answers by the grammar and leaves what
the grammar leaves, and the grammar has an answer to every input. -/
theorem answers_iff_readMessage (reader : Reader) (untimed : reader.limits.readTimeout = none)
    (input : Bytes) (script : reader.source.signals = Signal.ofBytes input) :
    (∃ answer left, Answers reader.limits.maxFrameSize input answer left) ∧
      ∀ answer left, Answers reader.limits.maxFrameSize input answer left ↔
        reader.readMessage.1 = answer.mapError violates ∧
          reader.readMessage.2.source.signals = Signal.ofBytes left := by
  have before : Before reader.limits (Signal.ofBytes input) reader := ⟨rfl, untimed, script⟩
  refine ⟨answers_total _ input, fun answer left => ⟨?_, ?_⟩⟩
  · intro answers
    obtain ⟨after, read, next⟩ := before.answers answers
    rw [read]
    exact ⟨rfl, next.script⟩
  · rintro ⟨given, kept⟩
    obtain ⟨other, rest, answers⟩ := answers_total reader.limits.maxFrameSize input
    obtain ⟨after, read, next⟩ := before.answers answers
    rw [read] at given kept
    dsimp only at given kept
    have sameLeft : rest = left := Signal.ofBytes_injective (next.script.symm.trans kept)
    have sameAnswer : other = answer := mapError_injective violates_injective given
    rw [← sameAnswer, ← sameLeft]
    exact answers

/-- A line break that comes as the byte after the first 1024, to a reader with used buffers. -/
theorem answers_iff_readMessage_at_the_limit :
    let input : Bytes := List.replicate 1024 67 ++ [10, 125]
    let reader : Reader :=
      { source := [.bytes (List.replicate 1000 67), .bytes (List.replicate 24 67 ++ [10, 125])],
        line := [67, 10], body := ⟨3, [123]⟩ }
    reader.source.signals = Signal.ofBytes input ∧
      reader.readMessage.1 = .error (violates (.headerTooLong 1024)) ∧
      reader.readMessage.2.source.signals = Signal.ofBytes [10, 125] := by
  intro input reader
  have script : reader.source.signals = Signal.ofBytes input := by
    change Signal.ofBytes _ ++ (Signal.ofBytes _ ++ []) = Signal.ofBytes input
    rw [List.append_nil, ← Signal.ofBytes_append, ← List.append_assoc,
      List.replicate_append_replicate]
  have absent : lineBreak ∉ List.replicate 1024 (67 : UInt8) := by
    intro member
    exact absurd (List.eq_of_mem_replicate member) (by decide)
  have overlong : Overlong input [10, 125] := .intro absent List.length_replicate
  exact ⟨script, ((answers_iff_readMessage reader rfl input script).2 _ _).mp
    (.headerTooLong overlong)⟩

end Reader
end BuildPeer.Frame
