import BuildPeer.Proofs.Patience

/-!
Streams of wrapped bodies. A body is counted and never searched, so whatever stands in it, header
lines and line breaks included, the next read begins behind its last byte, also when the body was
refused. A reader that is asked once for each body, and once more, hence tells of every body what
it is, has taken whole frames after every answer, and finds the end behind the last one.
-/

namespace BuildPeer.Frame

/-- What a body tells: that it is no text, that its text is no message, or which
message it is. -/
inductive Tells : Bytes → Except Violation (Option Envelope) → Prop where
  | noText {body fault} (foreign : ∀ text, Text.Utf8.encode text ≠ body)
      (fault_ : Text.Utf8.decode body = .error fault) : Tells body (.error (.invalidUtf8 fault))
  | noMessage {text refusal} (refused : Envelope.decode text = .error refusal) :
      Tells (Text.Utf8.encode text) (.error (.invalidEnvelope refusal))
  | message {text message} (decoded : Envelope.decode text = .ok message) :
      Tells (Text.Utf8.encode text) (.ok (some message))

theorem tells_decode (body : Bytes) : Tells body ((decode body).map some) := by
  rcases text_or_foreign body with ⟨text, rfl⟩ | ⟨foreign, fault, fault_⟩
  · cases decoded : Envelope.decode text with
    | error refusal =>
        have refused : decode (Text.Utf8.encode text) = .error (.invalidEnvelope refusal) := by
          simp [decode, decoded]
        rw [refused]
        exact .noMessage decoded
    | ok message =>
        have accepted : decode (Text.Utf8.encode text) = .ok message := by simp [decode, decoded]
        rw [accepted]
        exact .message decoded
  · have refused : decode body = .error (.invalidUtf8 fault) := by simp only [decode, fault_]
    rw [refused]
    exact .noText foreign fault_

namespace Reader

variable {limits : Limits} {reader : Reader} {body : Bytes} {rest : List Signal}

theorem Before.tells (before : Before limits (Signal.ofBytes (wrap body) ++ rest) reader)
    (small : body.length < Text.wordLimit) (fits : body.length ≤ limits.maxFrameSize) :
    ∃ answer after, Tells body answer ∧ reader.readMessage = (answer.mapError violates, after) ∧
      Before limits rest after := by
  obtain ⟨after, read, before⟩ := before.read_wrap small fits
  refine ⟨(decode body).map some, after, tells_decode body, ?_, before⟩
  rw [Reader.readMessage, read]
  dsimp only
  cases decode body <;> rfl

/-- One call for each body and one more. Each of them leaves the reader in front of the bodies that
are still to come. -/
theorem Before.answers_wrapped {bodies : List Bytes}
    (before : Before limits (Signal.ofBytes (bodies.flatMap wrap)) reader)
    (small : ∀ body ∈ bodies, body.length < Text.wordLimit)
    (fit : ∀ body ∈ bodies, body.length ≤ limits.maxFrameSize) :
    let answers := reader.answers (bodies.length + 1)
    (∀ i body, bodies[i]? = some body → ∃ answer after, Tells body answer ∧
      answers[i]? = some (answer.mapError violates, after) ∧
      Before limits (Signal.ofBytes ((bodies.drop (i + 1)).flatMap wrap)) after) ∧
    ∃ after, answers[bodies.length]? = some (.ok none, after) ∧ Before limits [] after := by
  induction bodies generalizing reader with
  | nil =>
      obtain ⟨after, line, before⟩ := before.nothing
      refine ⟨by simp, after, ?_, before⟩
      simp [Reader.answers, Reader.readMessage, Reader.read, line]
  | cons body bodies ih =>
      rw [List.flatMap_cons, Signal.ofBytes_append] at before
      obtain ⟨answer, next, tells, read, before⟩ :=
        before.tells (small body List.mem_cons_self) (fit body List.mem_cons_self)
      obtain ⟨later, last⟩ := ih before
        (fun body member => small body (List.mem_cons_of_mem _ member))
        (fun body member => fit body (List.mem_cons_of_mem _ member))
      have split : reader.answers ((body :: bodies).length + 1) =
          (answer.mapError violates, next) :: next.answers (bodies.length + 1) := by
        rw [List.length_cons, Reader.answers, read]
      dsimp only
      rw [split]
      constructor
      · intro i other here
        cases i with
        | zero =>
            cases here
            exact ⟨answer, next, tells, rfl, before⟩
        | succ i => exact later i other here
      · exact last

/-- Reading undoes wrapping over whole streams, and a bad body costs nothing but itself. The timeout
of the reader, if it has one, is as long as the pauses of the script. -/
theorem account_wrapped (reader : Reader) (bodies : List Bytes)
    (word : reader.limits.maxFrameSize < Text.wordLimit)
    (fit : ∀ body ∈ bodies, body.length ≤ reader.limits.maxFrameSize)
    (outlasts : reader.limits.Outlasts reader.source)
    (script : reader.source.signals = Signal.ofBytes (bodies.flatMap wrap)) :
    let account := reader.account (bodies.length + 1)
    (∀ i body, bodies[i]? = some body → ∃ answer, Tells body answer ∧
      account[i]? = some (answer.mapError violates, ((bodies.take (i + 1)).flatMap wrap).length)) ∧
    account[bodies.length]? = some (.ok none, (bodies.flatMap wrap).length) := by
  have patient := patient_of_outlasts script outlasts
  have before : Before reader.untimed.limits (Signal.ofBytes (bodies.flatMap wrap))
      reader.untimed := ⟨rfl, rfl, script⟩
  obtain ⟨each, last⟩ := before.answers_wrapped
    (fun body member => Nat.lt_of_le_of_lt (fit body member) word) fit
  -- The bytes taken are those in front of what a reader is left with.
  have taken {front : Bytes} {back : List Signal} {after : Reader}
      (split : reader.source.signals = Signal.ofBytes front ++ back)
      (left : Before reader.untimed.limits back after) :
      reader.untimed.source.size - after.source.size = front.length := by
    rw [← left.script] at split
    have size := Source.size_of_signals_append split
    change reader.source.size - after.source.size = _
    omega
  intro account
  have same : account = (reader.untimed.answers (bodies.length + 1)).map fun given =>
      (given.1, reader.untimed.source.size - given.2.source.size) :=
    (patient.account (bodies.length + 1)).symm
  rw [same]
  constructor
  · intro i body here
    obtain ⟨answer, after, tells, given, left⟩ := each i body here
    have split : reader.source.signals = Signal.ofBytes ((bodies.take (i + 1)).flatMap wrap) ++
        Signal.ofBytes ((bodies.drop (i + 1)).flatMap wrap) := by
      rw [script, ← Signal.ofBytes_append, ← List.flatMap_append, List.take_append_drop]
    refine ⟨answer, tells, ?_⟩
    rw [List.getElem?_map, given, Option.map_some, taken split left]
  · obtain ⟨after, given, left⟩ := last
    have split : reader.source.signals = Signal.ofBytes (bodies.flatMap wrap) ++ [] := by
      rw [script, List.append_nil]
    rw [List.getElem?_map, given, Option.map_some, taken split left]

/-- A body that is no text, one that looks like a header, and an empty one, to a reader with used
buffers and with just enough patience. -/
theorem account_wrapped_look_alike :
    let bodies : List Bytes :=
      [[255, 10], Text.Utf8.encode "Content-Length: 7\r\n\r\n".toList, []]
    let input := bodies.flatMap wrap
    let reader : Reader :=
      { limits := { readTimeout := some ⟨5⟩ },
        source := [.bytes (input.take 9), .pause 5, .bytes (input.drop 9)],
        line := [67], body := ⟨3, [123]⟩ }
    reader.source.signals = Signal.ofBytes input ∧ reader.limits.Outlasts reader.source ∧
      (∃ answer, Tells [255, 10] answer ∧
        (reader.account 4)[0]? = some (answer.mapError violates, 23)) ∧
      (reader.account 4)[3]? = some (.ok none, input.length) := by
  intro bodies input reader
  have script : reader.source.signals = Signal.ofBytes input := by
    change Signal.ofBytes _ ++ (Signal.ofBytes _ ++ []) = Signal.ofBytes input
    rw [List.append_nil, ← Signal.ofBytes_append, List.take_append_drop]
  have outlasts : reader.limits.Outlasts reader.source := by
    rintro _ ⟨⟩
    decide
  have fit : ∀ body ∈ bodies, body.length ≤ reader.limits.maxFrameSize := by decide
  obtain ⟨each, last⟩ := account_wrapped reader bodies (by decide) fit outlasts script
  exact ⟨script, outlasts, each 0 _ rfl, last⟩

end Reader
end BuildPeer.Frame
