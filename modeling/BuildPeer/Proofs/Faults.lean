import BuildPeer.Proofs.Hearing

/-!
Where a fault of the input surfaces. A call reads a header line, a separator line and a body, one after
another, and each of these parts starts where the one before it has stopped. A fault is reported by the
part that is still being read when the bytes in front of the fault are used up; `Part.Reaches` says
which bytes these can be. Whatever a part does, it takes bytes and at most one fault behind them, which
it then reports (`Before.readPart`), and so does a call, since it stops at the first part that fails.
-/

namespace BuildPeer

namespace Frame

/-- What a call reads in one go: a line, or a body of so many bytes. -/
inductive Part where
  | line
  | body (length : Nat)
  deriving DecidableEq, Repr

namespace Part

/-- The part is still being read when it has taken these bytes. -/
def Reaches : Part → Bytes → Prop
  | .line, head => lineBreak ∉ head ∧ head.length < maxLineLength
  | .body length, head => head.length < length

def report : Part → IoError → Halt
  | .line, error => .failed (.io error)
  | .body length, error =>
      if error.kind = .unexpectedEof then violates (.truncatedFrame length)
      else .failed (.io error)

def isLast : Part → UInt8 → Bool
  | .line => isLineBreak
  | .body _ => fun _ => false

def room : Part → Nat
  | .line => maxLineLength
  | .body length => length

theorem reaches_iff (part : Part) (head : Bytes) :
    part.Reaches head ↔ (∀ b ∈ head, part.isLast b = false) ∧ head.length < part.room := by
  cases part with
  | line =>
      constructor
      · rintro ⟨absent, short⟩
        exact ⟨isLineBreak_of_not_mem absent, short⟩
      · rintro ⟨goesOn, short⟩
        refine ⟨?_, short⟩
        intro present
        have last := goesOn lineBreak present
        rw [isLast, (isLineBreak_iff lineBreak).mpr rfl] at last
        cases last
  | body length =>
      constructor
      · intro short
        exact ⟨fun _ _ => rfl, short⟩
      · rintro ⟨-, short⟩
        exact short

end Part

namespace Reader

def readPart (reader : Reader) : Part → Except Halt Unit × Reader
  | .line => (reader.readLine.1.map fun _ => (), reader.readLine.2)
  | .body length => reader.readBody length

/-- The parts that a call reads, each with the reader in front of it. -/
inductive Makes (reader : Reader) : Part → Reader → Prop where
  | header : Makes reader .line reader
  | separator {opened : Reader} {n length : Nat} (line : reader.readLine = (.ok (n + 1), opened))
      (declared : readHeader opened.limits opened.line = .ok length) : Makes reader .line opened
  | body {opened separated : Reader} {n m length : Nat}
      (line : reader.readLine = (.ok (n + 1), opened))
      (declared : readHeader opened.limits opened.line = .ok length)
      (separator : opened.readLine = (.ok (m + 1), separated)) :
      Makes reader (.body length) separated

def behind (reader : Reader) : Nat → Reader
  | 0 => reader
  | calls + 1 => reader.readMessage.2.behind calls

variable {limits : Limits} {reader place after : Reader} {part : Part} {input : List Signal}

theorem behind_succ (reader : Reader) (calls : Nat) :
    reader.behind (calls + 1) = (reader.behind calls).readMessage.2 := by
  induction calls generalizing reader with
  | zero => rfl
  | succ calls ih => exact ih reader.readMessage.2

theorem answers_behind (reader : Reader) (calls : Nat) :
    reader.answers calls = (List.range calls).map fun n => (reader.behind n).readMessage := by
  induction calls generalizing reader with
  | zero => rfl
  | succ calls ih =>
      rw [List.range_succ_eq_map, List.map_cons, List.map_map]
      exact congrArg (reader.readMessage :: ·) (ih reader.readMessage.2)

-- One part.

/-- A part is one pull. It reports the fault that the pull fails with, and no other. -/
theorem readPart_pull (reader : Reader) (part : Part) :
    let p := reader.source.pull part.isLast part.room (budget reader.limits)
    (reader.readPart part).2.limits = reader.limits ∧
      (reader.readPart part).2.source = p.rest ∧
      (∀ error, p.stop = .failed error →
        (reader.readPart part).1 = .error (part.report error)) ∧
      ((∀ error, p.stop ≠ .failed error) →
        ∀ error, (reader.readPart part).1 ≠ .error (.failed (.io error))) := by
  cases part with
  | line =>
      have left := reader.readLine_after
      dsimp only [readPart, Part.isLast, Part.room]
      rw [left]
      refine ⟨rfl, rfl, ?_, ?_⟩
      · intro error failed
        simp [readLine, pulled, failed, Except.map, Part.report]
      · intro goesOn error
        cases stop : (reader.source.pull isLineBreak maxLineLength (budget reader.limits)).stop with
        | failed other => exact absurd stop (goesOn other)
        | timedOut => simp [readLine, pulled, stop, Except.map]
        | waits => simp [readLine, pulled, stop, Except.map]
        | filled =>
            simp only [readLine, pulled, stop]
            split <;> simp [Except.map, violates]
        | ended =>
            simp only [readLine, pulled, stop]
            split <;> simp [Except.map, violates]
  | body length =>
      have left := reader.readBody_after length
      dsimp only [readPart, Part.isLast, Part.room]
      rw [left]
      refine ⟨rfl, rfl, ?_, ?_⟩
      · intro error failed
        simp only [readBody, pulled, failed, Part.report]
        split <;> rfl
      · intro goesOn error
        cases stop : (reader.source.pull (fun _ => false) length (budget reader.limits)).stop with
        | failed other => exact absurd stop (goesOn other)
        | _ => simp [readBody, pulled, stop, violates]

/-- A part takes bytes, or bytes and a fault that they reach, and it reports just that. -/
theorem Before.readPart (before : Before limits input reader) (part : Part) :
    ∃ left, Before limits left (reader.readPart part).2 ∧
      ((∃ head error, input = Signal.ofBytes head ++ .fault error :: left ∧ part.Reaches head ∧
          (reader.readPart part).1 = .error (part.report error)) ∨
        ∃ bytes, input = Signal.ofBytes bytes ++ left ∧
          ∀ error, (reader.readPart part).1 ≠ .error (.failed (.io error))) := by
  have takes := Signal.pull_takes part.isLast part.room input
  cases pulls : Signal.pull part.isLast part.room input with
  | mk taken stopped =>
      obtain ⟨stop, left⟩ := stopped
      rw [pulls] at takes
      obtain ⟨rest, signals, pull⟩ := before.pull pulls
      obtain ⟨limited, script, failed, came⟩ := reader.readPart_pull part
      rw [pull] at script failed came
      have behind : Before limits left (reader.readPart part).2 := by
        refine ⟨limited.trans before.limited, before.untimed, ?_⟩
        rw [script]
        exact signals
      refine ⟨left, behind, ?_⟩
      rcases takes with ⟨error, stops, split, goesOn, fits⟩ | ⟨goesOn, split⟩
      · exact .inl ⟨taken, error, split, (part.reaches_iff taken).mpr ⟨goesOn, fits⟩,
          failed error stops⟩
      · exact .inr ⟨taken, split, came goesOn⟩

/-- A part reports a fault ahead exactly if there are only bytes in front of it and they reach it. -/
theorem Before.reports_iff {mid later : List Signal} {error : IoError}
    (before : Before limits (mid ++ .fault error :: later) reader) (part : Part) :
    ((reader.readPart part).1 = .error (part.report error) ∧
        (reader.readPart part).2.source.signals = later) ↔
      ∃ head, mid = Signal.ofBytes head ∧ part.Reaches head := by
  obtain ⟨-, script, failed, -⟩ := reader.readPart_pull part
  constructor
  · rintro ⟨-, took⟩
    rcases Signal.pull_ahead part.isLast part.room mid error later with
      ⟨head, bytes, goesOn, fits⟩ | ⟨left, ahead⟩
    · exact ⟨head, bytes, (part.reaches_iff head).mpr ⟨goesOn, fits⟩⟩
    · -- The fault would be in front of what is behind it.
      obtain ⟨rest, signals, pull⟩ := before.pull (Prod.ext rfl (Prod.ext rfl rfl))
      rw [script, pull, signals, ahead] at took
      have longer := congrArg List.length took
      simp only [List.length_append, List.length_cons] at longer
      omega
  · rintro ⟨head, rfl, reaches⟩
    obtain ⟨goesOn, fits⟩ := (part.reaches_iff head).mp reaches
    obtain ⟨rest, signals, pull⟩ :=
      before.pull (Signal.pull_failed part.isLast part.room head error later goesOn fits)
    rw [pull] at script failed
    refine ⟨failed error rfl, ?_⟩
    rw [script]
    exact signals

-- One call.

theorem Makes.fails (makes : reader.Makes part place) {halt : Halt}
    (fails : place.readPart part = (.error halt, after)) :
    reader.readMessage = (.error halt, after) := by
  have line {reader : Reader} (fails : reader.readPart .line = (.error halt, after)) :
      reader.readLine = (.error halt, after) := by
    cases read : reader.readLine with
    | mk answer left =>
        simp only [readPart, read] at fails
        cases answer with
        | error other =>
            cases fails
            rfl
        | ok size => cases fails
  cases makes with
  | header => simp only [readMessage, Reader.read, line fails]
  | separator opened declared =>
      simp only [readMessage, Reader.read, opened, declared, readRest, line fails]
  | body opened declared separated =>
      have body : place.readBody _ = (.error halt, after) := fails
      simp only [readMessage, Reader.read, opened, declared, readRest, separated, body]

theorem readMessage_read (reader : Reader) :
    reader.readMessage.2 = reader.read.2 ∧
      ∀ error, reader.readMessage.1 = .error (.failed (.io error)) →
        reader.read.1 = .error (.failed (.io error)) := by
  unfold readMessage
  cases reader.read with
  | mk answer after =>
      match answer with
      | .error halt => simp
      | .ok none => simp
      | .ok (some body) =>
          dsimp only
          cases decode body with
          | error violation => simp [violates]
          | ok message => simp

theorem last_part_rest (reader : Reader) (length : Nat) :
    ((reader.readPart .line).2 = (reader.readRest length).2 ∧
        ((reader.readPart .line).1 = .ok () →
          ∀ error, (reader.readRest length).1 ≠ .error (.failed (.io error)))) ∨
      ∃ m separated, reader.readLine = (.ok (m + 1), separated) ∧
        (separated.readPart (.body length)).2 = (reader.readRest length).2 ∧
        ((separated.readPart (.body length)).1 = .ok () →
          ∀ error, (reader.readRest length).1 ≠ .error (.failed (.io error))) := by
  cases separator : reader.readLine with
  | mk answer separated =>
      match answer with
      | .error halt => exact .inl (by simp [readPart, readRest, separator, Except.map])
      | .ok 0 => exact .inl (by simp [readPart, readRest, separator, violates])
      | .ok (m + 1) =>
          refine .inr ⟨m, separated, rfl, ?_⟩
          simp only [readPart, readRest, separator]
          cases separated.readBody length with
          | mk answer after => cases answer <;> simp

/-- A call stops with one of its parts. If that comes whole, the answer is no failure of the input. -/
theorem last_part (reader : Reader) :
    ∃ part place, reader.Makes part place ∧ (place.readPart part).2 = reader.readMessage.2 ∧
      ((place.readPart part).1 = .ok () →
        ∀ error, reader.readMessage.1 ≠ .error (.failed (.io error))) := by
  obtain ⟨left, fails⟩ := reader.readMessage_read
  rw [left]
  suffices frame : ∃ part place, reader.Makes part place ∧
      (place.readPart part).2 = reader.read.2 ∧
      ((place.readPart part).1 = .ok () →
        ∀ error, reader.read.1 ≠ .error (.failed (.io error))) by
    obtain ⟨part, place, makes, same, whole⟩ := frame
    exact ⟨part, place, makes, same, fun came error io => whole came error (fails error io)⟩
  cases line : reader.readLine with
  | mk answer opened =>
      match answer with
      | .error halt =>
          exact ⟨.line, reader, .header, by simp [readPart, Reader.read, line, Except.map]⟩
      | .ok 0 => exact ⟨.line, reader, .header, by simp [readPart, Reader.read, line]⟩
      | .ok (n + 1) =>
          cases declared : readHeader opened.limits opened.line with
          | error violation =>
              exact ⟨.line, reader, .header, by simp [readPart, Reader.read, line, declared, violates]⟩
          | ok length =>
              have reads : reader.read = opened.readRest length := by
                simp only [Reader.read, line, declared]
              rw [reads]
              rcases opened.last_part_rest length with last | ⟨m, separated, separator, last⟩
              · exact ⟨.line, opened, .separator line declared, last⟩
              · exact ⟨.body length, separated, .body line declared separator, last⟩

theorem Makes.between (makes : reader.Makes part place) (before : Before limits input reader) :
    ∃ front, input = Signal.ofBytes front ++ place.source.signals ∧
      Before limits place.source.signals place := by
  have line {reader opened : Reader} {input : List Signal} {n : Nat}
      (before : Before limits input reader) (read : reader.readLine = (.ok (n + 1), opened)) :
      ∃ front, input = Signal.ofBytes front ++ opened.source.signals ∧
        Before limits opened.source.signals opened := by
    obtain ⟨left, behind, took⟩ := before.readPart .line
    have came : reader.readPart .line = (.ok (), opened) := by
      rw [Reader.readPart, read]
      rfl
    rw [came] at behind took
    have same := behind.script
    rw [same]
    rcases took with ⟨head, error, -, -, reported⟩ | ⟨bytes, split, -⟩
    · cases reported
    · exact ⟨bytes, split, behind⟩
  cases makes with
  | header =>
      have script := before.script
      rw [script]
      exact ⟨[], rfl, before⟩
  | separator opened declared => exact line before opened
  | body opened declared separated =>
      obtain ⟨front, split, next⟩ := line before opened
      obtain ⟨more, splitMore, last⟩ := line next separated
      refine ⟨front ++ more, ?_, last⟩
      rw [Signal.ofBytes_append, List.append_assoc, ← splitMore]
      exact split

/-- A call takes bytes; or it takes bytes up to a fault, which one of its parts reaches, and the answer
is the report of that. -/
theorem Before.call (before : Before limits input reader) :
    ∃ left, Before limits left reader.readMessage.2 ∧
      ((∃ bytes, input = Signal.ofBytes bytes ++ left ∧
          ∀ error, reader.readMessage.1 ≠ .error (.failed (.io error))) ∨
        ∃ part place front head error, reader.Makes part place ∧
          input = Signal.ofBytes front ++ place.source.signals ∧
          place.source.signals = Signal.ofBytes head ++ .fault error :: left ∧
          part.Reaches head ∧ reader.readMessage.1 = .error (part.report error)) := by
  obtain ⟨part, place, makes, same, whole⟩ := reader.last_part
  obtain ⟨front, split, inFront⟩ := makes.between before
  obtain ⟨left, behind, took⟩ := inFront.readPart part
  rw [same] at behind
  refine ⟨left, behind, ?_⟩
  have answer (halt : Halt) (fails : (place.readPart part).1 = .error halt) :
      reader.readMessage.1 = .error halt := by
    rw [makes.fails (Prod.ext fails rfl)]
  rcases took with ⟨head, error, splitHere, reaches, reported⟩ | ⟨bytes, splitHere, noFault⟩
  · exact .inr ⟨part, place, front, head, error, makes, split, splitHere, reaches,
      answer _ reported⟩
  · refine .inl ⟨front ++ bytes, ?_, ?_⟩
    · rw [Signal.ofBytes_append, List.append_assoc, ← splitHere]
      exact split
    · cases came : (place.readPart part).1 with
      | ok => exact whole came
      | error halt =>
          rw [came] at noFault
          rw [answer halt came]
          intro error same
          exact noFault error (congrArg Except.error (Except.error.inj same))

theorem Before.behind (before : Before limits input reader) (calls : Nat) :
    ∃ passed left, input = passed ++ left ∧ Before limits left (reader.behind calls) := by
  induction calls generalizing reader input with
  | zero => exact ⟨[], input, rfl, before⟩
  | succ calls ih =>
      obtain ⟨left, after, took⟩ := before.call
      have first : ∃ passed, input = passed ++ left := by
        rcases took with ⟨bytes, split, -⟩ | ⟨_, _, front, head, error, -, split, splitHere, -⟩
        · exact ⟨_, split⟩
        · refine ⟨Signal.ofBytes front ++ Signal.ofBytes head ++ [.fault error], ?_⟩
          rw [split, splitHere]
          simp
      obtain ⟨passed, rfl⟩ := first
      obtain ⟨more, last, rfl, ends⟩ := ih after
      exact ⟨passed ++ more, last, by simp, ends⟩

theorem gives_of_answers {messages : List Envelope} {halt : Halt}
    (answered : (reader.answers (messages.length + 1)).map Prod.fst =
      messages.map (fun message => .ok (some message)) ++ [.error halt]) :
    reader.Gives messages (.error halt) := by
  induction messages generalizing reader with
  | nil =>
      refine .last (Prod.ext (List.cons.inj answered).1 rfl) ?_
      intro message same
      cases same
  | cons message messages ih =>
      obtain ⟨first, others⟩ := List.cons.inj answered
      exact .message (Prod.ext first rfl) (ih others)

end Reader

end Frame

namespace Session

/-- Faults surface where they are reached. Without a timeout, in whatever chunks the bytes come, of any
number of calls each begins where the last one has stopped, with a header line. Each of its parts
reports a fault ahead exactly if it reaches it, and the call answers with that report and stops behind
the fault. What a call takes are bytes and no fault, or bytes up to the fault it reports. A session whose
calls give messages and then fail has answered these messages and nothing else, and ends with that
failure; and what is behind an exit, faults or anything, is never noticed, whatever the sink is. -/
theorem faults_surface_where_reached :
    (∀ (limits : Limits), limits.readTimeout = none → ∀ (source : Source) (calls : Nat),
      let first := Frame.Reader.start limits source
      let reader := first.behind calls
      let after := first.behind (calls + 1)
      let answer := reader.readMessage.1
      (first.answers (calls + 1))[calls]? = some (answer, after) ∧
        (∃ passed, source.signals = passed ++ reader.source.signals) ∧
        (∀ (part : Frame.Part) (place : Frame.Reader), reader.Makes part place →
          (∃ front, reader.source.signals = Signal.ofBytes front ++ place.source.signals) ∧
          ∀ (mid later : List Signal) (error : IoError),
            place.source.signals = mid ++ .fault error :: later →
            (((place.readPart part).1 = .error (part.report error) ∧
                (place.readPart part).2.source.signals = later) ↔
              ∃ head, mid = Signal.ofBytes head ∧ part.Reaches head) ∧
            ((∃ head, mid = Signal.ofBytes head ∧ part.Reaches head) →
              answer = .error (part.report error) ∧ after.source.signals = later ∧
                after.Makes .line after)) ∧
        ((∃ bytes, reader.source.signals = Signal.ofBytes bytes ++ after.source.signals ∧
            ∀ error, answer ≠ .error (.failed (.io error))) ∨
          ∃ part place front head error, reader.Makes part place ∧
            reader.source.signals = Signal.ofBytes front ++ place.source.signals ∧
            place.source.signals = Signal.ofBytes head ++ .fault error :: after.source.signals ∧
            part.Reaches head ∧ answer = .error (part.report error))) ∧
    (∀ (server : Server) (source : Source) (messages : List Envelope) (halt : Halt),
      ((Frame.Reader.start server.limits source).answers (messages.length + 1)).map Prod.fst =
          messages.map (fun message => .ok (some message)) ++ [.error halt] →
      (∀ message ∈ messages, message.method ≠ "build/exit") →
      ∀ (sink : Sink), sink.TakesAll →
        let run := serve server source sink
        run.output = sink.taken ++
            (replies server.identity (.start server.strict) messages).flatMap Frame.encode ∧
          run.ending = haltEnding halt) ∧
    ∀ (server : Server) (frames : List Bytes) (messages : List Envelope),
      List.Forall₂ (Frame.Carries server.limits.maxFrameSize) frames messages →
      (∃ message ∈ messages, message.method = "build/exit") →
      ∀ (source : Source) (behind : List Signal),
      source.signals = Signal.ofBytes frames.flatten ++ behind →
      server.limits.readTimeout = none →
      ∀ (sink : Sink),
        let run := serve server source sink
        let whole := serve server [.bytes frames.flatten] sink
        run.output = whole.output ∧ run.ending = whole.ending ∧
          (sink.TakesAll → ∃ clean, run.ending = .exit clean) := by
  refine ⟨?_, ?_, ?_⟩
  · intro limits untimed source calls first reader after answer
    have start : Frame.Reader.Before limits source.signals first := ⟨rfl, untimed, rfl⟩
    obtain ⟨passed, here, split, before⟩ := start.behind calls
    have next : after = reader.readMessage.2 := first.behind_succ calls
    refine ⟨?_, ⟨passed, ?_⟩, ?_, ?_⟩
    · rw [first.answers_behind, next]
      simp [answer, reader]
    · rw [before.script]
      exact split
    · intro part place makes
      obtain ⟨front, between, inFront⟩ := makes.between before
      refine ⟨⟨front, ?_⟩, ?_⟩
      · rw [before.script]
        exact between
      · intro mid later error script
        rw [script] at inFront
        have reports := inFront.reports_iff part
        refine ⟨reports, ?_⟩
        intro reached
        obtain ⟨reported, left⟩ := reports.mpr reached
        have read := makes.fails (Prod.ext reported rfl)
        have same : after = (place.readPart part).2 := next.trans (congrArg Prod.snd read)
        exact ⟨congrArg Prod.fst read, by rw [same]; exact left, .header⟩
    · obtain ⟨left, last, took⟩ := before.call
      rw [← next] at last
      rw [before.script, last.script]
      exact took
  · intro server source messages halt answered noExit sink takesAll
    exact serve_to_the_last (Frame.Reader.gives_of_answers answered) noExit takesAll
  · intro server frames messages carries exits source behind script untimed sink
    exact serve_frames_with_exit carries exits script untimed sink

/-- Two faults one behind the other in a body of five bytes: the first says that the input is over, and
is reported as a truncated frame, the second meets the header line of the next call. Behind a request
they end the session once it is answered; behind an exit they do not show. -/
theorem faults_surface_where_reached_inside_a_body :
    let line : Bytes :=
      [67, 111, 110, 116, 101, 110, 116, 45, 76, 101, 110, 103, 116, 104, 58, 53, 10]
    let over_ : IoError := ⟨.unexpectedEof, "over"⟩
    let gone : IoError := ⟨.connectionReset, "gone"⟩
    let source : Source := [.bytes (line ++ [10, 123]), .fault over_, .fault gone, .bytes [10]]
    let reader := Frame.Reader.start {} source
    reader.readMessage.1 = .error (Frame.violates (.truncatedFrame 5)) ∧
      (reader.behind 1).readMessage.1 = .error (.failed (.io gone)) ∧
      (serve {} source {}).output = [] ∧
      (serve {} source {}).ending = .failed (.violation (.truncatedFrame 5)) ∧
      (∃ asked : Accepted, asked.text = "[\"\",1,\"build/shutdown\"]".toList ∧
        let run := serve {} (.bytes asked.frame :: source) {}
        run.output = Text.Utf8.encode
            ("Content-Length: 38\r\n\r\n" ++
              "\x7b\"jsonrpc\":\"2.0\",\"id\":1,\"result\":null\x7d").toList ∧
          run.ending = .failed (.violation (.truncatedFrame 5))) ∧
      ∃ exit : Accepted, exit.text = "[\"\",null,\"build/exit\"]".toList ∧
        ∃ clean, (serve {} (.bytes exit.frame :: source) {}).ending = .exit clean := by
  intro line over_ gone source reader
  obtain ⟨calls, failures, exits⟩ := faults_surface_where_reached
  have takesAll : Sink.TakesAll {} := ⟨rfl, by decide, rfl⟩
  obtain ⟨-, -, parts, -⟩ := calls {} rfl source 0
  let behind : Source := [.fault over_, .fault gone, .bytes [10]]
  have opened : reader.readLine = (.ok 17, ⟨{}, .bytes [10, 123] :: behind, line, {}⟩) := rfl
  have inBody : reader.Makes (.body 5) ⟨{}, .bytes [123] :: behind, [10], {}⟩ := .body opened rfl rfl
  obtain ⟨-, reports⟩ := parts _ _ inBody
  obtain ⟨-, reported⟩ := reports (Signal.ofBytes [123]) (.fault gone :: [.byte 10]) over_ rfl
  obtain ⟨first, left, opening⟩ := reported ⟨[123], rfl, (by decide : 1 < 5)⟩
  obtain ⟨-, -, nextParts, -⟩ := calls {} rfl source 1
  obtain ⟨-, nextReports⟩ := nextParts _ _ opening
  obtain ⟨-, nextReported⟩ := nextReports [] [.byte 10] gone left
  obtain ⟨second, -, -⟩ := nextReported ⟨[], rfl, by simp [Frame.Part.Reaches, Frame.maxLineLength]⟩
  have answered : (reader.answers 1).map Prod.fst =
      [.error (Frame.violates (.truncatedFrame 5))] := congrArg (fun answer => [answer]) first
  obtain ⟨output, ending⟩ := failures {} source [] _ answered (by simp) {} takesAll
  refine ⟨first, second, output, ending, ?_, ?_⟩
  · obtain ⟨asked, text, message, fits⟩ := Accepted.exists_of_decode
      "[\"\",1,\"build/shutdown\"]".toList (.request (.integer 1) "build/shutdown" none)
      (by decide +kernel) (by decide)
    refine ⟨asked, text, ?_⟩
    have start : Frame.Reader.Before {} (Signal.ofBytes asked.frame ++ source.signals)
        (.start {} (.bytes asked.frame :: source)) := ⟨rfl, rfl, rfl⟩
    obtain ⟨body, after, read, decoded, before⟩ := start.carries (Accepted.carries fits)
    -- What is behind the request is the script above, so the next call does the same.
    have alike : Frame.Reader.Alike after reader :=
      ⟨before.limited, by rw [before.limited], before.script⟩
    obtain ⟨answer, here, there, readHere, readThere, -⟩ := alike.readMessage
    have fails : answer = .error (Frame.violates (.truncatedFrame 5)) := by
      have told : reader.readMessage.1 = .error (Frame.violates (.truncatedFrame 5)) := first
      rw [readThere] at told
      exact told
    have both : ((Frame.Reader.start {} (.bytes asked.frame :: source)).answers 2).map Prod.fst =
        [.ok (some asked.message), .error (Frame.violates (.truncatedFrame 5))] := by
      simp only [Frame.Reader.answers, Frame.Reader.readMessage, read, decoded]
      rw [← Frame.Reader.readMessage, readHere, fails]
      rfl
    have noExit : ∀ message ∈ [asked.message], message.method ≠ "build/exit" := by
      simp [message, Envelope.method]
    obtain ⟨written, failed⟩ := failures {} (.bytes asked.frame :: source) [asked.message] _ both
      noExit {} takesAll
    have replied : replies {} (.start false) [asked.message] = [.result (.integer 1) .null] := by
      rw [message]
      rfl
    refine ⟨written.trans ?_, failed⟩
    change [] ++ (replies {} (.start false) [asked.message]).flatMap Frame.encode = _
    rw [replied, List.nil_append, List.flatMap_singleton]
    decide +kernel
  · obtain ⟨exit, text, message, fits⟩ := Accepted.exists_of_decode
      "[\"\",null,\"build/exit\"]".toList (.request .null "build/exit" none)
      (by decide +kernel) (by decide)
    obtain ⟨-, -, whole⟩ := exits {} [exit.frame] [exit.message]
      (.cons (Accepted.carries fits) .nil)
      ⟨exit.message, List.mem_singleton_self _, by rw [message]; rfl⟩ (.bytes exit.frame :: source)
      source.signals (by simp [Source.signals]) rfl {}
    exact ⟨exit, text, whole takesAll⟩

end Session
end BuildPeer
