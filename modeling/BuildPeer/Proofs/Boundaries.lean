import BuildPeer.Proofs.Accounting
import BuildPeer.Proofs.Json.Sequence

/-!
Where a session without faults can end. Every input divides into complete frames and what is behind
them: nothing, an exit, or bytes that violate the framing. The session answers the frames and ends
by what is behind, so its end says whether the input was over at the boundary of a frame. A frame
that is cut off, at whatever byte, is a violation.
-/

namespace BuildPeer

namespace Frame

inductive Behind (limit : Nat) : Bytes → Prop where
  | nothing : Behind limit []
  | exit {frame rest : Bytes} {message : Envelope} (carries : Carries limit frame message)
      (isExit : message.method = "build/exit") : Behind limit (frame ++ rest)
  | violation {input rest : Bytes} {violation : Violation}
      (answers : Answers limit input (.error violation) rest) : Behind limit input

theorem Carries.ne_nil {limit : Nat} {frame : Bytes} {message : Envelope}
    (carries : Carries limit frame message) : frame ≠ [] := by
  rintro rfl
  cases (Answers.unique carries .nothing).1

/-- Frames without an exit are taken off the front of an input as long as there are any. -/
theorem divides (limit : Nat) (input : Bytes) :
    ∃ frames messages rest, List.Forall₂ (Carries limit) frames messages ∧
      (∀ message ∈ messages, message.method ≠ "build/exit") ∧ Behind limit rest ∧
      input = frames.flatten ++ rest := by
  -- On the length of the input: a frame that is taken off the front is not empty.
  induction size : input.length using Nat.strong_induction_on generalizing input with
  | _ n ih =>
      obtain ⟨answer, left, answers⟩ := answers_total limit input
      match answer with
      | .error violation => exact ⟨[], [], input, .nil, by simp, .violation answers, rfl⟩
      | .ok none =>
          cases answers with
          | nothing => exact ⟨[], [], [], .nil, by simp, .nothing, rfl⟩
      | .ok (some message) =>
          obtain ⟨frame, carries, rfl⟩ := answers.carries
          by_cases isExit : message.method = "build/exit"
          · exact ⟨[], [], frame ++ left, .nil, by simp, .exit carries isExit, rfl⟩
          · have positive := List.length_pos_iff.mpr carries.ne_nil
            have shorter : left.length < n := by
              rw [← size, List.length_append]
              omega
            obtain ⟨frames, messages, rest, more, noExit, behind, rfl⟩ := ih _ shorter left rfl
            exact ⟨frame :: frames, message :: messages, rest, .cons carries more,
              List.forall_mem_cons.mpr ⟨isExit, noExit⟩, behind, by simp⟩

end Frame

namespace Session

variable {server : Server} {state : State}

def endingWith : Except Halt (Option Envelope) → Ending
  | .ok _ => .endOfInput
  | .error halt => haltEnding halt

theorem Round.ends {progress : Progress} {reader : Frame.Reader}
    {answer : Except Halt (Option Envelope)} (round : Round server state progress)
    (read : state.reader.readMessage = (answer, reader))
    (noMessage : ∀ message, answer ≠ .ok (some message)) :
    ∃ refused, progress = .stops ⟨none, refused, endingWith answer, { state with reader }⟩ := by
  have noneRead {message : Envelope} {after : Frame.Reader}
      (other : state.reader.readMessage = (.ok (some message), after)) : False := by
    rw [other] at read
    cases read
    exact noMessage message rfl
  cases round with
  | ended other =>
      rw [other] at read
      cases read
      exact ⟨none, rfl⟩
  | @halted _ _ refused other =>
      rw [other] at read
      cases read
      exact ⟨refused, rfl⟩
  | silent other met => exact (noneRead other).elim
  | exits other met => exact (noneRead other).elim
  | answered other met sent => exact (noneRead other).elim
  | closed other met sent => exact (noneRead other).elim
  | broken other met sent => exact (noneRead other).elim

theorem State.Ready.turn_ends {input rest : Bytes} {answer : Except Violation (Option Envelope)}
    (ready : State.Ready server (Signal.ofBytes input) state)
    (answers : Frame.Answers server.limits.maxFrameSize input answer rest)
    (noMessage : ∀ message, answer ≠ .ok (some message)) :
    ∃ close, turn server state = .stops close ∧
      close.ending = endingWith (answer.mapError Frame.violates) ∧
      close.state.sink = state.sink ∧ close.state.source.signals = Signal.ofBytes rest := by
  obtain ⟨after, read, before⟩ := ready.before.answers answers
  have none_ (message : Envelope) : answer.mapError Frame.violates ≠ .ok (some message) := by
    intro same
    cases answer with
    | error violation => cases same
    | ok given =>
        cases same
        exact noMessage message rfl
  obtain ⟨refused, step⟩ := (turn_round server state).ends read none_
  exact ⟨_, step, rfl, rfl, before.script⟩

/-- Complete frames and an answer behind them that is no message: their replies are all that is
written. -/
theorem State.Ready.serve_ends {frames : List Bytes} {messages : List Envelope}
    {input rest : Bytes} {answer : Except Violation (Option Envelope)}
    (ready : State.Ready server (Signal.ofBytes (frames.flatten ++ input)) state)
    (carries : List.Forall₂ (Frame.Carries server.limits.maxFrameSize) frames messages)
    (noExit : ∀ message ∈ messages, message.method ≠ "build/exit")
    (answers : Frame.Answers server.limits.maxFrameSize input answer rest)
    (noMessage : ∀ message, answer ≠ .ok (some message)) :
    (serveFrom server state).ending = endingWith (answer.mapError Frame.violates) ∧
      (serveFrom server state).output = state.sink.taken ++
        (replies server.identity state.lifecycle messages).flatMap Frame.encode ∧
      (serveFrom server state).close.state.source.signals = Signal.ofBytes rest := by
  rw [Signal.ofBytes_append] at ready
  obtain ⟨turns, last, steps, ready, -, sink⟩ := ready.steps carries noExit
  obtain ⟨close, step, ending, kept, left⟩ := ready.turn_ends answers noMessage
  rw [steps.serveFrom, serveFrom_stops step]
  refine ⟨ending, ?_, left⟩
  change close.state.sink.taken = _
  rw [kept, sink]
  rfl

theorem State.Ready.serve_exits {frames : List Bytes} {messages : List Envelope}
    {frame rest : Bytes} {message : Envelope}
    (ready : State.Ready server (Signal.ofBytes (frames.flatten ++ (frame ++ rest))) state)
    (carries : List.Forall₂ (Frame.Carries server.limits.maxFrameSize) frames messages)
    (noExit : ∀ message ∈ messages, message.method ≠ "build/exit")
    (last : Frame.Carries server.limits.maxFrameSize frame message)
    (isExit : message.method = "build/exit") :
    ∃ clean, (serveFrom server state).ending = .exit clean := by
  rw [Signal.ofBytes_append, Signal.ofBytes_append] at ready
  obtain ⟨turns, next, steps, ready, -, -⟩ := ready.steps carries noExit
  obtain ⟨close, step, ending, -, -⟩ := ready.turn_exit last isExit
  rw [steps.serveFrom, serveFrom_stops step]
  exact ⟨_, ending⟩

/-- Without a timeout, without a fault of the input and with a sink that takes everything, a session
ends with the end of its input, with an exit, or with a violation. It ends with the end of its input
exactly when that consists of complete frames without an exit, and has then read all of it. If a
frame is cut off behind such frames, all of them are answered and the cut is a violation. -/
theorem ends_at_boundaries (server : Server) (untimed : server.limits.readTimeout = none)
    (word : server.limits.maxFrameSize < Text.wordLimit) (sink : Sink) (takesAll : sink.TakesAll) :
    (∀ (input : Bytes) (source : Source), source.signals = Signal.ofBytes input →
      let run := serve server source sink
      (run.ending = .endOfInput ∨ (∃ clean, run.ending = .exit clean) ∨
          ∃ violation, run.ending = .failed (.violation violation)) ∧
        (run.ending = .endOfInput ↔ ∃ frames messages,
          List.Forall₂ (Frame.Carries server.limits.maxFrameSize) frames messages ∧
            (∀ message ∈ messages, message.method ≠ "build/exit") ∧ input = frames.flatten) ∧
        (run.ending = .endOfInput → run.consumed source = input.length)) ∧
      ∀ (frames : List Bytes) (messages : List Envelope),
        List.Forall₂ (Frame.Carries server.limits.maxFrameSize) frames messages →
        (∀ message ∈ messages, message.method ≠ "build/exit") →
        ∀ (last : Accepted), last.body.length ≤ server.limits.maxFrameSize →
        ∀ (part missing : Bytes), part ++ missing = last.frame → part ≠ [] → missing ≠ [] →
        ∀ (source : Source), source.signals = Signal.ofBytes (frames.flatten ++ part) →
          let run := serve server source sink
          (∃ violation, run.ending = .failed (.violation violation)) ∧
            run.output = sink.taken ++
              (replies server.identity (.start server.strict) messages).flatMap Frame.encode := by
  have start {source : Source} {input : Bytes} (script : source.signals = Signal.ofBytes input) :=
    State.Ready.of_start untimed script takesAll
  have atEnd {source : Source} {frames : List Bytes} {messages : List Envelope}
      (script : source.signals = Signal.ofBytes frames.flatten)
      (carries : List.Forall₂ (Frame.Carries server.limits.maxFrameSize) frames messages)
      (noExit : ∀ message ∈ messages, message.method ≠ "build/exit") :
      (serve server source sink).ending = .endOfInput ∧
        (serve server source sink).consumed source = frames.flatten.length := by
    have ready := start script
    rw [← List.append_nil frames.flatten] at ready
    obtain ⟨ending, -, left⟩ := ready.serve_ends carries noExit .nothing (by simp)
    refine ⟨ending, ?_⟩
    have split : source.signals = Signal.ofBytes frames.flatten ++
        (serve server source sink).close.state.source.signals := by
      rw [serve, left, script]
      exact (List.append_nil _).symm
    have size := Source.size_of_signals_append split
    change source.size - (serve server source sink).close.state.source.size = _
    omega
  constructor
  · intro input source script run
    obtain ⟨frames, messages, rest, carries, noExit, behind, split⟩ :=
      Frame.divides server.limits.maxFrameSize input
    have verdict : (run.ending = .endOfInput ∧ rest = []) ∨ (∃ clean, run.ending = .exit clean) ∨
        ∃ violation, run.ending = .failed (.violation violation) := by
      rw [split] at script
      cases behind with
      | nothing => exact .inl ⟨((start script).serve_ends carries noExit .nothing (by simp)).1, rfl⟩
      | exit last isExit => exact .inr (.inl ((start script).serve_exits carries noExit last isExit))
      | @violation _ _ violation answers =>
          exact .inr (.inr ⟨violation, ((start script).serve_ends carries noExit answers (by simp)).1⟩)
    -- The three ends exclude each other, so the end of the input means that nothing was left.
    have complete (ending : run.ending = .endOfInput) : input = frames.flatten := by
      rcases verdict with ⟨-, rfl⟩ | ⟨clean, exits⟩ | ⟨violation, fails⟩
      · rw [split, List.append_nil]
      · rw [ending] at exits
        cases exits
      · rw [ending] at fails
        cases fails
    refine ⟨verdict.imp_left And.left, ⟨?_, ?_⟩, ?_⟩
    · intro ending
      exact ⟨frames, messages, carries, noExit, complete ending⟩
    · rintro ⟨others, theirs, carriesOthers, noExitOthers, rfl⟩
      exact (atEnd script carriesOthers noExitOthers).1
    · intro ending
      have whole := complete ending
      rw [whole] at script ⊢
      exact (atEnd script carries noExit).2
  · intro frames messages carries noExit last fits part missing split some_ short source script run
    obtain ⟨answer, left, answers⟩ := Frame.answers_total server.limits.maxFrameSize part
    have whole := Accepted.carries ⟨Nat.lt_of_le_of_lt fits word, fits⟩
    obtain ⟨violation, rfl⟩ := whole.cut split some_ short answers
    obtain ⟨ending, output, -⟩ := (start script).serve_ends carries noExit answers (by simp)
    exact ⟨⟨violation, ending⟩, output⟩

/-- A request, and the same request with a second one behind it that is cut off inside the digits of
its length. -/
theorem ends_at_boundaries_inside_the_digits :
    ∃ opening : Accepted, opening.text = "[\"\",7,\"build/initialize\"]".toList ∧
      let frame := opening.frame
      let whole := serve {} [.bytes frame] {}
      let cut := serve {} [.bytes frame, .bytes (frame.take 17)] {}
      whole.ending = .endOfInput ∧ whole.consumed [.bytes frame] = frame.length ∧
        (∃ violation, cut.ending = .failed (.violation violation)) ∧
        cut.output = Frame.encode (.result (.integer 7) (Handler.identity.result {})) ∧
        cut.output.length = 229 ∧
        Text.Utf8.encode "Content-Length: 206\r\n\r\n\x7b\"jsonrpc\":\"2.0\",\"id\":7,".toList <+:
          cut.output := by
  obtain ⟨opening, text, message, fits⟩ := Accepted.exists_of_decode
    "[\"\",7,\"build/initialize\"]".toList (.request (.integer 7) "build/initialize" none)
    (by decide +kernel) (by decide)
  refine ⟨opening, text, ?_⟩
  intro frame whole cut
  have word : (Limits.maxFrameSize {}) < Text.wordLimit := by decide
  have carries : List.Forall₂ (Frame.Carries (Limits.maxFrameSize {})) [frame] [opening.message] :=
    .cons (Accepted.carries fits) .nil
  have noExit : ∀ message ∈ [opening.message], message.method ≠ "build/exit" := by
    simp [message, Envelope.method]
  have some_ : frame.take 17 ≠ [] ∧ frame.drop 17 ≠ [] := by
    simp only [frame, Accepted.frame, Accepted.body, text]
    decide +kernel
  obtain ⟨ends, cuts⟩ := ends_at_boundaries {} rfl word {} ⟨rfl, by decide, rfl⟩
  obtain ⟨-, boundary, consumed⟩ := ends frame [.bytes frame] (List.append_nil _)
  have ending := boundary.mpr ⟨[frame], [opening.message], carries, noExit, by simp⟩
  have script : Source.signals [.bytes frame, .bytes (frame.take 17)] =
      Signal.ofBytes ([frame].flatten ++ frame.take 17) := by
    simp [Source.signals, Signal.ofBytes]
  obtain ⟨fails, output⟩ := cuts [frame] [opening.message] carries noExit opening fits.limit _ _
    (List.take_append_drop 17 frame) some_.1 some_.2 _ script
  have replied : replies {} (.start false) [opening.message] =
      [.result (.integer 7) (Handler.identity.result {})] := by
    rw [message]
    rfl
  have encoded : cut.output = Frame.encode (.result (.integer 7) (Handler.identity.result {})) := by
    refine output.trans ?_
    change [] ++ (replies {} (.start false) [opening.message]).flatMap Frame.encode = _
    rw [replied, List.nil_append, List.flatMap_singleton]
  refine ⟨ending, consumed ending, fails, encoded, ?_, ?_⟩
  · rw [encoded]
    decide +kernel
  · rw [encoded]
    decide +kernel

end Session
end BuildPeer
