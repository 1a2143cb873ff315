import BuildPeer.Proofs.Round
import BuildPeer.Proofs.Run
import Mathlib.Data.List.TakeWhile

/-!
The replies of a session, accounted for. In front of complete frames a session makes one round for
each frame until the exit; what it writes are the replies of a dispatcher that is given the same
messages, and each of these replies is owed to its message. The invariant of the rounds is `Ready`:
the session is not over, its sink takes everything, and what is left to read is known.
-/

namespace BuildPeer

def replies (identity : Identity) (lifecycle : Lifecycle) (messages : List Envelope) :
    List Response :=
  (exchanges identity lifecycle messages).filterMap Exchange.reply?

theorem replies_cons (identity : Identity) (lifecycle : Lifecycle) (message : Envelope)
    (rest : List Envelope) :
    replies identity lifecycle (message :: rest) =
      (dispatch identity lifecycle message).1.reply?.toList ++
        replies identity (dispatch identity lifecycle message).2 rest := by
  simp only [replies, exchanges, List.filterMap_cons, Exchange.reply?]
  cases (dispatch identity lifecycle message).1.reply? <;> rfl

theorem exchanges_owed (identity : Identity) {lifecycle : Lifecycle} {messages : List Envelope}
    (running : lifecycle.phase ≠ .exited)
    (noExit : ∀ message ∈ messages, message.method ≠ "build/exit") :
    ∀ exchange ∈ exchanges identity lifecycle messages,
      exchange.reply?.map (·.id) = exchange.owed := by
  induction messages generalizing lifecycle with
  | nil =>
      intro exchange member
      cases member
  | cons message rest ih =>
      have first : message.method ≠ "build/exit" := noExit message List.mem_cons_self
      have more : ∀ message ∈ rest, message.method ≠ "build/exit" :=
        fun message member => noExit message (List.mem_cons_of_mem _ member)
      obtain ⟨answered, -, goesOn⟩ := dispatch_owed identity running first
      intro exchange member
      rcases List.mem_cons.mp member with rfl | later
      · exact answered
      · exact ih goesOn more exchange later

namespace Session

/-- A running session without a timeout in front of the given signals, with a sink that takes
everything. -/
structure State.Ready (server : Server) (input : List Signal) (state : State) : Prop where
  before : Frame.Reader.Before server.limits input state.reader
  running : state.lifecycle.phase ≠ .exited
  takesAll : state.sink.TakesAll

theorem State.Ready.of_start {server : Server} (untimed : server.limits.readTimeout = none)
    {source : Source} {input : List Signal} (script : source.signals = input) {sink : Sink}
    (takesAll : sink.TakesAll) : State.Ready server input (start server source sink) :=
  ⟨⟨rfl, untimed, script⟩, by simp [start, Lifecycle.start], takesAll⟩

variable {server : Server} {state : State} {rest : List Signal}

theorem Round.goesOn_written {t : Turn} {next : State}
    (round : Round server state (.goesOn t next)) (takesAll : state.sink.TakesAll) :
    state.reader.readMessage = (.ok (some t.message), next.reader) ∧
      next.lifecycle = (dispatch server.identity state.lifecycle t.message).2 ∧
      next.sink = state.sink.take
        ((dispatch server.identity state.lifecycle t.message).1.reply?.toList.flatMap
          Frame.encode) := by
  cases round with
  | silent read met =>
      rw [met]
      exact ⟨read, rfl, by simp [Outcome.reply?, Sink.take]⟩
  | answered read met sent =>
      rw [Frame.write_takesAll takesAll, Prod.mk.injEq] at sent
      rw [met]
      exact ⟨read, rfl, by simp [Outcome.reply?, sent.2]⟩

theorem State.Ready.turn_goesOn {frame : Bytes} {message : Envelope}
    (ready : State.Ready server (Signal.ofBytes frame ++ rest) state)
    (carries : Frame.Carries server.limits.maxFrameSize frame message)
    (noExit : message.method ≠ "build/exit") :
    ∃ t next, turn server state = .goesOn t next ∧ State.Ready server rest next ∧
      next.lifecycle = (dispatch server.identity state.lifecycle message).2 ∧
      next.sink = state.sink.take
        ((dispatch server.identity state.lifecycle message).1.reply?.toList.flatMap
          Frame.encode) := by
  obtain ⟨reader, size, answers, before⟩ := turn_carries carries ready.before
  obtain ⟨-, isNoExit, goesOn⟩ := dispatch_owed server.identity ready.running noExit
  rw [answers, answer]
  generalize dispatch server.identity state.lifecycle message = dispatched at isNoExit goesOn
  obtain ⟨outcome, after⟩ := dispatched
  cases outcome with
  | noReply =>
      exact ⟨_, _, rfl, ⟨before, goesOn, ready.takesAll⟩, rfl, by simp [Outcome.reply?, Sink.take]⟩
  | exit => exact absurd rfl isNoExit
  | reply response =>
      simp only [Frame.write_takesAll ready.takesAll]
      exact ⟨_, _, rfl, ⟨before, goesOn, ready.takesAll.take _⟩, rfl, by simp [Outcome.reply?]⟩

theorem State.Ready.turn_exit {frame : Bytes} {message : Envelope}
    (ready : State.Ready server (Signal.ofBytes frame ++ rest) state)
    (carries : Frame.Carries server.limits.maxFrameSize frame message)
    (isExit : message.method = "build/exit") :
    ∃ close, turn server state = .stops close ∧
      close.ending = .exit (state.lifecycle.phase = .shuttingDown) ∧
      close.state.sink = state.sink ∧ close.state.source.signals = rest := by
  obtain ⟨reader, size, answers, before⟩ := turn_carries carries ready.before
  rw [answers, answer, dispatch_exit server.identity _ isExit]
  exact ⟨_, rfl, rfl, rfl, before.script⟩

theorem State.Ready.steps {frames : List Bytes} {messages : List Envelope}
    (carries : List.Forall₂ (Frame.Carries server.limits.maxFrameSize) frames messages)
    (ready : State.Ready server (Signal.ofBytes frames.flatten ++ rest) state)
    (noExit : ∀ message ∈ messages, message.method ≠ "build/exit") :
    ∃ turns last, Steps server state turns last ∧ State.Ready server rest last ∧
      last.lifecycle = lifecycleAfter server.identity state.lifecycle messages ∧
      last.sink = state.sink.take
        ((replies server.identity state.lifecycle messages).flatMap Frame.encode) := by
  induction carries generalizing state with
  | nil => exact ⟨[], state, .here state, ready, rfl, by simp [replies, exchanges, Sink.take]⟩
  | @cons frame message frames messages first more ih =>
      have split : Signal.ofBytes (frame :: frames).flatten ++ rest =
          Signal.ofBytes frame ++ (Signal.ofBytes frames.flatten ++ rest) := by
        simp only [List.flatten_cons, Signal.ofBytes_append, List.append_assoc]
      rw [split] at ready
      obtain ⟨t, next, step, ready, lifecycle, sink⟩ := ready.turn_goesOn first
        (noExit message List.mem_cons_self)
      obtain ⟨turns, last, steps, ready, lifecycleLast, sinkLast⟩ := ih ready
        fun message member => noExit message (List.mem_cons_of_mem _ member)
      refine ⟨t :: turns, last, .turn step steps, ready, ?_, ?_⟩
      · rw [lifecycleLast, lifecycle]
        rfl
      · rw [sinkLast, sink, lifecycle, replies_cons]
        simp [Sink.take]

/-- Without an exit the replies are in front of whatever else is written. -/
theorem State.Ready.serve_on {bodies : List Accepted}
    (ready : State.Ready server (Signal.ofBytes (bodies.flatMap Accepted.frame) ++ rest) state)
    (fits : ∀ accepted ∈ bodies, accepted.Fits server.limits)
    (noExit : ∀ accepted ∈ bodies, accepted.message.method ≠ "build/exit") :
    state.sink.taken ++
        (replies server.identity state.lifecycle (bodies.map Accepted.message)).flatMap
          Frame.encode <+: (serveFrom server state).output := by
  rw [List.flatMap_def] at ready
  obtain ⟨turns, last, steps, -, -, sink⟩ :=
    ready.steps (Accepted.carries_all fits) (List.forall_mem_map.mpr noExit)
  have kept := serveFrom_keeps server last
  rw [sink] at kept
  rw [steps.serveFrom]
  exact kept

/-- With an exit they are all that is written, and what is behind the exit is left. -/
theorem State.Ready.serve_exit {answered : List Accepted} {exit : Accepted}
    (ready : State.Ready server
      (Signal.ofBytes ((answered ++ [exit]).flatMap Accepted.frame) ++ rest) state)
    (fits : ∀ accepted ∈ answered ++ [exit], accepted.Fits server.limits)
    (noExit : ∀ accepted ∈ answered, accepted.message.method ≠ "build/exit")
    (isExit : exit.message.method = "build/exit") :
    (serveFrom server state).output = state.sink.taken ++
        (replies server.identity state.lifecycle (answered.map Accepted.message)).flatMap
          Frame.encode ∧
      (serveFrom server state).ending = .exit ((lifecycleAfter server.identity state.lifecycle
        (answered.map Accepted.message)).phase = .shuttingDown) ∧
      (serveFrom server state).close.state.source.signals = rest := by
  have split : Signal.ofBytes ((answered ++ [exit]).flatMap Accepted.frame) ++ rest =
      Signal.ofBytes (answered.map Accepted.frame).flatten ++
        (Signal.ofBytes exit.frame ++ rest) := by
    rw [List.flatMap_append, List.flatMap_singleton, ← List.flatMap_def, Signal.ofBytes_append,
      List.append_assoc]
  rw [split] at ready
  obtain ⟨turns, last, steps, ready, lifecycle, written⟩ := ready.steps
    (Accepted.carries_all fun accepted member => fits accepted (List.mem_append_left _ member))
    (List.forall_mem_map.mpr noExit)
  obtain ⟨close, step, ending, kept, left⟩ :=
    ready.turn_exit (Accepted.carries (fits exit (by simp))) isExit
  rw [steps.serveFrom, serveFrom_stops step]
  refine ⟨?_, ?_, left⟩
  · rw [Run.output, kept, written]
    rfl
  · rw [Run.ending, ending, lifecycle]

/-- For a server without a timeout, accepted bodies within its limit, and a sink that takes
everything: the messages before the exit get the replies they are owed, in their order and nothing
between them. If there is an exit, the session is over with it and has read no byte behind it.
If there is none, these replies are the front of the output, whatever else comes. -/
theorem replies_exact (server : Server) (untimed : server.limits.readTimeout = none)
    (word : server.limits.maxFrameSize < Text.wordLimit) (bodies : List Accepted)
    (fit : ∀ accepted ∈ bodies, accepted.body.length ≤ server.limits.maxFrameSize)
    (source : Source) (tail : List Signal)
    (script : source.signals = Signal.ofBytes (bodies.flatMap Accepted.frame) ++ tail)
    (sink : Sink) (takesAll : sink.TakesAll) :
    let run := serve server source sink
    let answered := (bodies.takeWhile (!·.isExit)).map Accepted.message
    let output := sink.taken ++
      (replies server.identity (.start server.strict) answered).flatMap Frame.encode
    (∀ exchange ∈ exchanges server.identity (.start server.strict) answered,
      exchange.reply?.map (·.id) = exchange.owed) ∧
    match bodies.dropWhile (!·.isExit) with
    | [] => output <+: run.output
    | exit :: _ =>
        run.output = output ∧
        run.ending = .exit ((lifecycleAfter server.identity (.start server.strict)
          answered).phase = .shuttingDown) ∧
        run.consumed source =
          ((bodies.takeWhile (!·.isExit) ++ [exit]).flatMap Accepted.frame).length := by
  intro run answered output
  have fits : ∀ accepted ∈ bodies, accepted.Fits server.limits :=
    fun accepted member => ⟨Nat.lt_of_le_of_lt (fit accepted member) word, fit accepted member⟩
  have noExit : ∀ accepted ∈ bodies.takeWhile (!·.isExit),
      accepted.message.method ≠ "build/exit" := by
    intro accepted member
    simpa [Accepted.isExit] using List.mem_takeWhile_imp member
  have running : (Lifecycle.start server.strict).phase ≠ .exited := by simp [Lifecycle.start]
  have parts := List.takeWhile_append_dropWhile (p := (!Accepted.isExit ·)) (l := bodies)
  constructor
  · apply exchanges_owed server.identity running
    intro message member
    obtain ⟨accepted, isBefore, rfl⟩ := List.mem_map.mp member
    exact noExit accepted isBefore
  have start {input : List Signal} (same : source.signals = input) :
      State.Ready server input (start server source sink) :=
    ⟨⟨rfl, untimed, same⟩, running, takesAll⟩
  cases behind : bodies.dropWhile (!·.isExit) with
  | nil =>
      rw [behind, List.append_nil] at parts
      rw [← parts] at script
      exact (start script).serve_on
        (fun accepted member => fits accepted (List.takeWhile_subset _ member)) noExit
  | cons exit later =>
      have isExit : exit.message.method = "build/exit" := by
        have first := List.head?_dropWhile_not (!Accepted.isExit ·) bodies
        rw [behind] at first
        simpa [Accepted.isExit] using first
      have whole : bodies = (bodies.takeWhile (!·.isExit) ++ [exit]) ++ later := by
        rw [List.append_assoc, List.singleton_append, ← behind, parts]
      have split : source.signals =
          Signal.ofBytes ((bodies.takeWhile (!·.isExit) ++ [exit]).flatMap Accepted.frame) ++
            (Signal.ofBytes (later.flatMap Accepted.frame) ++ tail) := by
        rw [script, ← List.append_assoc, ← Signal.ofBytes_append, ← List.flatMap_append, ← whole]
      have fitting : ∀ accepted ∈ bodies.takeWhile (!·.isExit) ++ [exit],
          accepted.Fits server.limits := by
        intro accepted member
        apply fits
        rw [whole]
        exact List.mem_append_left _ member
      obtain ⟨written, ending, left⟩ := (start split).serve_exit fitting noExit isExit
      rw [← left] at split
      have size := Source.size_of_signals_append split
      refine ⟨written, ending, ?_⟩
      change source.size - (serve server source sink).close.state.source.size = _
      rw [serve]
      omega

/-- A request and an exit, with a byte behind them that starts no frame, cut inside the first
header. -/
theorem replies_exact_up_to_exit :
    let server : Server := { strict := true }
    ∃ bodies : List Accepted,
      bodies.map Accepted.message =
        [.request (.integer 7) "build/initialize" none, .notification "build/exit" none] ∧
      let input := bodies.flatMap Accepted.frame
      let source : Source := [.bytes (input.take 9), .pause 3, .bytes (input.drop 9), .bytes [255]]
      let run := serve server source {}
      let written := "Content-Length: 206\r\n\r\n" ++
        "\x7b\"jsonrpc\":\"2.0\",\"id\":7,\"result\":\x7b\"bspVersion\":\"2.0\"," ++
        "\"capabilities\":\x7b\"languageIds\":[\"a\",\"b\"]\x7d," ++
        "\"data\":\x7b\"indexStorePath\":\"some/index/store/path\"\x7d," ++
        "\"displayName\":\"test server\",\"rootUri\":\"blah\",\"version\":\"0.1\"\x7d\x7d"
      run.output = Frame.encode (.result (.integer 7) (Handler.identity.result {})) ∧
        run.ending = .exit false ∧ run.consumed source = input.length ∧
        run.output = Text.Utf8.encode written.toList := by
  intro server
  obtain ⟨first, -, firstIs, firstFits⟩ := Accepted.exists_of_decode
    "[\"\",7,\"build/initialize\"]".toList (.request (.integer 7) "build/initialize" none)
    (by decide +kernel) (by decide)
  obtain ⟨exit, -, exitIs, exitFits⟩ := Accepted.exists_of_decode
    "\x7b\"jsonrpc\":\"\",\"method\":\"build/exit\"\x7d".toList (.notification "build/exit" none)
    (by decide +kernel) (by decide)
  refine ⟨[first, exit], by simp [firstIs, exitIs], ?_⟩
  intro input source run written
  have firstGoesOn : first.isExit = false := by
    rw [Accepted.isExit, firstIs]
    rfl
  have exitExits : exit.isExit = true := by
    rw [Accepted.isExit, exitIs]
    rfl
  have fit : ∀ accepted ∈ [first, exit], accepted.body.length ≤ server.limits.maxFrameSize := by
    intro accepted member
    rcases List.mem_pair.mp member with rfl | rfl
    · exact firstFits.limit
    · exact exitFits.limit
  have script : source.signals =
      Signal.ofBytes ([first, exit].flatMap Accepted.frame) ++ Signal.ofBytes [255] := by
    change Signal.ofBytes _ ++ (Signal.ofBytes _ ++ (Signal.ofBytes _ ++ [])) = _
    rw [← List.append_assoc, ← Signal.ofBytes_append, List.take_append_drop, List.append_nil]
  have exact_ :=
    (replies_exact server rfl (by decide) [first, exit] fit source _ script {} ⟨rfl, by decide, rfl⟩).2
  have replied : replies server.identity (.start server.strict) [first.message] =
      [.result (.integer 7) (Handler.identity.result {})] := by
    rw [firstIs]
    rfl
  have phase : (lifecycleAfter server.identity (.start server.strict) [first.message]).phase =
      .initialized := by
    rw [firstIs]
    rfl
  simp only [List.takeWhile_cons, List.dropWhile_cons, firstGoesOn, exitExits, Bool.not_false,
    Bool.not_true, Bool.false_eq_true, ↓reduceIte, List.map_cons, List.map_nil, replied, phase]
    at exact_
  obtain ⟨output, ending, consumed⟩ := exact_
  have encoded : run.output = Frame.encode (.result (.integer 7) (Handler.identity.result {})) := by
    simpa using output
  have bytes : Frame.encode (.result (.integer 7) (Handler.identity.result {})) =
      Text.Utf8.encode written.toList := by
    simp only [written, String.toList_append]
    decide +kernel
  exact ⟨encoded, ending, consumed, encoded.trans bytes⟩

end Session
end BuildPeer
