import BuildPeer.Proofs.Signals
import BuildPeer.Session
import Mathlib.Data.List.Forall2

/-!
Two scripts that deliver the same signals, in other chunks and after other pauses, cannot be told
apart by a peer without a read timeout. The two runs take different numbers of events for one line
or one body, so they are held together by a relation: two readers are alike when what is left for
them is the same sequence of signals, whatever their buffers hold. Every read keeps two readers
alike and gives both the same answer, and every turn does so for two sessions.
-/

namespace BuildPeer

namespace Frame.Reader

/-- Two readers with the same limits and no timeout, to which the same will be delivered. -/
structure Alike (first second : Reader) : Prop where
  limits : first.limits = second.limits
  untimed : first.limits.readTimeout = none
  signals : first.source.signals = second.source.signals

variable {first second : Reader}

theorem Alike.pull (alike : Alike first second) (isLast : UInt8 → Bool) (room : Nat) :
    ∃ taken stop leftFirst leftSecond,
      first.source.pull isLast room (budget first.limits) = ⟨taken, stop, leftFirst⟩ ∧
      second.source.pull isLast room (budget second.limits) = ⟨taken, stop, leftSecond⟩ ∧
      leftFirst.signals = leftSecond.signals := by
  have noneFirst : budget first.limits = none := by simp [budget, alike.untimed]
  have noneSecond : budget second.limits = none := by rw [← alike.limits]; exact noneFirst
  have here := Source.pull_signals isLast room first.source
  have there := Source.pull_signals isLast room second.source
  rw [← alike.signals, here] at there
  simp only [Prod.mk.injEq] at there
  rw [noneFirst, noneSecond]
  exact ⟨_, _, _, _, rfl, by rw [there.1, there.2.1], there.2.2⟩

theorem Alike.readLine (alike : Alike first second) :
    ∃ answer here there, first.readLine = (answer, here) ∧ second.readLine = (answer, there) ∧
      here.line = there.line ∧ Alike here there := by
  obtain ⟨taken, stop, leftFirst, leftSecond, here, there, left⟩ :=
    alike.pull isLineBreak maxLineLength
  have answer : second.readLine.1 = first.readLine.1 := by
    simp only [Reader.readLine, here, there, List.nil_append]
    cases stop with
    | filled => simp only [pulled]; split <;> rfl
    | ended => simp only [pulled]; split <;> rfl
    | failed error => rfl
    | timedOut => simp only [pulled, alike.limits]
    | waits => rfl
  refine ⟨_, first.readLine.2, second.readLine.2, rfl, Prod.ext answer rfl, ?_, ?_⟩
  · rw [readLine_after, readLine_after, here, there]
  · rw [readLine_after, readLine_after, here, there]
    exact ⟨alike.limits, alike.untimed, left⟩

theorem Alike.readBody (alike : Alike first second) (length : Nat) :
    ∃ answer here there, first.readBody length = (answer, here) ∧
      second.readBody length = (answer, there) ∧ here.body = there.body ∧ Alike here there := by
  obtain ⟨taken, stop, leftFirst, leftSecond, here, there, left⟩ :=
    alike.pull (fun _ => false) length
  have answer : (second.readBody length).1 = (first.readBody length).1 := by
    simp only [Reader.readBody, here, there]
    cases stop with
    | filled => rfl
    | ended => rfl
    | failed error => simp only [pulled]; split <;> rfl
    | timedOut => simp only [pulled, alike.limits]
    | waits => rfl
  refine ⟨_, (first.readBody length).2, (second.readBody length).2, rfl, Prod.ext answer rfl, ?_, ?_⟩
  · rw [readBody_after, readBody_after, here, there]
  · rw [readBody_after, readBody_after, here, there]
    exact ⟨alike.limits, alike.untimed, left⟩

theorem Alike.readRest (alike : Alike first second) (length : Nat) :
    ∃ answer here there, first.readRest length = (answer, here) ∧
      second.readRest length = (answer, there) ∧ Alike here there := by
  obtain ⟨line, here, there, lineHere, lineThere, -, after⟩ := alike.readLine
  simp only [Reader.readRest, lineHere, lineThere]
  match line with
  | .error halt => exact ⟨_, _, _, rfl, rfl, after⟩
  | .ok 0 => exact ⟨_, _, _, rfl, rfl, after⟩
  | .ok (_ + 1) =>
      obtain ⟨body, here, there, bodyHere, bodyThere, sameBody, after⟩ := after.readBody length
      simp only [bodyHere, bodyThere]
      cases body with
      | error halt => exact ⟨_, _, _, rfl, rfl, after⟩
      | ok done => exact ⟨_, _, _, rfl, by rw [sameBody], after⟩

theorem Alike.read (alike : Alike first second) :
    ∃ answer here there, first.read = (answer, here) ∧ second.read = (answer, there) ∧
      Alike here there := by
  obtain ⟨line, here, there, lineHere, lineThere, sameLine, after⟩ := alike.readLine
  simp only [Reader.read, lineHere, lineThere]
  match line with
  | .error halt => exact ⟨_, _, _, rfl, rfl, after⟩
  | .ok 0 => exact ⟨_, _, _, rfl, rfl, after⟩
  | .ok (_ + 1) =>
      simp only [← after.limits, ← sameLine]
      cases readHeader here.limits here.line with
      | error violation => exact ⟨_, _, _, rfl, rfl, after⟩
      | ok expected => exact after.readRest expected

theorem Alike.readMessage (alike : Alike first second) :
    ∃ answer here there, first.readMessage = (answer, here) ∧
      second.readMessage = (answer, there) ∧ Alike here there := by
  obtain ⟨body, here, there, bodyHere, bodyThere, after⟩ := alike.read
  simp only [Reader.readMessage, bodyHere, bodyThere]
  match body with
  | .error halt => exact ⟨_, _, _, rfl, rfl, after⟩
  | .ok none => exact ⟨_, _, _, rfl, rfl, after⟩
  | .ok (some body) =>
      dsimp only
      cases decode body with
      | error violation => exact ⟨_, _, _, rfl, rfl, after⟩
      | ok message => exact ⟨_, _, _, rfl, rfl, after⟩

/-- What the buffers still hold from earlier frames does not show. -/
theorem readMessage_fresh (reader : Reader) (untimed : reader.limits.readTimeout = none) :
    reader.readMessage.1 = (Frame.readMessage reader.limits reader.source).1 := by
  have alike : Alike reader (.start reader.limits reader.source) := ⟨rfl, untimed, rfl⟩
  obtain ⟨answer, here, there, answerHere, answerThere, -⟩ := alike.readMessage
  rw [Frame.readMessage, answerHere, answerThere]

theorem Alike.answers (alike : Alike first second) (calls : Nat) :
    List.Forall₂ (fun here there => here.1 = there.1 ∧ Alike here.2 there.2)
      (first.answers calls) (second.answers calls) := by
  induction calls generalizing first second with
  | zero => exact .nil
  | succ calls ih =>
      obtain ⟨answer, here, there, answerHere, answerThere, after⟩ := alike.readMessage
      rw [Reader.answers, Reader.answers, answerHere, answerThere]
      exact .cons ⟨rfl, after⟩ (ih after)

theorem Alike.account (alike : Alike first second) (calls : Nat) :
    first.account calls = second.account calls := by
  have sizes := Source.size_eq_of_signals alike.signals
  have answers := alike.answers calls
  unfold Reader.account
  generalize first.answers calls = here at answers ⊢
  generalize second.answers calls = there at answers ⊢
  induction answers with
  | nil => rfl
  | cons head tail ih =>
      rw [List.map_cons, List.map_cons, ih, head.1, sizes,
        Source.size_eq_of_signals head.2.signals]

end Frame.Reader

namespace Session

structure State.Alike (first second : State) : Prop where
  lifecycle : first.lifecycle = second.lifecycle
  sink : first.sink = second.sink
  reader : Frame.Reader.Alike first.reader second.reader

structure Close.Alike (first second : Close) : Prop where
  turn : first.turn = second.turn
  refused : first.refused = second.refused
  ending : first.ending = second.ending
  state : State.Alike first.state second.state

inductive Progress.Alike : Progress → Progress → Prop where
  | goesOn (t : Turn) {first second : State} (alike : State.Alike first second) :
      Alike (.goesOn t first) (.goesOn t second)
  | stops {first second : Close} (alike : Close.Alike first second) :
      Alike (.stops first) (.stops second)

variable {first second : State}

theorem State.Alike.answer (alike : State.Alike first second) (server : Server) (size : Nat)
    (message : Envelope) :
    Progress.Alike (answer server first size message) (answer server second size message) := by
  unfold Session.answer
  rw [← alike.lifecycle, ← alike.sink]
  generalize dispatch server.identity first.lifecycle message = dispatched
  obtain ⟨outcome, after⟩ := dispatched
  cases outcome with
  | noReply => exact .goesOn _ ⟨rfl, rfl, alike.reader⟩
  | exit => exact .stops ⟨rfl, rfl, rfl, rfl, rfl, alike.reader⟩
  | reply response =>
      dsimp only
      generalize Frame.write first.sink response = written
      obtain ⟨sent, sink⟩ := written
      match sent with
      | .ok (.written _) => exact .goesOn _ ⟨rfl, rfl, alike.reader⟩
      | .ok .peerClosed => exact .stops ⟨rfl, rfl, rfl, rfl, rfl, alike.reader⟩
      | .error error => exact .stops ⟨rfl, rfl, rfl, rfl, rfl, alike.reader⟩

theorem State.Alike.turn (alike : State.Alike first second) (server : Server) :
    Progress.Alike (turn server first) (turn server second) := by
  obtain ⟨answer, here, there, readHere, readThere, after⟩ := alike.reader.read
  simp only [Session.turn, readHere, readThere]
  match answer with
  | .error halt => exact .stops ⟨rfl, rfl, rfl, alike.lifecycle, alike.sink, after⟩
  | .ok none => exact .stops ⟨rfl, rfl, rfl, alike.lifecycle, alike.sink, after⟩
  | .ok (some body) =>
      dsimp only
      cases Frame.decode body with
      | error violation => exact .stops ⟨rfl, rfl, rfl, alike.lifecycle, alike.sink, after⟩
      | ok message =>
          have next : State.Alike { first with reader := here } { second with reader := there } :=
            ⟨alike.lifecycle, alike.sink, after⟩
          exact next.answer server body.length message

theorem State.Alike.serveFrom (alike : State.Alike first second) (server : Server) :
    (serveFrom server first).turns = (serveFrom server second).turns ∧
      Close.Alike (serveFrom server first).close (serveFrom server second).close := by
  induction first using Session.serveFrom.induct server generalizing second with
  | case1 first close step =>
      have here := alike.turn server
      rw [step] at here
      generalize stepSecond : Session.turn server second = there at here
      cases here with
      | stops closes =>
          rw [serveFrom_stops step, serveFrom_stops stepSecond]
          exact ⟨rfl, closes⟩
  | case2 first t next step ih =>
      have here := alike.turn server
      rw [step] at here
      generalize stepSecond : Session.turn server second = there at here
      cases here with
      | goesOn _ nextAlike =>
          obtain ⟨turns, closes⟩ := ih nextAlike
          rw [serveFrom_goesOn step, serveFrom_goesOn stepSecond]
          exact ⟨by rw [turns], closes⟩

/-- Without a timeout neither a reader, asked as often as one likes, nor a session shows how its
input was cut and delayed. Equal signals are the same bytes with the same faults at the same
places among them. -/
theorem delivery_does_not_show (server : Server) (untimed : server.limits.readTimeout = none)
    (first second : Source) (same : first.signals = second.signals) (sink : Sink) :
    (∀ calls, (Frame.Reader.start server.limits first).account calls =
        (Frame.Reader.start server.limits second).account calls) ∧
      (serve server first sink).output = (serve server second sink).output ∧
      (serve server first sink).ending = (serve server second sink).ending ∧
      (serve server first sink).consumed first = (serve server second sink).consumed second := by
  have readers : Frame.Reader.Alike (.start server.limits first) (.start server.limits second) :=
    ⟨rfl, untimed, same⟩
  have sessions : State.Alike (start server first sink) (start server second sink) :=
    ⟨rfl, rfl, readers⟩
  have close := (sessions.serveFrom server).2
  have sizes := Source.size_eq_of_signals same
  have left := Source.size_eq_of_signals close.state.reader.signals
  refine ⟨readers.account, ?_, close.ending, ?_⟩
  · exact congrArg Sink.taken close.state.sink
  · simp only [Run.consumed, State.source, serve, sizes, left]

/-- A header cut inside its tag and between its line break, with a fault behind it. -/
theorem delivery_does_not_show_cuts :
    let fault : Arrival := .fault ⟨.connectionReset, "gone"⟩
    let first : Source := [.bytes [67, 111], .pause 7, .bytes [110, 13], .bytes [10], fault]
    let second : Source := [.bytes [67], .bytes [], .bytes [111, 110, 13, 10], .pause 90, fault]
    first.signals = second.signals ∧
      (serve {} first {}).ending = (serve {} second {}).ending := by
  intro fault first second
  have same : first.signals = second.signals := rfl
  exact ⟨same, (delivery_does_not_show {} rfl first second same {}).2.2.1⟩

end Session
end BuildPeer
