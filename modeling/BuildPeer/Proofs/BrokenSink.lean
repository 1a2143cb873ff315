import BuildPeer.Proofs.Accounting
import BuildPeer.Proofs.Json.Sequence

/-!
A sink that fails once it has taken so many bytes, beside one that takes everything. Up to the failure
both have taken the same, in however many calls; the reply that does not fit is cut at the limit, and
the session ends there, with the message of that reply as the last one it has read. The relation
between the two sessions is `State.Beside`: the same lifecycle, the same reader, the same bytes taken.
-/

namespace BuildPeer

namespace Sink

/-- A sink that takes bytes and flushes until it has taken `limit` bytes in all. -/
structure Fails (limit : Nat) (sink : Sink) : Prop where
  limited : sink.limit = some limit
  moves : sink.perCall ≠ some 0
  flushes : sink.flushFault = none
  within : sink.taken.length ≤ limit

variable {limit : Nat} {sink : Sink}

theorem Fails.take (fails : sink.Fails limit) {bytes : Bytes}
    (fits : sink.taken.length + bytes.length ≤ limit) : (sink.take bytes).Fails limit where
  limited := fails.limited
  moves := fails.moves
  flushes := fails.flushes
  within := by
    rw [Sink.take, List.length_append]
    exact fits

theorem Fails.room (fails : sink.Fails limit) (offered : Nat) :
    sink.room offered = min offered (limit - sink.taken.length) := by
  rw [Sink.room, fails.limited]

end Sink

namespace Frame

variable {limit : Nat} {sink : Sink} {response : Response}

theorem write_fits (fails : sink.Fails limit)
    (fits : sink.taken.length + (encode response).length ≤ limit) :
    write sink response = (.ok (.written (encode response).length), sink.take (encode response)) := by
  have whole : sink.room (encode response).length = (encode response).length := by
    rw [fails.room]
    omega
  have flushed : (sink.take (encode response)).flush = (.ok (), sink.take (encode response)) := by
    simp [Sink.flush, (fails.take fits).flushes]
  rw [write_whole fails.moves whole, flushed]
  rfl

theorem write_cut (fails : sink.Fails limit)
    (beyond : limit < sink.taken.length + (encode response).length) :
    write sink response =
      (report sink.cause, sink.take ((encode response).take (limit - sink.taken.length))) := by
  have within := fails.within
  have room : sink.room (encode response).length = limit - sink.taken.length := by
    rw [fails.room]
    omega
  rw [write_short fails.moves (by omega), room]

end Frame

namespace Session

def brokenEnding (error : IoError) : Ending :=
  if error.isPeerClosed then .peerClosed else .failed (.io error)

/-- Two sessions at the same point, the first with a sink that takes everything, the second with one
that will fail so. -/
structure State.Beside (limit : Nat) (error : IoError) (whole failing : State) : Prop where
  lifecycle : failing.lifecycle = whole.lifecycle
  reader : failing.reader = whole.reader
  taken : failing.sink.taken = whole.sink.taken
  takesAll : whole.sink.TakesAll
  fails : failing.sink.Fails limit
  cause : failing.sink.cause = error

/-- What a round comes to in two sessions beside each other: both go on, both stop for the same
reason, or the reply of the first is cut in the second. -/
inductive Progress.Beside (limit : Nat) (error : IoError) : Progress → Progress → Prop where
  | goesOn (t : Turn) {whole failing : State} (beside : State.Beside limit error whole failing) :
      Beside limit error (.goesOn t whole) (.goesOn t failing)
  | stops {whole failing : Close} (ending : failing.ending = whole.ending)
      (reader : failing.state.reader = whole.state.reader)
      (taken : failing.state.sink.taken = whole.state.sink.taken)
      (within : whole.state.sink.taken.length ≤ limit) :
      Beside limit error (.stops whole) (.stops failing)
  | cut (t : Turn) {next : State} {close : Close} (ending : close.ending = brokenEnding error)
      (reader : close.state.reader = next.reader)
      (taken : close.state.sink.taken = next.sink.taken.take limit)
      (beyond : limit < next.sink.taken.length) :
      Beside limit error (.goesOn t next) (.stops close)

variable {limit : Nat} {error : IoError} {whole failing : State}

theorem State.Beside.within (beside : State.Beside limit error whole failing) :
    whole.sink.taken.length ≤ limit := by
  rw [← beside.taken]
  exact beside.fails.within

theorem State.Beside.answer (beside : State.Beside limit error whole failing) (server : Server)
    (size : Nat) (message : Envelope) :
    Progress.Beside limit error (answer server whole size message)
      (answer server failing size message) := by
  have within := beside.within
  unfold Session.answer
  rw [beside.lifecycle]
  generalize dispatch server.identity whole.lifecycle message = dispatched
  obtain ⟨outcome, after⟩ := dispatched
  cases outcome with
  | noReply =>
      exact .goesOn _
        ⟨rfl, beside.reader, beside.taken, beside.takesAll, beside.fails, beside.cause⟩
  | exit => exact .stops rfl beside.reader beside.taken within
  | reply response =>
      simp only [Frame.write_takesAll beside.takesAll]
      by_cases fits : failing.sink.taken.length + (Frame.encode response).length ≤ limit
      · simp only [Frame.write_fits beside.fails fits]
        refine .goesOn _ ⟨rfl, beside.reader, ?_, beside.takesAll.take _, beside.fails.take fits,
          beside.cause⟩
        simp only [Sink.take, beside.taken]
      · have beyond : limit < failing.sink.taken.length + (Frame.encode response).length := by omega
        have taken : (failing.sink.take ((Frame.encode response).take
            (limit - failing.sink.taken.length))).taken =
              (whole.sink.take (Frame.encode response)).taken.take limit := by
          simp only [Sink.take, beside.taken, List.take_append, List.take_of_length_le within]
        have longer : limit < (whole.sink.take (Frame.encode response)).taken.length := by
          rw [Sink.take, List.length_append, ← beside.taken]
          exact beyond
        simp only [Frame.write_cut beside.fails beyond, beside.cause, Frame.report]
        by_cases closed : error.isPeerClosed = true
        · simp only [if_pos closed]
          exact .cut _ (by simp [brokenEnding, closed]) beside.reader taken longer
        · simp only [if_neg closed]
          exact .cut _ (by simp [brokenEnding, closed]) beside.reader taken longer

theorem State.Beside.turn (beside : State.Beside limit error whole failing) (server : Server) :
    Progress.Beside limit error (turn server whole) (turn server failing) := by
  have within := beside.within
  unfold Session.turn
  rw [beside.reader]
  cases whole.reader.read with
  | mk answered reader =>
      match answered with
      | .error halt => exact .stops rfl rfl beside.taken within
      | .ok none => exact .stops rfl rfl beside.taken within
      | .ok (some body) =>
          dsimp only
          cases Frame.decode body with
          | error violation => exact .stops rfl rfl beside.taken within
          | ok message =>
              have next : State.Beside limit error { whole with reader } { failing with reader } :=
                ⟨beside.lifecycle, rfl, beside.taken, beside.takesAll, beside.fails, beside.cause⟩
              exact next.answer server body.length message

-- The reply that is cut.

def written (server : Server) (state : State) (messages : List Envelope) : Bytes :=
  state.sink.taken ++ (replies server.identity state.lifecycle messages).flatMap Frame.encode

/-- The reply in which a place of the output lies. Its message is the first behind `earlier`, and the
reader stands as `after` when it has read it. -/
structure ReplyAt (server : Server) (state : State) (place : Nat) (earlier : List Envelope)
    (message : Envelope) (response : Response) (after : Frame.Reader) : Prop where
  read : ∃ given, given.map Prod.fst = earlier.map (fun message => .ok (some message)) ∧
    state.reader.answers (earlier.length + 1) = given ++ [(.ok (some message), after)]
  met : (dispatch server.identity (lifecycleAfter server.identity state.lifecycle earlier)
    message).1 = .reply response
  front : (written server state earlier).length ≤ place
  inside : place < (written server state earlier ++ Frame.encode response).length

variable {server : Server} {state next : State} {t : Turn}

theorem written_cons (round : Round server state (.goesOn t next)) (takesAll : state.sink.TakesAll)
    (messages : List Envelope) :
    written server state (t.message :: messages) = written server next messages := by
  obtain ⟨-, moved, sink⟩ := round.goesOn_written takesAll
  simp [written, replies_cons, moved, sink, Sink.take]

theorem ReplyAt.cons {place : Nat} {earlier : List Envelope} {message : Envelope}
    {response : Response} {after : Frame.Reader} (round : Round server state (.goesOn t next))
    (takesAll : state.sink.TakesAll)
    (here : ReplyAt server next place earlier message response after) :
    ReplyAt server state place (t.message :: earlier) message response after := by
  obtain ⟨read, moved, -⟩ := round.goesOn_written takesAll
  obtain ⟨given, messages, answers⟩ := here.read
  refine ⟨⟨(.ok (some t.message), next.reader) :: given, ?_, ?_⟩, ?_, ?_, ?_⟩
  · rw [List.map_cons, List.map_cons, messages]
  · rw [List.length_cons, Frame.Reader.answers, read]
    exact congrArg _ answers
  · have met := here.met
    rw [moved] at met
    exact met
  · rw [written_cons round takesAll]
    exact here.front
  · rw [written_cons round takesAll]
    exact here.inside

theorem ReplyAt.first {place : Nat} (round : Round server state (.goesOn t next))
    (takesAll : state.sink.TakesAll) (front : state.sink.taken.length ≤ place)
    (inside : place < next.sink.taken.length) :
    ∃ response, ReplyAt server state place [] t.message response next.reader ∧
      written server state [] ++ Frame.encode response = next.sink.taken := by
  obtain ⟨read, -, sink⟩ := round.goesOn_written takesAll
  have none_ : written server state [] = state.sink.taken := by
    simp [written, replies, exchanges]
  cases replied : (dispatch server.identity state.lifecycle t.message).1.reply? with
  | none =>
      have same : next.sink.taken = state.sink.taken := by
        rw [sink, replied]
        exact List.append_nil _
      rw [same] at inside
      exact absurd front (Nat.not_le.mpr inside)
  | some response =>
      have all : written server state [] ++ Frame.encode response = next.sink.taken := by
        rw [none_, sink, replied]
        simp [Sink.take]
      refine ⟨response, ⟨⟨[], rfl, ?_⟩, Outcome.reply?_eq_some_iff.mp replied, ?_, ?_⟩, all⟩
      · simp [Frame.Reader.answers, read]
      · rw [none_]
        exact front
      · rw [all]
        exact inside

/-- Whole sessions beside each other. If all is written within the limit they are the same; else the
second is the first up to the limit, and has read no further than the message whose reply is cut. -/
theorem State.Beside.serveFrom (beside : State.Beside limit error whole failing)
    (server : Server) :
    let all := serveFrom server whole
    let cut := serveFrom server failing
    (all.output.length ≤ limit → cut.output = all.output ∧ cut.ending = all.ending ∧
        cut.close.state.reader = all.close.state.reader) ∧
      (limit < all.output.length → cut.output = all.output.take limit ∧
        cut.ending = brokenEnding error ∧
        ∃ earlier message response,
          ReplyAt server whole limit earlier message response cut.close.state.reader ∧
          written server whole earlier ++ Frame.encode response <+: all.output) := by
  induction whole using Session.serveFrom.induct server generalizing failing with
  | case1 whole close step =>
      have sides := beside.turn server
      rw [step] at sides
      generalize stepFailing : Session.turn server failing = there at sides
      cases sides with
      | stops ending reader taken within =>
          rw [serveFrom_stops step, serveFrom_stops stepFailing]
          exact ⟨fun _ => ⟨taken, ending, reader⟩,
            fun beyond => absurd within (Nat.not_le.mpr beyond)⟩
  | case2 whole t next step ih =>
      have round := turn_round server whole
      have sides := beside.turn server
      rw [step] at round sides
      generalize stepFailing : Session.turn server failing = there at sides
      cases sides with
      | goesOn _ nextBeside =>
          obtain ⟨same, broken⟩ := ih nextBeside
          rw [serveFrom_goesOn step, serveFrom_goesOn stepFailing]
          refine ⟨same, fun beyond => ?_⟩
          obtain ⟨output, ending, earlier, message, response, here, front⟩ := broken beyond
          refine ⟨output, ending, t.message :: earlier, message, response,
            here.cons round beside.takesAll, ?_⟩
          rw [written_cons round beside.takesAll]
          exact front
      | cut _ ending reader taken beyond =>
          -- This round is the one whose reply is cut; the whole session only adds to it.
          have kept := serveFrom_keeps server next
          rw [serveFrom_goesOn step, serveFrom_stops stepFailing]
          have long : limit < (serveFrom server next).output.length :=
            Nat.lt_of_lt_of_le beyond kept.length_le
          refine ⟨fun within => absurd within (Nat.not_le.mpr long), fun _ => ⟨?_, ending, ?_⟩⟩
          · obtain ⟨behind, whole_⟩ := kept
            change _ = (serveFrom server next).output.take limit
            rw [← whole_, List.take_append_of_le_length (Nat.le_of_lt beyond)]
            exact taken
          · obtain ⟨response, here, all⟩ := ReplyAt.first round beside.takesAll beside.within beyond
            rw [← all] at kept
            refine ⟨[], t.message, response, ?_, kept⟩
            rw [reader]
            exact here

/-- A session whose sink fails once it has taken `limit` bytes, whatever it takes in one call, beside
the same session with a sink that takes everything. If the second writes no more than that, they do
not differ. Else the first writes that many bytes of what the second writes and ends there: the other
side has closed, a call took nothing, or the sink has failed with its own error. It has then read
exactly up to the end of the message whose reply holds the byte at the limit. -/
theorem broken_sink_cuts (server : Server) (source : Source) (open_ : Sink)
    (takesAll : open_.TakesAll) (fresh : open_.taken = []) (perCall : Option Nat)
    (moves : perCall ≠ some 0) (limit : Nat) (fault : Option IoError) :
    let whole := serve server source open_
    let cut := serve server source { perCall, limit := some limit, fault }
    (whole.output.length ≤ limit → cut.output = whole.output ∧ cut.ending = whole.ending ∧
        cut.consumed source = whole.consumed source) ∧
      (limit < whole.output.length →
        cut.output = whole.output.take limit ∧
        cut.ending =
          (match fault with
            | some error =>
                if error.kind = .brokenPipe ∨ error.kind = .connectionReset then .peerClosed
                else .failed (.io error)
            | none => .failed (.io ⟨.writeZero, "write zero"⟩)) ∧
        ∃ (earlier : List Envelope) (message : Envelope) (response : Response)
          (given : List (Except Halt (Option Envelope) × Nat)),
          let front := (replies server.identity (.start server.strict) earlier).flatMap Frame.encode
          given.map Prod.fst = earlier.map (fun message => .ok (some message)) ∧
          (Frame.Reader.start server.limits source).account (earlier.length + 1) =
            given ++ [(.ok (some message), cut.consumed source)] ∧
          (dispatch server.identity
            (lifecycleAfter server.identity (.start server.strict) earlier) message).1 =
              .reply response ∧
          front ++ Frame.encode response <+: whole.output ∧
          front.length ≤ limit ∧ limit < (front ++ Frame.encode response).length) := by
  intro whole cut
  let error := fault.getD Sink.writeZero
  have beside : State.Beside limit error (start server source open_)
      (start server source { perCall, limit := some limit, fault }) :=
    ⟨rfl, rfl, fresh.symm, takesAll, ⟨rfl, moves, rfl, Nat.zero_le _⟩, rfl⟩
  obtain ⟨same, broken⟩ := beside.serveFrom server
  constructor
  · intro within
    obtain ⟨output, ending, reader⟩ := same within
    refine ⟨output, ending, ?_⟩
    exact congrArg (fun reader : Frame.Reader => source.size - reader.source.size) reader
  · intro beyond
    obtain ⟨output, ending, earlier, message, response, here, front⟩ := broken beyond
    obtain ⟨given, messages, answers⟩ := here.read
    have none_ : written server (start server source open_) earlier =
        (replies server.identity (.start server.strict) earlier).flatMap Frame.encode := by
      rw [written]
      change open_.taken ++ _ = _
      rw [fresh, List.nil_append]
      rfl
    have before := here.front
    have inside := here.inside
    rw [none_] at before inside front
    refine ⟨output, ?_, earlier, message, response,
      given.map fun given => (given.1, source.size - given.2.source.size), ?_, ?_, here.met, front,
      before, inside⟩
    · refine Eq.trans ending ?_
      cases fault with
      | none => rfl
      | some other => simp [brokenEnding, IoError.isPeerClosed, error]
    · rw [List.map_map]
      exact messages
    · have read : (Frame.Reader.start server.limits source).answers (earlier.length + 1) = _ :=
        answers
      rw [Frame.Reader.account, read, List.map_append]
      rfl

/-- A sink that takes two bytes in a call and closes inside the tag of the first reply. The byte
behind the request starts no frame. -/
theorem broken_sink_cuts_inside_the_tag :
    let text := "[\"\",7,\"build/initialize\"]".toList
    let input : Source := [.bytes (Frame.wrap (Text.Utf8.encode text)), .bytes [255]]
    let closed : IoError := ⟨.brokenPipe, "closed"⟩
    let whole := serve {} input {}
    let cut := serve {} input { perCall := some 2, limit := some 5, fault := some closed }
    5 < whole.output.length ∧ cut.output = whole.output.take 5 ∧ cut.ending = .peerClosed := by
  intro text input closed whole cut
  obtain ⟨opening, openingText, openingIs, openingFits⟩ := Accepted.exists_of_decode text
    (.request (.integer 7) "build/initialize" none) (by decide +kernel) (by decide)
  have fits : ∀ accepted ∈ [opening], accepted.Fits {} := by
    intro accepted member
    rw [List.mem_singleton.mp member]
    exact openingFits
  have script : Source.signals input =
      Signal.ofBytes ([opening].flatMap Accepted.frame) ++ Signal.ofBytes [255] := by
    rw [List.flatMap_singleton, Accepted.frame, Accepted.body, openingText]
    rfl
  have ready : State.Ready {} _ (start {} input {}) :=
    .of_start rfl script ⟨rfl, by decide, rfl⟩
  have front := ready.serve_on fits (by simp [openingIs, Envelope.method])
  have long : 5 < whole.output.length := by
    have replied : replies {} (.start false) [opening.message] =
        [.result (.integer 7) (Handler.identity.result {})] := by
      rw [openingIs]
      rfl
    change [] ++ (replies {} (.start false) [opening.message]).flatMap Frame.encode <+: _ at front
    rw [replied, List.nil_append, List.flatMap_singleton] at front
    refine Nat.lt_of_lt_of_le ?_ front.length_le
    decide +kernel
  have cuts := (broken_sink_cuts {} input {} ⟨rfl, by decide, rfl⟩ rfl (some 2) (by decide) 5
    (some closed)).2 long
  exact ⟨long, cuts.1, cuts.2.1⟩

end Session
end BuildPeer
