import BuildPeer.Proofs.BrokenSink
import BuildPeer.Proofs.Growing

/-!
The running program beside the session that it serves. One step of it is a round on what has arrived,
and that is the round on the whole input (`advance_moves`); until then the step lacks as many bytes as
it asks for (`advance_needs`). `Serves` is the loop of the program, with the input piece by piece as it
comes and the output delivered round by round. Whatever the pieces are, it tells what `Session.serve`
tells of all of them, and it delivers what that writes.
-/

namespace BuildPeer.Live

variable {server : Server} {state : Session.State} {progress : Session.Progress}

-- One round.

/-- A round while the input still grows: what comes later does not change it, or it lacks so many
bytes and a fault in front of them stops it. -/
inductive Grows (server : Server) (state : Session.State) : Prop where
  | done (same : ∀ more, Session.turn server (withInput (· ++ more) state) =
        mapState (withInput (· ++ more)) (Session.turn server state))
      (faults : state.sink.TakesAll → ∀ close error, Session.turn server state = .stops close →
        close.ending = .failed (.io error) → .fault error ∈ state.source)
  | lacks (bytes : Nat) (some_ : 0 < bytes)
      (stops : ∀ chunks error, chunks.flatten.length < bytes → error.kind ≠ .unexpectedEof →
        ∃ after, Session.turn server (withInput (· ++ Source.stoppedBy error chunks) state) =
            .stops ⟨none, none, .failed (.io error), { state with reader := after }⟩ ∧
          lacking after = bytes - chunks.flatten.length)

theorem mapState_withInput (more : Source) (progress : Session.Progress) :
    mapState (withInput (· ++ more)) progress = progress.mapReader (Frame.Reader.ahead more) := by
  cases progress <;> rfl

/-- With a sink that takes everything only the exit ends a round that has a message. -/
theorem answer_stops (takesAll : state.sink.TakesAll) {size : Nat} {message : Envelope}
    {close : Session.Close} (stops : Session.answer server state size message = .stops close) :
    ∃ clean, close.ending = .exit clean := by
  unfold Session.answer at stops
  generalize dispatch server.identity state.lifecycle message = dispatched at stops
  obtain ⟨outcome, after⟩ := dispatched
  cases outcome with
  | noReply => cases stops
  | exit =>
      cases stops
      exact ⟨_, rfl⟩
  | reply response =>
      simp only [Frame.write_takesAll takesAll] at stops
      cases stops

/-- Behind a whole frame nothing that comes later is looked at. -/
theorem turn_grows_body {body : Bytes} {after : Frame.Reader}
    (there : ∀ more, (withInput (· ++ more) state).reader.read =
      (.ok (some body), after.ahead more)) : Grows server state := by
  have read : state.reader.read = (.ok (some body), after) := by
    simpa [withInput] using there []
  cases decoded : Frame.decode body with
  | error violation =>
      refine .done ?_ ?_
      · intro more
        simp only [Session.turn, read, there, decoded]
        rfl
      · intro _ close error stops failed
        simp only [Session.turn, read, decoded] at stops
        cases stops
        cases failed
  | ok message =>
      refine .done ?_ ?_
      · intro more
        simp only [Session.turn, read, there, decoded, mapState_withInput]
        exact Session.answer_mapReader _ server { state with reader := after } _ message
      · intro takesAll close error stops failed
        simp only [Session.turn, read, decoded] at stops
        have takesStill : ({ state with reader := after } : Session.State).sink.TakesAll := takesAll
        obtain ⟨clean, exits⟩ := answer_stops takesStill stops
        rw [exits] at failed
        cases failed

theorem turn_grows (server : Server) (state : Session.State) : Grows server state := by
  cases state.reader.read_grows with
  | lacks bytes some_ stops =>
      refine .lacks bytes some_ ?_
      intro chunks error less other
      obtain ⟨after, stopped, lacks⟩ := stops chunks error less other
      refine ⟨after, ?_, lacks⟩
      have there : (withInput (· ++ Source.stoppedBy error chunks) state).reader.read = _ := stopped
      simp only [Session.turn, there]
      rfl
  | done same faults =>
      cases read : state.reader.read with
      | mk answer after =>
          rw [read] at same faults
          have there (more : Source) : (withInput (· ++ more) state).reader.read =
            (answer, after.ahead more) := same more
          cases answer with
          | error halt =>
              refine .done ?_ ?_
              · intro more
                simp only [Session.turn, read, there]
                rfl
              · intro _ close error stops failed
                simp only [Session.turn, read] at stops
                cases stops
                refine faults error (.inl ?_)
                cases halt with
                | waits => cases failed
                | failed failure =>
                    cases failed
                    rfl
          | ok came =>
              cases came with
              | none =>
                  refine .done ?_ ?_
                  · intro more
                    simp only [Session.turn, read, there]
                    rfl
                  · intro _ close error stops failed
                    simp only [Session.turn, read] at stops
                    cases stops
                    cases failed
              | some body => exact turn_grows_body there

-- One step of the program.

theorem withInput_nil (state : Session.State) : withInput (· ++ []) state = state := by
  simp [withInput]

theorem withInput_append (first second : Source) (state : Session.State) :
    withInput (· ++ second) (withInput (· ++ first) state) =
      withInput (· ++ (first ++ second)) state := by
  simp [withInput]

theorem unmarked_goesOn (turn : Session.Turn) (next : Session.State) :
    unmarked (mapState (withInput (· ++ [.fault awaiting])) (.goesOn turn next)) =
      .moves (.goesOn turn next) := by
  simp [unmarked, mapState, withInput]

theorem unmarked_stops (close : Session.Close) :
    unmarked (mapState (withInput (· ++ [.fault awaiting])) (.stops close)) =
      if close.ending = .failed (.io awaiting) then .needs (lacking close.state.reader)
      else .moves (.stops close) := by
  simp [unmarked, mapState, withInput, lacking]

/-- A step that moves is the round on what has arrived, and the same on that and whatever still
comes, as long as the input is open. -/
theorem advance_moves {closed : Bool} (moves : advance server state closed = .moves progress) :
    progress = Session.turn server state ∧
      (closed = false → ∀ more, Session.turn server (withInput (· ++ more) state) =
        mapState (withInput (· ++ more)) progress) := by
  cases closed with
  | true =>
      cases moves
      exact ⟨rfl, nofun⟩
  | false =>
      simp only [advance, Bool.false_eq_true, ↓reduceIte] at moves
      cases turn_grows server state with
      | done same faults =>
          have here : progress = Session.turn server state := by
            rw [same] at moves
            cases step : Session.turn server state with
            | goesOn turn next =>
                rw [step, unmarked_goesOn] at moves
                cases moves
                rfl
            | stops close =>
                rw [step, unmarked_stops] at moves
                split at moves
                · cases moves
                · cases moves
                  rfl
          refine ⟨here, fun _ more => ?_⟩
          rw [here]
          exact same more
      | lacks bytes some_ stops =>
          obtain ⟨after, stopped, -⟩ := stops [] awaiting some_ (by decide)
          have there : Session.turn server (withInput (· ++ [.fault awaiting]) state) = _ := stopped
          rw [there] at moves
          simp [unmarked] at moves

/-- A step asks for bytes that the round surely lacks: with fewer of them, in any chunks, it asks for
the others. -/
theorem advance_needs {bytes : Nat} (takesAll : state.sink.TakesAll)
    (unmarked_ : .fault awaiting ∉ state.source)
    (needs : advance server state false = .needs bytes) :
    0 < bytes ∧ ∀ chunks : List Bytes, chunks.flatten.length < bytes →
      advance server (withInput (· ++ chunks.map .bytes) state) false =
        .needs (bytes - chunks.flatten.length) := by
  simp only [advance, Bool.false_eq_true, ↓reduceIte] at needs
  cases turn_grows server state with
  | done same faults =>
      rw [same] at needs
      cases step : Session.turn server state with
      | goesOn turn next =>
          rw [step, unmarked_goesOn] at needs
          cases needs
      | stops close =>
          rw [step, unmarked_stops] at needs
          split at needs
          · rename_i failed
            exact absurd (faults takesAll close awaiting step failed) unmarked_
          · cases needs
  | lacks lacks some_ stops =>
      have asks (chunks : List Bytes) (less : chunks.flatten.length < lacks) :
          unmarked (Session.turn server (withInput (· ++ Source.stoppedBy awaiting chunks) state)) =
            .needs (lacks - chunks.flatten.length) := by
        obtain ⟨after, stopped, short⟩ := stops chunks awaiting less (by decide)
        rw [stopped, ← short]
        simp [unmarked]
      obtain rfl : bytes = lacks := by
        have first := asks [] some_
        rw [show Source.stoppedBy awaiting [] = [.fault awaiting] from rfl, needs] at first
        cases first
        rfl
      refine ⟨some_, ?_⟩
      intro chunks less
      simp only [advance, Bool.false_eq_true, ↓reduceIte, withInput_append]
      exact asks chunks less

-- The output of a round, for an empty sink and for others.

def withSink (sink : Sink) (state : Session.State) : Session.State :=
  { state with sink }

theorem takesAll_empty : ({} : Sink).TakesAll :=
  ⟨rfl, nofun, rfl⟩

inductive Holds (sink : Sink) (bytes : Nat) : Prop where
  | all (takesAll : sink.TakesAll)
  | limited {limit : Nat} (fails : sink.Fails limit) (fits : sink.taken.length + bytes ≤ limit)

variable {sink : Sink} {limit : Nat}

theorem Holds.less {bytes fewer : Nat} (holds : Holds sink bytes) (less : fewer ≤ bytes) :
    Holds sink fewer := by
  cases holds with
  | all takesAll => exact .all takesAll
  | limited fails fits => exact .limited fails (by omega)

theorem Holds.take {bytes : Bytes} {more : Nat} (holds : Holds sink (bytes.length + more)) :
    Holds (sink.take bytes) more := by
  cases holds with
  | all takesAll => exact .all (takesAll.take bytes)
  | limited fails fits =>
      refine .limited (fails.take (by omega)) ?_
      rw [Sink.take, List.length_append]
      omega

theorem Holds.write {response : Response} (holds : Holds sink (Frame.encode response).length) :
    Frame.write sink response =
      (.ok (.written (Frame.encode response).length), sink.take (Frame.encode response)) := by
  cases holds with
  | all takesAll => exact Frame.write_takesAll takesAll response
  | limited fails fits => exact Frame.write_fits fails fits

theorem turn_cases (server : Server) (state : Session.State) :
    (∃ refused ending reader, ∀ sink, Session.turn server (withSink sink state) =
        .stops ⟨none, refused, ending, withSink sink { state with reader }⟩) ∨
      ∃ reader size message, ∀ sink, Session.turn server (withSink sink state) =
        Session.answer server (withSink sink { state with reader }) size message := by
  cases read : state.reader.read with
  | mk answer after =>
      have there (sink : Sink) : (withSink sink state).reader.read = (answer, after) := read
      cases answer with
      | error halt =>
          refine .inl ⟨none, Session.haltEnding halt, after, fun sink => ?_⟩
          simp only [Session.turn, there]
          rfl
      | ok came =>
          cases came with
          | none =>
              refine .inl ⟨none, .endOfInput, after, fun sink => ?_⟩
              simp only [Session.turn, there]
              rfl
          | some body =>
              cases decoded : Frame.decode body with
              | error violation =>
                  refine .inl ⟨some body.length, .failed (.violation violation), after,
                    fun sink => ?_⟩
                  simp only [Session.turn, there, decoded]
                  rfl
              | ok message =>
                  refine .inr ⟨after, body.length, message, fun sink => ?_⟩
                  simp only [Session.turn, there, decoded]
                  rfl

theorem answer_holds (size : Nat) (message : Envelope)
    (holds : Holds sink
      (output (Session.answer server (withSink {} state) size message)).length) :
    Session.answer server (withSink sink state) size message =
      mapState (fun next => withSink (sink.take next.sink.taken) next)
        (Session.answer server (withSink {} state) size message) := by
  simp only [Session.answer, withSink] at holds ⊢
  generalize dispatch server.identity state.lifecycle message = dispatched at holds ⊢
  obtain ⟨outcome, after⟩ := dispatched
  cases outcome with
  | noReply => simp [mapState]
  | exit => simp [mapState]
  | reply response =>
      simp only [Frame.write_takesAll takesAll_empty] at holds ⊢
      have room : Holds sink (Frame.encode response).length := holds
      have wrote := room.write
      simp only [wrote, mapState]
      rfl

/-- A round that writes into an empty sink writes the same into any that has room for it. -/
theorem turn_holds (server : Server) (state : Session.State)
    (holds : Holds sink (output (Session.turn server (withSink {} state))).length) :
    Session.turn server (withSink sink state) =
      mapState (fun next => withSink (sink.take next.sink.taken) next)
        (Session.turn server (withSink {} state)) := by
  rcases turn_cases server state with
    ⟨refused, ending, reader, silent⟩ | ⟨reader, size, message, answers⟩
  · rw [silent, silent]
    simp [mapState, withSink]
  · rw [answers] at holds ⊢
    rw [answers]
    exact answer_holds size message holds

theorem answer_cut (size : Nat) (message : Envelope) (fails : sink.Fails limit)
    (beyond : limit < sink.taken.length +
      (output (Session.answer server (withSink {} state) size message)).length) :
    ∃ turn next, Session.answer server (withSink {} state) size message = .goesOn turn next ∧
      Session.answer server (withSink sink state) size message =
        .stops ⟨some { turn with sent := some (Frame.report sink.cause) }, none,
          Session.brokenEnding sink.cause,
          withSink (sink.take (next.sink.taken.take (limit - sink.taken.length))) next⟩ := by
  have within := fails.within
  simp only [Session.answer, withSink] at beyond ⊢
  generalize dispatch server.identity state.lifecycle message = dispatched at beyond ⊢
  obtain ⟨outcome, after⟩ := dispatched
  cases outcome with
  | noReply => exact absurd within (Nat.not_le.mpr beyond)
  | exit => exact absurd within (Nat.not_le.mpr beyond)
  | reply response =>
      simp only [Frame.write_takesAll takesAll_empty] at beyond ⊢
      refine ⟨_, _, rfl, ?_⟩
      simp only [Frame.write_cut fails beyond, Frame.report, Session.brokenEnding]
      by_cases closed : sink.cause.isPeerClosed = true
      · simp only [if_pos closed]
        rfl
      · simp only [if_neg closed]
        rfl

/-- If a sink has no room for what the round writes, it takes the front of that, and the session is
over. -/
theorem turn_cut (server : Server) (state : Session.State) (fails : sink.Fails limit)
    (beyond : limit < sink.taken.length +
      (output (Session.turn server (withSink {} state))).length) :
    ∃ turn next, Session.turn server (withSink {} state) = .goesOn turn next ∧
      Session.turn server (withSink sink state) =
        .stops ⟨some { turn with sent := some (Frame.report sink.cause) }, none,
          Session.brokenEnding sink.cause,
          withSink (sink.take (next.sink.taken.take (limit - sink.taken.length))) next⟩ := by
  rcases turn_cases server state with
    ⟨refused, ending, reader, silent⟩ | ⟨reader, size, message, answers⟩
  · rw [silent] at beyond
    exact absurd fails.within (Nat.not_le.mpr beyond)
  · rw [answers] at beyond ⊢
    rw [answers]
    exact answer_cut size message fails beyond

-- The run of the program.

/-- The loop of the program from some state on. `pieces` are what still arrives, the last of them with
the end of the input; `delivered` is what standard output has taken, and `lost` the output of the last
round and the error, if it could not be delivered. -/
inductive Serves (server : Server) :
    Session.State → List Source → Bytes → Option (Bytes × IoError) → Session.Run → Prop where
  | needs {state : Session.State} {bytes : Nat} {piece : Source} {pieces : List Source}
      {delivered : Bytes} {lost : Option (Bytes × IoError)} {run : Session.Run}
      (step : advance server state false = .needs bytes)
      (more : Serves server (withInput (· ++ piece) state) pieces delivered lost run) :
      Serves server state (piece :: pieces) delivered lost run
  | goesOn {state next : Session.State} {pieces : List Source} {progress : Session.Progress}
      {turn : Session.Turn} {delivered : Bytes} {lost : Option (Bytes × IoError)}
      {run : Session.Run} (step : advance server state pieces.isEmpty = .moves progress)
      (settled : settle server state progress none = .goesOn turn next)
      (more : Serves server next pieces delivered lost run) :
      Serves server state pieces (output progress ++ delivered) lost
        ⟨turn :: run.turns, run.close⟩
  | stops {state : Session.State} {pieces : List Source} {progress : Session.Progress}
      {close : Session.Close} (step : advance server state pieces.isEmpty = .moves progress)
      (settled : settle server state progress none = .stops close) :
      Serves server state pieces (output progress) none ⟨[], close⟩
  | breaks {state : Session.State} {pieces : List Source} {progress : Session.Progress}
      {error : IoError} {close : Session.Close}
      (step : advance server state pieces.isEmpty = .moves progress) (some_ : output progress ≠ [])
      (settled : settle server state progress (some error) = .stops close) :
      Serves server state pieces [] (some (output progress, error)) ⟨[], close⟩

/-- A sink that takes what the program has delivered, and fails where that has failed. -/
inductive Outlet (sink : Sink) (delivered : Bytes) : Option (Bytes × IoError) → Prop where
  | whole (holds : Holds sink delivered.length) : Outlet sink delivered none
  | broken {limit : Nat} {lost : Bytes} (fails : sink.Fails limit)
      (front : sink.taken.length + delivered.length ≤ limit)
      (beyond : limit < sink.taken.length + delivered.length + lost.length) :
      Outlet sink delivered (some (lost, sink.cause))

structure Alike (first second : Session.Run) : Prop where
  turns : first.turns = second.turns
  last : first.close.turn = second.close.turn
  refused : first.close.refused = second.close.refused
  ending : first.ending = second.ending
  lifecycle : first.close.state.lifecycle = second.close.state.lifecycle

theorem Alike.journal {first second : Session.Run} (alike : Alike first second) (server : Server) :
    Journal.ofProcess server first = Journal.ofProcess server second := by
  have ending : first.close.ending = second.close.ending := alike.ending
  simp only [Journal.ofProcess, Journal.ofRun, Journal.ofClose, alike.turns, alike.last,
    alike.refused, alike.lifecycle, ending, alike.ending]

theorem Alike.cons {first second : Session.Run} (alike : Alike first second) (turn : Session.Turn) :
    Alike ⟨turn :: first.turns, first.close⟩ ⟨turn :: second.turns, second.close⟩ :=
  ⟨congrArg (turn :: ·) alike.turns, alike.last, alike.refused, alike.ending, alike.lifecycle⟩

theorem advance_turn {pieces : List Source}
    (step : advance server state pieces.isEmpty = .moves progress) :
    Session.turn server (withInput (· ++ pieces.flatten) state) =
      mapState (withInput (· ++ pieces.flatten)) progress := by
  obtain ⟨here, same⟩ := advance_moves step
  cases pieces with
  | nil =>
      have nothing : withInput (· ++ [].flatten) = id := funext withInput_nil
      rw [nothing, here]
      change Session.turn server state = _
      cases Session.turn server state <;> rfl
  | cons piece pieces => exact same rfl _

theorem Outlet.holds {first later : Bytes} {lost : Option (Bytes × IoError)}
    (outlet : Outlet sink (first ++ later) lost) : Holds sink first.length := by
  cases outlet with
  | whole holds =>
      rw [List.length_append] at holds
      exact holds.less (Nat.le_add_right _ _)
  | broken fails front beyond =>
      rw [List.length_append] at front
      exact .limited fails (by omega)

theorem Outlet.take {first later : Bytes} {lost : Option (Bytes × IoError)}
    (outlet : Outlet sink (first ++ later) lost) : Outlet (sink.take first) later lost := by
  cases outlet with
  | whole holds =>
      rw [List.length_append] at holds
      exact .whole holds.take
  | broken fails front beyond =>
      rw [List.length_append] at front beyond
      have cause : (sink.take first).cause = sink.cause := rfl
      rw [← cause]
      refine .broken (fails.take (by omega)) ?_ ?_
      · rw [Sink.take, List.length_append]
        omega
      · rw [Sink.take, List.length_append]
        omega

/-- A step whose output could not be delivered is the last one, as if the sink had failed. -/
theorem settle_breaks (idle : state.sink = {}) (here : progress = Session.turn server state)
    (some_ : output progress ≠ []) (error : IoError) :
    ∃ turn next, progress = .goesOn turn next ∧
      settle server state progress (some error) =
        .stops ⟨some { turn with sent := some (Frame.report error) }, none,
          Session.brokenEnding error, withSink { limit := some 0, fault := some error } next⟩ := by
  have empty : withSink {} state = state := by rw [withSink, ← idle]
  have fails : Sink.Fails 0 { limit := some 0, fault := some error } :=
    ⟨rfl, nofun, rfl, Nat.le_refl 0⟩
  obtain ⟨turn, next, goes, cut⟩ := turn_cut server state fails
    (by rw [empty, ← here]; simpa using List.length_pos_iff.mpr some_)
  rw [empty, ← here] at goes
  exact ⟨turn, next, goes, cut⟩

theorem output_withInput (more : Source) (progress : Session.Progress) :
    output (mapState (withInput (· ++ more)) progress) = output progress := by
  cases progress <;> rfl

/-- The program tells of its run what a session tells that has all of the input, and it delivers what
that writes. -/
theorem Serves.serveFrom {pieces : List Source} {delivered : Bytes}
    {lost : Option (Bytes × IoError)} {run : Session.Run}
    (serves : Serves server state pieces delivered lost run) (idle : state.sink = {})
    (outlet : Outlet sink delivered lost) :
    let whole := Session.serveFrom server (withSink sink (withInput (· ++ pieces.flatten) state))
    Alike run whole ∧
      ∃ part, part <+: (lost.map Prod.fst).getD [] ∧
        whole.output = sink.taken ++ delivered ++ part := by
  have empty {state : Session.State} (idle : state.sink = {}) (more : Source) :
      withSink {} (withInput (· ++ more) state) = withInput (· ++ more) state := by
    rw [withSink, withInput, ← idle]
  dsimp only
  induction serves generalizing sink with
  | needs step more ih =>
      have grown := ih idle outlet
      rw [withInput_append] at grown
      exact grown
  | @goesOn state next pieces progress turn delivered lost run step settled more ih =>
      have moved := advance_turn step
      have stepped := turn_holds server (withInput (· ++ pieces.flatten) state)
        (by rw [empty idle, moved, output_withInput]; exact outlet.holds)
      rw [empty idle, moved] at stepped
      cases progress with
      | stops close => cases settled
      | goesOn t n =>
          cases settled
          obtain ⟨alike, part, front, written⟩ := ih rfl outlet.take
          rw [Session.serveFrom_goesOn stepped]
          refine ⟨alike.cons turn, part, front, written.trans ?_⟩
          simp [Sink.take, output]
  | @stops state pieces progress close step settled =>
      have moved := advance_turn step
      have holds : Holds sink (output progress).length := by
        cases outlet with
        | whole holds => exact holds
      have stepped := turn_holds server (withInput (· ++ pieces.flatten) state)
        (by rw [empty idle, moved, output_withInput]; exact holds)
      rw [empty idle, moved] at stepped
      cases progress with
      | goesOn t n => cases settled
      | stops last =>
          cases settled
          rw [Session.serveFrom_stops stepped]
          refine ⟨⟨rfl, rfl, rfl, rfl, rfl⟩, [], List.nil_prefix, ?_⟩
          rw [List.append_nil]
          rfl
  | @breaks state pieces progress error close step some_ settled =>
      obtain ⟨here, -⟩ := advance_moves step
      obtain ⟨turn, next, rfl, breaks⟩ := settle_breaks idle here some_ error
      have moved := advance_turn step
      rw [breaks] at settled
      cases settled
      cases outlet with
      | @broken limit _ fails front beyond =>
          obtain ⟨t, n, goes, cut⟩ := turn_cut server (withInput (· ++ pieces.flatten) state) fails
            (by rw [empty idle, moved, output_withInput]; exact beyond)
          rw [empty idle, moved] at goes
          cases goes
          rw [Session.serveFrom_stops cut]
          refine ⟨⟨rfl, rfl, rfl, rfl, rfl⟩, next.sink.taken.take (limit - sink.taken.length),
            List.take_prefix _ _, ?_⟩
          rw [List.append_nil]
          rfl

theorem Serves.of_moves {pieces : List Source}
    (step : advance server state pieces.isEmpty = .moves progress)
    (shorter : ∀ next : Session.State, next.source.size < state.source.size →
      ∃ delivered run, Serves server next pieces delivered none run) :
    ∃ delivered run, Serves server state pieces delivered none run := by
  obtain ⟨here, -⟩ := advance_moves step
  cases progress with
  | stops close => exact ⟨_, _, .stops step rfl⟩
  | goesOn turn next =>
      have less : next.source.size < state.source.size := Session.turn_source here.symm
      obtain ⟨delivered, run, serves⟩ := shorter { next with sink := {} } less
      exact ⟨_, _, .goesOn step rfl serves⟩

/-- Whatever arrives, the program comes to an end if its output is taken. -/
theorem serves_total (server : Server) (pieces : List Source) (state : Session.State) :
    ∃ delivered run, Serves server state pieces delivered none run := by
  induction pieces generalizing state with
  | nil =>
      induction size : state.source.size using Nat.strongRecOn generalizing state with
      | ind n ih =>
          have step : advance server state true = .moves (Session.turn server state) := rfl
          exact Serves.of_moves step fun next less => ih _ (size ▸ less) next rfl
  | cons piece pieces ihPieces =>
      induction size : state.source.size using Nat.strongRecOn generalizing state with
      | ind n ih =>
          cases step : advance server state false with
          | needs bytes =>
              obtain ⟨delivered, run, serves⟩ := ihPieces (withInput (· ++ piece) state)
              exact ⟨delivered, run, .needs step serves⟩
          | moves progress =>
              exact Serves.of_moves step fun next less => ih _ (size ▸ less) next rfl

/-- The program, on what arrives piece by piece, against the process that it stands for, on all of
that: the same status and the same journal, and the output as far as it was delivered. -/
theorem serves_program {args : List String} {file : Except String Bytes} {config : Config}
    {filter : Journal.Filter} (loaded : Config.load args file = .ok config)
    (parsed : Journal.Filter.parse? config.logLevel = some filter) {pieces : List Source}
    {delivered : Bytes} {lost : Option (Bytes × IoError)} {run : Session.Run}
    (serves : Serves config.server (Session.start config.server [] {}) pieces delivered lost run)
    (outlet : Outlet sink delivered lost) (fresh : sink.taken = []) :
    let result := Program.run args file pieces.flatten sink
    result.status = run.ending.status config.server.strict ∧
      result.entries = Journal.ofProcess config.server run ∧ result.filter = filter ∧
      ∃ part, part <+: (lost.map Prod.fst).getD [] ∧ result.output = delivered ++ part := by
  obtain ⟨alike, part, front, written⟩ := serves.serveFrom rfl outlet
  simp only [Program.run, loaded, parsed, true_and]
  refine ⟨?_, (alike.journal config.server).symm, part, front, ?_⟩
  · rw [alike.ending]
    rfl
  · rw [fresh, List.nil_append] at written
    exact written

end BuildPeer.Live
