import BuildPeer.Proofs.Exchanges
import BuildPeer.Session

/-!
One round of a session, and what follows for all of them. `Round` lists what a round can come to;
the messages that a run has dealt with are then the first answers of its reader, and the exit is
the last of them or none.
-/

namespace BuildPeer.Session

/-- What a round can come to. Without a message it ends the session; otherwise the message goes to
the dispatcher, and its reply, if there is one, to the sink. -/
inductive Round (server : Server) (state : State) : Progress → Prop where
  | ended {reader : Frame.Reader} (read : state.reader.readMessage = (.ok none, reader)) :
      Round server state (.stops ⟨none, none, .endOfInput, { state with reader }⟩)
  | halted {reader : Frame.Reader} {halt : Halt} {refused : Option Nat}
      (read : state.reader.readMessage = (.error halt, reader)) :
      Round server state (.stops ⟨none, refused, haltEnding halt, { state with reader }⟩)
  | silent {reader : Frame.Reader} {t : Turn}
      (read : state.reader.readMessage = (.ok (some t.message), reader))
      (met : dispatch server.identity state.lifecycle t.message = (.noReply, t.after)) :
      Round server state (.goesOn t ⟨t.after, reader, state.sink⟩)
  | exits {reader : Frame.Reader} {t : Turn}
      (read : state.reader.readMessage = (.ok (some t.message), reader))
      (met : dispatch server.identity state.lifecycle t.message = (.exit, t.after)) :
      Round server state
        (.stops ⟨some t, none, .exit t.after.exitedCleanly, ⟨t.after, reader, state.sink⟩⟩)
  | answered {reader : Frame.Reader} {t : Turn} {response : Response} {sink : Sink} {bytes : Nat}
      (read : state.reader.readMessage = (.ok (some t.message), reader))
      (met : dispatch server.identity state.lifecycle t.message = (.reply response, t.after))
      (sent : Frame.write state.sink response = (.ok (.written bytes), sink)) :
      Round server state (.goesOn t ⟨t.after, reader, sink⟩)
  | closed {reader : Frame.Reader} {t : Turn} {response : Response} {sink : Sink}
      (read : state.reader.readMessage = (.ok (some t.message), reader))
      (met : dispatch server.identity state.lifecycle t.message = (.reply response, t.after))
      (sent : Frame.write state.sink response = (.ok .peerClosed, sink)) :
      Round server state (.stops ⟨some t, none, .peerClosed, ⟨t.after, reader, sink⟩⟩)
  | broken {reader : Frame.Reader} {t : Turn} {response : Response} {sink : Sink} {error : IoError}
      (read : state.reader.readMessage = (.ok (some t.message), reader))
      (met : dispatch server.identity state.lifecycle t.message = (.reply response, t.after))
      (sent : Frame.write state.sink response = (.error error, sink)) :
      Round server state (.stops ⟨some t, none, .failed (.io error), ⟨t.after, reader, sink⟩⟩)

theorem answer_round {server : Server} {state : State} {reader : Frame.Reader} {message : Envelope}
    (read : state.reader.readMessage = (.ok (some message), reader)) (size : Nat) :
    Round server state (answer server { state with reader } size message) := by
  unfold answer
  dsimp only
  cases met : dispatch server.identity state.lifecycle message with
  | mk outcome after =>
      cases outcome with
      | noReply => exact .silent read met
      | exit => exact .exits read met
      | reply response =>
          dsimp only
          cases sent : Frame.write state.sink response with
          | mk status sink =>
              match status with
              | .ok (.written bytes) => exact .answered read met sent
              | .ok .peerClosed => exact .closed read met sent
              | .error error => exact .broken read met sent

theorem turn_round (server : Server) (state : State) : Round server state (turn server state) := by
  unfold turn
  cases body : state.reader.read with
  | mk answer reader =>
      match answer with
      | .error halt => exact .halted (by rw [Frame.Reader.readMessage, body])
      | .ok none => exact .ended (by rw [Frame.Reader.readMessage, body])
      | .ok (some bytes) =>
          dsimp only
          cases decoded : Frame.decode bytes with
          | error violation =>
              have read : state.reader.readMessage = (.error (Frame.violates violation), reader) := by
                simp only [Frame.Reader.readMessage, body, decoded]
              exact .halted read
          | ok message =>
              exact answer_round (by simp only [Frame.Reader.readMessage, body, decoded]) _

-- All rounds of a run.

/-- The messages of a run, in their order: those of its rounds, the last one included. -/
def Run.messages (run : Run) : List Envelope :=
  run.turns.map Turn.message ++ run.close.turn.toList.map Turn.message

theorem serveFrom_messages (server : Server) (state : State) :
    let messages := (serveFrom server state).messages
    (state.reader.answers messages.length).map Prod.fst = messages.map fun m => .ok (some m) := by
  induction state using serveFrom.induct server with
  | case1 state close step =>
      have round := turn_round server state
      rw [step] at round
      rw [serveFrom_stops step]
      cases round with
      | ended read => rfl
      | halted read => rfl
      | exits read met => simp [Run.messages, Frame.Reader.answers, read]
      | closed read met sent => simp [Run.messages, Frame.Reader.answers, read]
      | broken read met sent => simp [Run.messages, Frame.Reader.answers, read]
  | case2 state t next step ih =>
      have round := turn_round server state
      rw [step] at round
      rw [serveFrom_goesOn step]
      have more : Run.messages ⟨t :: (serveFrom server next).turns, (serveFrom server next).close⟩ =
          t.message :: (serveFrom server next).messages := rfl
      dsimp only at ih ⊢
      rw [more, List.length_cons, Frame.Reader.answers, List.map_cons]
      cases round with
      | silent read met => rw [read, List.map_cons, ih]
      | answered read met sent => rw [read, List.map_cons, ih]

variable {server : Server} {state : State}

theorem Round.goesOn {t : Turn} {next : State} (round : Round server state (.goesOn t next))
    (running : state.lifecycle.phase ≠ .exited) :
    t.message.method ≠ "build/exit" ∧ next.lifecycle.phase ≠ .exited ∧
      next.lifecycle = (dispatch server.identity state.lifecycle t.message).2 := by
  have noExit (met : (dispatch server.identity state.lifecycle t.message).1 ≠ .exit) :
      t.message.method ≠ "build/exit" :=
    mt (dispatch_eq_exit_iff server.identity running).mpr met
  have goesOn (other : t.message.method ≠ "build/exit") :=
    (dispatch_owed server.identity running other).2.2
  cases round with
  | silent read met =>
      rw [met] at noExit goesOn ⊢
      have other := noExit (by simp)
      exact ⟨other, goesOn other, rfl⟩
  | answered read met sent =>
      rw [met] at noExit goesOn ⊢
      have other := noExit (by simp)
      exact ⟨other, goesOn other, rfl⟩

theorem Round.ending_exit_iff {close : Close} (round : Round server state (.stops close))
    (running : state.lifecycle.phase ≠ .exited) (clean : Bool) :
    close.ending = .exit clean ↔
      (∃ t, close.turn = some t ∧ t.message.method = "build/exit") ∧
        clean = decide (state.lifecycle.phase = .shuttingDown) := by
  have isExit (message : Envelope) :
      (dispatch server.identity state.lifecycle message).1 = .exit ↔
        message.method = "build/exit" :=
    dispatch_eq_exit_iff server.identity running
  cases round with
  | ended read => simp
  | @halted _ halt _ read => cases halt <;> simp [haltEnding]
  | closed read met sent => simp [← isExit, met]
  | broken read met sent => simp [← isExit, met]
  | @exits _ t read met =>
      have exited : t.message.method = "build/exit" := by rw [← isExit, met]
      rw [dispatch_exit server.identity _ exited] at met
      have after : t.after = state.lifecycle.apply .exit := (congrArg Prod.snd met).symm
      simp [exited, after, Lifecycle.apply, Lifecycle.exitedCleanly, eq_comm]

variable (server) in
/-- A run that is not over goes on up to the first exit. It ends with that exit if it comes so far;
the exit is clean if the messages in front of it have led to the phase of the shutdown. -/
theorem serveFrom_exit (running : state.lifecycle.phase ≠ .exited) :
    let run := serveFrom server state
    let earlier := run.turns.map Turn.message
    (∀ message ∈ earlier, message.method ≠ "build/exit") ∧
      ∀ clean, run.ending = .exit clean ↔
        (∃ t, run.close.turn = some t ∧ t.message.method = "build/exit") ∧
          clean = decide ((lifecycleAfter server.identity state.lifecycle earlier).phase =
            .shuttingDown) := by
  induction state using serveFrom.induct server with
  | case1 state close step =>
      have round := turn_round server state
      rw [step] at round
      rw [serveFrom_stops step]
      exact ⟨by simp, round.ending_exit_iff running⟩
  | case2 state t next step ih =>
      have round := turn_round server state
      rw [step] at round
      obtain ⟨noExit, goesOn, moved⟩ := round.goesOn running
      obtain ⟨others, verdict⟩ := ih goesOn
      rw [serveFrom_goesOn step]
      refine ⟨?_, ?_⟩
      · intro message member
        rcases List.mem_cons.mp member with rfl | later
        · exact noExit
        · exact others message later
      · rw [moved] at verdict
        exact verdict

end BuildPeer.Session
