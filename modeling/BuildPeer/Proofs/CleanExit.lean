import BuildPeer.Program
import BuildPeer.Proofs.Accounting
import BuildPeer.Proofs.History
import BuildPeer.Proofs.Json.Sequence
import BuildPeer.Proofs.Round
import Mathlib.Data.List.Induction

/-!
When an exit is clean, and what status a process ends with. The verdict is a matter of the messages
in front of the exit alone: in a strict session an initialization with a shutdown behind it, in any
other that the last message to move the session was a shutdown. The status of a process that serves
is read off the way its session ended.
-/

namespace BuildPeer

/-- The methods that move a session that allows everything, the exit apart. -/
def movingMethods : List String :=
  ["build/initialize", "build/initialized", "build/shutdown"]

def EndsCleanly (strict : Bool) (earlier : List Envelope) : Prop :=
  let methods := earlier.map Envelope.method
  if strict then ["build/initialize", "build/shutdown"].Sublist methods
  else (methods.filter (· ∈ movingMethods)).getLast? = some "build/shutdown"

-- A session that allows everything.

theorem dispatch_phase (identity : Identity) {lifecycle : Lifecycle} {message : Envelope}
    (permissive : lifecycle.strict = false) (noExit : message.method ≠ "build/exit") :
    (dispatch identity lifecycle message).2.phase =
      if message.method ∈ movingMethods then
        if message.method = "build/shutdown" then .shuttingDown else .initialized
      else lifecycle.phase := by
  have known : ∀ method ∈ movingMethods, ∃ route ∈ routes, route.method = method := by decide
  rw [dispatch_after]
  rcases judge_cases lifecycle message.method with
    ⟨judged, unnamed⟩ | ⟨route, member, named, ⟨rejection, -, checked⟩ | ⟨judged, -⟩⟩
  · have still : message.method ∉ movingMethods := by
      intro moving
      obtain ⟨route, member, named⟩ := known message.method moving
      exact unnamed route member named
    rw [judged, if_neg still]
    rfl
  · simp [Lifecycle.check, permissive] at checked
  · rw [judged]
    rw [← named] at noExit ⊢
    simp only [routes, List.mem_cons, List.not_mem_nil, or_false] at member
    rcases member with rfl | rfl | rfl | rfl | rfl <;>
      simp [Verdict.apply, Lifecycle.apply, movingMethods] at noExit ⊢

theorem phase_after_permissive (identity : Identity) {messages : List Envelope}
    (noExit : ∀ message ∈ messages, message.method ≠ "build/exit") :
    (lifecycleAfter identity (.start false) messages).phase = .shuttingDown ↔
      EndsCleanly false messages := by
  induction messages using List.reverseRecOn with
  | nil => simp [lifecycleAfter, Lifecycle.start, EndsCleanly]
  | append_singleton messages message ih =>
      have more := ih fun message member => noExit message (List.mem_append_left _ member)
      have other : message.method ≠ "build/exit" := noExit message (by simp)
      rw [lifecycleAfter_snoc, dispatch_phase identity (by simp [Lifecycle.start]) other]
      simp only [EndsCleanly, Bool.false_eq_true, ↓reduceIte, List.map_append, List.map_cons,
        List.map_nil, List.filter_append] at more ⊢
      by_cases moves : message.method ∈ movingMethods
      · by_cases shutdown : message.method = "build/shutdown"
        · rw [shutdown] at moves
          simp [moves, shutdown]
        · simp [moves, shutdown]
      · simp [moves, more]

-- A strict session.

theorem firstAt_cons (method : String) (message : Envelope) (rest : List Envelope) :
    firstAt method (message :: rest) =
      if message.method = method then 0 else firstAt method rest + 1 := by
  by_cases same : message.method = method <;> simp [firstAt, List.findIdx_cons, same]

theorem firstAt_lt_iff {method : String} {messages : List Envelope} :
    firstAt method messages < messages.length ↔ method ∈ messages.map Envelope.method := by
  simp [firstAt, List.findIdx_lt_length]

theorem closed_lt_iff (messages : List Envelope) :
    (History.of messages).closed < messages.length ↔ EndsCleanly true messages := by
  simp only [EndsCleanly, ↓reduceIte]
  induction messages with
  | nil => simp [History.of, firstAt]
  | cons message rest ih =>
      rw [List.map_cons, List.length_cons]
      by_cases opens : message.method = "build/initialize"
      · have closed : (History.of (message :: rest)).closed = firstAt "build/shutdown" rest + 1 := by
          simp [History.of, firstAt_cons, opens, Nat.add_comm]
        rw [closed, opens, List.cons_sublist_cons, List.singleton_sublist, ← firstAt_lt_iff]
        exact Nat.succ_lt_succ_iff
      · have closed : (History.of (message :: rest)).closed = (History.of rest).closed + 1 := by
          simp only [History.of, firstAt_cons, if_neg opens, List.drop_succ_cons]
          omega
        have other : "build/initialize" ≠ message.method := fun same => opens same.symm
        rw [closed, List.cons_sublist_cons', ← ih]
        simp [other]

theorem phase_after_strict (identity : Identity) {messages : List Envelope}
    (noExit : ∀ message ∈ messages, message.method ≠ "build/exit") :
    (lifecycleAfter identity (.start true) messages).phase = .shuttingDown ↔
      EndsCleanly true messages := by
  have end_ : firstAt "build/exit" messages = messages.length :=
    List.findIdx_eq_length.mpr fun message member => by simpa using noExit message member
  have phase := History.phase_at identity (Nat.le_refl messages.length) (Nat.le_of_eq end_.symm)
  have opened := History.opened_lt_closed messages
  rw [List.take_length] at phase
  rw [phase, ← closed_lt_iff]
  unfold History.stage
  split_ifs <;> simp only [Stage.before, reduceCtorEq, false_iff, true_iff] <;> omega

theorem phase_after (identity : Identity) (strict : Bool) {messages : List Envelope}
    (noExit : ∀ message ∈ messages, message.method ≠ "build/exit") :
    (lifecycleAfter identity (.start strict) messages).phase = .shuttingDown ↔
      EndsCleanly strict messages := by
  cases strict with
  | false => exact phase_after_permissive identity noExit
  | true => exact phase_after_strict identity noExit

-- The status of a process.

namespace Ending

theorem status_eq_two_iff {strict : Bool} {ending : Ending} :
    ending.status strict = 2 ↔ ∃ failure, ending = .failed failure := by
  cases ending with
  | exit clean => cases strict <;> cases clean <;> simp [status]
  | _ => simp [status]

theorem status_eq_one_iff {strict : Bool} {ending : Ending} :
    ending.status strict = 1 ↔ strict = true ∧ ending = .exit false := by
  cases ending with
  | exit clean => cases strict <;> cases clean <;> simp [status]
  | _ => simp [status]

theorem status_cases (strict : Bool) (ending : Ending) :
    ending.status strict = 0 ∨ ending.status strict = 1 ∨ ending.status strict = 2 := by
  cases ending with
  | exit clean => cases strict <;> cases clean <;> simp [status]
  | _ => simp [status]

end Ending

namespace Program

/-- The session that a process serves. It serves none when its log level makes no filter. -/
def session? (config : Config) (input : Source) (output : Sink) : Option Session.Run :=
  (Journal.Filter.parse? config.logLevel).map fun _ => Session.serve config.server input output

theorem status_of_loaded {args : List String} {file : Except String Bytes} {config : Config}
    (loaded : Config.load args file = .ok config) (input : Source) (output : Sink) :
    (run args file input output).status =
      match session? config input output with
      | some served => served.ending.status config.server.strict
      | none => brokenFilterStatus := by
  unfold run session?
  rw [loaded]
  dsimp only
  cases Journal.Filter.parse? config.logLevel <;> rfl

end Program

namespace Session

/-- A session that comes to an exit ends with the first one, and the messages in front of it, which
are those its reader has answered with, say whether that is clean. A process whose configuration is
loaded ends with status 2 exactly when its session failed, with 1 exactly when a strict session
ended with an exit that is not clean, and with 0 however else its session ends. The last is about
sessions that are served: a log level that makes no filter is found out in front of the session, and
such a process ends with `Program.brokenFilterStatus`. -/
theorem exit_verdict_and_status :
    (∀ (server : Server) (input : Source) (output : Sink),
      let run := serve server input output
      let earlier := run.turns.map Turn.message
      ((Frame.Reader.start server.limits input).answers run.messages.length).map Prod.fst =
          run.messages.map (fun message => .ok (some message)) ∧
        (∀ message ∈ earlier, message.method ≠ "build/exit") ∧
        ∀ clean, run.ending = .exit clean ↔
          (∃ t, run.close.turn = some t ∧ t.message.method = "build/exit") ∧
            (clean = true ↔ EndsCleanly server.strict earlier)) ∧
      ∀ (args : List String) (file : Except String Bytes) (config : Config) (input : Source)
        (output : Sink), Config.load args file = .ok config →
        let session? := Program.session? config input output
        let status := (Program.run args file input output).status
        (status = 2 ↔ ∃ run failure, session? = some run ∧ run.ending = .failed failure) ∧
          (status = 1 ↔
            ∃ run, session? = some run ∧ config.server.strict = true ∧ run.ending = .exit false) ∧
          (∀ run, session? = some run → run.ending ≠ .waits → status ≠ 2 → status ≠ 1 →
            status = 0) := by
  constructor
  · intro server input output run earlier
    have running : (start server input output).lifecycle.phase ≠ .exited := by
      simp [start, Lifecycle.start]
    obtain ⟨noExit, verdict⟩ := serveFrom_exit server running
    refine ⟨serveFrom_messages server (start server input output), noExit, fun clean => ?_⟩
    refine (verdict clean).trans (and_congr_right fun _ => ?_)
    rw [Bool.eq_iff_iff, decide_eq_true_iff]
    exact iff_congr Iff.rfl (phase_after server.identity server.strict noExit)
  · intro args file config input output loaded session? status
    have same : status = _ := Program.status_of_loaded loaded input output
    change status = match session? with | some served => _ | none => _ at same
    cases served : session? with
    | none =>
        rw [served] at same
        simp [same, Program.brokenFilterStatus]
    | some run =>
        rw [served] at same
        dsimp only at same
        rw [same]
        refine ⟨?_, ?_, ?_⟩
        · rw [Ending.status_eq_two_iff]
          simp
        · rw [Ending.status_eq_one_iff]
          simp
        · intro _ _ _ notTwo notOne
          have cases_ := Ending.status_cases config.server.strict run.ending
          simpa [notOne, notTwo] using cases_

/-- A strict process that is initialized and told to exit, with no shutdown between. -/
theorem exit_verdict_and_status_without_shutdown :
    let first := "[\"\",7,\"build/initialize\"]".toList
    let last := "[\"\",null,\"build/exit\"]".toList
    let input : Source :=
      [.bytes (Frame.wrap (Text.Utf8.encode first)), .bytes (Frame.wrap (Text.Utf8.encode last))]
    Config.load ["--strict"] (.ok []) = .ok ⟨{ strict := true }, "info"⟩ ∧
      (serve { strict := true } input {}).ending = .exit false ∧
      (Program.run ["--strict"] (.ok []) input {}).status = 1 := by
  intro first last input
  have loaded : Config.load ["--strict"] (.ok []) = .ok ⟨{ strict := true }, "info"⟩ := by
    decide +kernel
  obtain ⟨opening, openingText, openingIs, openingFits⟩ := Accepted.exists_of_decode first
    (.request (.integer 7) "build/initialize" none) (by decide +kernel) (by decide)
  obtain ⟨exit, exitText, exitIs, exitFits⟩ := Accepted.exists_of_decode last
    (.request .null "build/exit" none) (by decide +kernel) (by decide)
  have fits : ∀ accepted ∈ [opening] ++ [exit], accepted.Fits {} := by
    intro accepted member
    rcases List.mem_pair.mp member with rfl | rfl
    · exact openingFits
    · exact exitFits
  have script : Source.signals input =
      Signal.ofBytes (([opening] ++ [exit]).flatMap Accepted.frame) ++ [] := by
    simp only [List.flatMap_append, List.flatMap_singleton, Signal.ofBytes_append,
      List.append_assoc, Accepted.frame, Accepted.body, openingText, exitText]
    rfl
  have ready : State.Ready { strict := true } _ (start { strict := true } input {}) :=
    ⟨⟨rfl, rfl, script⟩, by simp [start, Lifecycle.start], ⟨rfl, by decide, rfl⟩⟩
  obtain ⟨-, exits, -⟩ := ready.serve_exit fits (by simp [openingIs, Envelope.method])
    (by rw [exitIs]; rfl)
  have ending : (serve { strict := true } input {}).ending = .exit false := by
    refine exits.trans ?_
    rw [List.map_singleton, openingIs]
    rfl
  have filtered : (Journal.Filter.parse? "info").isSome = true := by decide +kernel
  obtain ⟨filter, made⟩ := Option.isSome_iff_exists.mp filtered
  have verdict := exit_verdict_and_status.2 ["--strict"] (.ok []) _ input {} loaded
  refine ⟨loaded, ending, verdict.2.1.mpr ⟨_, ?_, rfl, ending⟩⟩
  simp [Program.session?, made]

end Session
end BuildPeer
