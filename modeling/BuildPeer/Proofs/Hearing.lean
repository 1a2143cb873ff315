import BuildPeer.Proofs.Boundaries
import BuildPeer.Proofs.Delivery
import BuildPeer.Proofs.Patience

/-!
What a session hears. Of its input a session notices the messages that its reader gives, one after
another, and the first answer that is none. `Gives` says which these are, and every reader gives some.
`hear` is the session over them alone: what is left of the sink, and how the session ends. A session
over a reader is what it hears (`serveFrom_hear`), so two inputs that give the same are answered the
same, however different their bytes are, and what is behind an exit is not heard.
-/

namespace BuildPeer

def Envelope.isExit (message : Envelope) : Bool :=
  message.method == "build/exit"

@[simp]
theorem Envelope.isExit_iff {message : Envelope} :
    message.isExit = true ↔ message.method = "build/exit" := by
  simp [Envelope.isExit]

def Exchange.frame (exchange : Exchange) : Bytes :=
  exchange.reply?.toList.flatMap Frame.encode

theorem replies_frames (identity : Identity) (lifecycle : Lifecycle) (messages : List Envelope) :
    (replies identity lifecycle messages).flatMap Frame.encode =
      (exchanges identity lifecycle messages).flatMap Exchange.frame := by
  rw [replies, List.filterMap_eq_flatMap_toList, List.flatMap_assoc]
  rfl

/-- No read of the script has to give up: the timeout, if there is one, is as long as all pauses
together, and the script does not fall silent. -/
structure Limits.Awaits (limits : Limits) (source : Source) : Prop where
  outlasts : limits.Outlasts source
  comes : limits.readTimeout = none ∨ .silence ∉ source

namespace Frame.Reader

/-- The messages that a reader gives to calls one after another, and the first answer that is none. -/
inductive Gives : Reader → List Envelope → Except Halt (Option Envelope) → Prop where
  | last {reader after : Reader} {answer : Except Halt (Option Envelope)}
      (read : reader.readMessage = (answer, after))
      (noMessage : ∀ message, answer ≠ .ok (some message)) : Gives reader [] answer
  | message {reader after : Reader} {message : Envelope} {messages : List Envelope}
      {answer : Except Halt (Option Envelope)}
      (read : reader.readMessage = (.ok (some message), after))
      (more : Gives after messages answer) : Gives reader (message :: messages) answer

variable {limits : Limits} {reader first second after : Reader} {message : Envelope}
  {messages : List Envelope} {last : Except Halt (Option Envelope)}

theorem readMessage_size (read : reader.readMessage = (.ok (some message), after)) :
    after.source.size < reader.source.size := by
  unfold readMessage at read
  split at read
  · cases read
  · cases read
  · rename_i body next came
    split at read
    · cases read
    · cases read
      exact read_size came

theorem gives_total (reader : Reader) : ∃ messages last, reader.Gives messages last := by
  -- On the bytes that are left: a call that gives a message takes some of them.
  induction size : reader.source.size using Nat.strong_induction_on generalizing reader with
  | _ n ih =>
      cases read : reader.readMessage with
      | mk answer after =>
          match answer with
          | .error halt => exact ⟨[], _, .last read (by simp)⟩
          | .ok none => exact ⟨[], _, .last read (by simp)⟩
          | .ok (some message) =>
              have shorter : after.source.size < n := by
                rw [← size]
                exact readMessage_size read
              obtain ⟨messages, last, more⟩ := ih _ shorter after rfl
              exact ⟨message :: messages, last, .message read more⟩

theorem Alike.gives (alike : Alike first second) (gives : first.Gives messages last) :
    second.Gives messages last := by
  induction gives generalizing second with
  | last read noMessage =>
      obtain ⟨answer, here, there, answerHere, answerThere, -⟩ := alike.readMessage
      rw [read] at answerHere
      cases answerHere
      exact .last answerThere noMessage
  | message read more ih =>
      obtain ⟨answer, here, there, answerHere, answerThere, after⟩ := alike.readMessage
      rw [read] at answerHere
      cases answerHere
      exact .message answerThere (ih after)

theorem Patient.gives (patient : reader.Patient) (gives : reader.untimed.Gives messages last) :
    reader.Gives messages last := by
  generalize free : reader.untimed = other at gives
  induction gives generalizing reader with
  | last read noMessage =>
      obtain ⟨answer, after, timed, untimed, -⟩ := patient.readMessage
      rw [free, read] at untimed
      cases untimed
      exact .last timed noMessage
  | message read more ih =>
      obtain ⟨answer, after, timed, untimed, patient⟩ := patient.readMessage
      rw [free, read] at untimed
      cases untimed
      exact .message timed (ih patient rfl)

theorem gives_of_untimed {source : Source} (awaits : limits.Awaits source)
    (gives : (start { limits with readTimeout := none } source).Gives messages last) :
    (start limits source).Gives messages last := by
  rcases awaits.comes with untimed | comes
  · have same : { limits with readTimeout := none } = limits := by rw [← untimed]
    rwa [same] at gives
  · have patient : (start limits source).Patient := by
      refine ⟨comes, ?_⟩
      intro ms limited
      obtain ⟨timeout, timed, rfl⟩ := Option.map_eq_some_iff.mp limited
      exact awaits.outlasts timeout timed
    exact patient.gives gives

/-- In front of complete frames a reader gives their messages, and then what it gives behind them. -/
theorem Before.gives_frames {frames : List Bytes} {rest : List Signal}
    (carries : List.Forall₂ (Carries limits.maxFrameSize) frames messages)
    (before : Before limits (Signal.ofBytes frames.flatten ++ rest) reader) :
    ∃ after, Before limits rest after ∧
      ∀ more last, after.Gives more last → reader.Gives (messages ++ more) last := by
  induction carries generalizing reader with
  | nil => exact ⟨reader, before, fun _ _ gives => gives⟩
  | @cons frame message frames messages first more ih =>
      rw [List.flatten_cons, Signal.ofBytes_append, List.append_assoc] at before
      obtain ⟨body, next, read, decoded, before⟩ := before.carries first
      obtain ⟨after, before, onward⟩ := ih before
      have came : reader.readMessage = (.ok (some message), next) := by
        simp only [Reader.readMessage, read, decoded]
      exact ⟨after, before, fun more last gives => .message came (onward more last gives)⟩

theorem gives_frames {source : Source} {frames : List Bytes}
    (carries : List.Forall₂ (Carries limits.maxFrameSize) frames messages)
    (script : source.signals = Signal.ofBytes frames.flatten) (outlasts : limits.Outlasts source) :
    (start limits source).Gives messages (.ok none) := by
  let free : Limits := { limits with readTimeout := none }
  have before : Before free (Signal.ofBytes frames.flatten ++ []) (start free source) :=
    ⟨rfl, rfl, by rw [List.append_nil]; exact script⟩
  have carriesFree : List.Forall₂ (Carries free.maxFrameSize) frames messages := carries
  obtain ⟨after, left, onward⟩ := before.gives_frames carriesFree
  obtain ⟨over_, read, -⟩ := left.answers .nothing
  have patient : (start limits source).Patient := patient_of_outlasts script outlasts
  have gives := onward [] (.ok none) (.last read (by simp))
  rw [List.append_nil] at gives
  exact patient.gives gives

theorem gives_behind_frames {first second : Source} {firstFrames secondFrames : List Bytes}
    {firstMessages secondMessages : List Envelope} {tail : List Signal}
    (firstCarries : List.Forall₂ (Carries limits.maxFrameSize) firstFrames firstMessages)
    (secondCarries : List.Forall₂ (Carries limits.maxFrameSize) secondFrames secondMessages)
    (firstScript : first.signals = Signal.ofBytes firstFrames.flatten ++ tail)
    (secondScript : second.signals = Signal.ofBytes secondFrames.flatten ++ tail)
    (firstAwaits : limits.Awaits first) (secondAwaits : limits.Awaits second) :
    ∃ more last, (start limits first).Gives (firstMessages ++ more) last ∧
      (start limits second).Gives (secondMessages ++ more) last := by
  let free : Limits := { limits with readTimeout := none }
  have firstFree : List.Forall₂ (Carries free.maxFrameSize) firstFrames firstMessages := firstCarries
  have secondFree : List.Forall₂ (Carries free.maxFrameSize) secondFrames secondMessages :=
    secondCarries
  have beforeFirst : Before free _ (start free first) := ⟨rfl, rfl, firstScript⟩
  have beforeSecond : Before free _ (start free second) := ⟨rfl, rfl, secondScript⟩
  obtain ⟨behindFirst, leftFirst, onwardFirst⟩ := beforeFirst.gives_frames firstFree
  obtain ⟨behindSecond, leftSecond, onwardSecond⟩ := beforeSecond.gives_frames secondFree
  have alike : Alike behindFirst behindSecond := by
    refine ⟨leftFirst.limited.trans leftSecond.limited.symm, ?_,
      leftFirst.script.trans leftSecond.script.symm⟩
    rw [leftFirst.limited]
  obtain ⟨more, last, gives⟩ := behindFirst.gives_total
  exact ⟨more, last, gives_of_untimed firstAwaits (onwardFirst more last gives),
    gives_of_untimed secondAwaits (onwardSecond more last (alike.gives gives))⟩

end Frame.Reader

namespace Session

/-- A session over what its reader gives: the sink that is left, and how the session ends. -/
def hear (identity : Identity) (last : Except Halt (Option Envelope)) (lifecycle : Lifecycle)
    (sink : Sink) : List Envelope → Sink × Ending
  | [] => (sink, endingWith last)
  | message :: rest =>
      match dispatch identity lifecycle message with
      | (.noReply, after) => hear identity last after sink rest
      | (.exit, after) => (sink, .exit after.exitedCleanly)
      | (.reply response, after) =>
          match Frame.write sink response with
          | (.ok (.written _), sink) => hear identity last after sink rest
          | (.ok .peerClosed, sink) => (sink, .peerClosed)
          | (.error error, sink) => (sink, .failed (.io error))

theorem turn_message (server : Server) {state : State} {after : Frame.Reader} {message : Envelope}
    (read : state.reader.readMessage = (.ok (some message), after)) :
    ∃ size, turn server state = answer server { state with reader := after } size message := by
  unfold Frame.Reader.readMessage at read
  split at read
  · cases read
  · cases read
  · rename_i body next came
    split at read
    · cases read
    · rename_i other decoded
      cases read
      refine ⟨body.length, ?_⟩
      simp only [turn, came, decoded]

theorem serveFrom_hear (server : Server) {state : State} {messages : List Envelope}
    {last : Except Halt (Option Envelope)} (gives : state.reader.Gives messages last) :
    ((serveFrom server state).close.state.sink, (serveFrom server state).ending) =
      hear server.identity last state.lifecycle state.sink messages := by
  generalize same : state.reader = reader at gives
  induction gives generalizing state with
  | last read noMessage =>
      rw [← same] at read
      obtain ⟨refused, step⟩ := (turn_round server state).ends read noMessage
      rw [serveFrom_stops step]
      rfl
  | @message reader after message messages last read more ih =>
      rw [← same] at read
      obtain ⟨size, step⟩ := turn_message server read
      unfold answer at step
      rw [hear]
      cases met : dispatch server.identity state.lifecycle message with
      | mk outcome lifecycle =>
          simp only [met] at step
          cases outcome with
          | noReply =>
              rw [serveFrom_goesOn step]
              exact ih rfl
          | exit =>
              rw [serveFrom_stops step]
              rfl
          | reply response =>
              dsimp only at step ⊢
              cases sent : Frame.write state.sink response with
              | mk status sink =>
                  simp only [sent] at step
                  match status with
                  | .ok (.written bytes) =>
                      rw [serveFrom_goesOn step]
                      exact ih rfl
                  | .ok .peerClosed =>
                      rw [serveFrom_stops step]
                      rfl
                  | .error error =>
                      rw [serveFrom_stops step]
                      rfl

section Hearing

variable (identity : Identity) {lifecycle : Lifecycle} {sink : Sink}
  (last : Except Halt (Option Envelope))

theorem hear_exit {message : Envelope} (isExit : message.isExit = true) (rest : List Envelope) :
    hear identity last lifecycle sink (message :: rest) =
      (sink, .exit (lifecycle.apply .exit).exitedCleanly) := by
  have met := dispatch_exit identity lifecycle (Envelope.isExit_iff.mp isExit)
  simp only [hear, met]

/-- With a sink that takes everything the replies to the messages in front of an exit are written, and
the exit, or the last answer, is the end. -/
theorem hear_takesAll (running : lifecycle.phase ≠ .exited) (takesAll : sink.TakesAll)
    (messages : List Envelope) :
    let heard := messages.takeWhile (!·.isExit)
    hear identity last lifecycle sink messages =
      (sink.take ((exchanges identity lifecycle heard).flatMap Exchange.frame),
        if messages.any Envelope.isExit then
          .exit ((lifecycleAfter identity lifecycle heard).apply .exit).exitedCleanly
        else endingWith last) := by
  induction messages generalizing lifecycle sink with
  | nil => simp [hear, exchanges, Sink.take]
  | cons message rest ih =>
      by_cases isExit : message.isExit = true
      · rw [hear_exit identity last isExit]
        simp [isExit, exchanges, Sink.take, lifecycleAfter]
      · have other : message.method ≠ "build/exit" := mt Envelope.isExit_iff.mpr isExit
        obtain ⟨-, noExit, goesOn⟩ := dispatch_owed identity running other
        have first : (message :: rest).takeWhile (!·.isExit) =
            message :: rest.takeWhile (!·.isExit) :=
          List.takeWhile_cons_of_pos (by simp [isExit])
        dsimp only at ih ⊢
        rw [first, exchanges, hear, List.any_cons, Bool.eq_false_iff.mpr isExit, Bool.false_or]
        simp only [lifecycleAfter, List.foldl_cons, List.flatMap_cons]
        generalize dispatch identity lifecycle message = dispatched at noExit goesOn ⊢
        obtain ⟨outcome, after⟩ := dispatched
        cases outcome with
        | noReply => exact ih goesOn takesAll
        | exit => exact absurd rfl noExit
        | reply response =>
            simp only [Frame.write_takesAll takesAll]
            rw [ih goesOn (takesAll.take _)]
            simp [Exchange.frame, Exchange.reply?, Outcome.reply?, Sink.take, lifecycleAfter]

theorem hear_front (running : lifecycle.phase ≠ .exited) (messages : List Envelope) :
    (hear identity last lifecycle sink messages).1.taken <+: sink.taken ++
      (exchanges identity lifecycle (messages.takeWhile (!·.isExit))).flatMap Exchange.frame := by
  induction messages generalizing lifecycle sink with
  | nil => simp [hear, exchanges]
  | cons message rest ih =>
      by_cases isExit : message.isExit = true
      · rw [hear_exit identity last isExit]
        exact List.prefix_append _ _
      · have other : message.method ≠ "build/exit" := mt Envelope.isExit_iff.mpr isExit
        obtain ⟨-, noExit, goesOn⟩ := dispatch_owed identity running other
        rw [List.takeWhile_cons_of_pos (by simp [isExit]), exchanges, hear]
        simp only [List.flatMap_cons]
        generalize dispatch identity lifecycle message = dispatched at noExit goesOn ⊢
        obtain ⟨outcome, after⟩ := dispatched
        cases outcome with
        | noReply => exact ih goesOn
        | exit => exact absurd rfl noExit
        | reply response =>
            have frame : Exchange.frame ⟨message, lifecycle, .reply response, after⟩ =
                Frame.encode response := by
              simp [Exchange.frame, Exchange.reply?, Outcome.reply?]
            obtain ⟨part, inFront, taken, whole⟩ := Frame.write_front sink response
            have front := (List.prefix_append_right_inj sink.taken).mpr inFront
            rw [← taken] at front
            dsimp only
            rw [frame, ← List.append_assoc]
            cases sent : Frame.write sink response with
            | mk status written =>
                rw [sent] at front taken whole
                cases status with
                | error error => exact front.trans (List.prefix_append _ _)
                | ok came =>
                    cases came with
                    | peerClosed => exact front.trans (List.prefix_append _ _)
                    | written bytes =>
                        rw [← whole bytes rfl, ← taken]
                        exact ih goesOn

/-- What is behind an exit is not heard, whatever the sink is. -/
theorem hear_up_to_exit (other : Except Halt (Option Envelope)) {messages : List Envelope}
    (exits : ∃ message ∈ messages, message.isExit = true) (more : List Envelope) :
    hear identity last lifecycle sink (messages ++ more) =
      hear identity other lifecycle sink messages := by
  induction messages generalizing lifecycle sink with
  | nil => simp at exits
  | cons message rest ih =>
      by_cases isExit : message.isExit = true
      · rw [List.cons_append, hear_exit identity last isExit, hear_exit identity other isExit]
      · have later : ∃ message ∈ rest, message.isExit = true := by
          obtain ⟨exit, member, found⟩ := exits
          rcases List.mem_cons.mp member with rfl | behind
          · exact absurd found isExit
          · exact ⟨exit, behind, found⟩
        rw [List.cons_append, hear, hear]
        simp only [ih later]

end Hearing

/-- A session from its start, by what its reader gives: what it writes is the front of the replies to
the messages in front of an exit. A sink that takes everything gets all of them, and then the session
ends with the exit, or with the last answer. -/
theorem serve_gives {server : Server} {source : Source} {messages : List Envelope}
    {last : Except Halt (Option Envelope)}
    (gives : (Frame.Reader.start server.limits source).Gives messages last) (sink : Sink) :
    let heard := messages.takeWhile (!·.isExit)
    let frames := (exchanges server.identity (.start server.strict) heard).flatMap Exchange.frame
    let run := serve server source sink
    run.output <+: sink.taken ++ frames ∧
      (sink.TakesAll → run.output = sink.taken ++ frames ∧
        run.ending =
          if messages.any Envelope.isExit then
            .exit ((lifecycleAfter server.identity (.start server.strict) heard).apply
              .exit).exitedCleanly
          else endingWith last) := by
  intro heard frames run
  have running : (Lifecycle.start server.strict).phase ≠ .exited := by simp [Lifecycle.start]
  have started : (start server source sink).reader.Gives messages last := gives
  obtain ⟨output, ending⟩ := Prod.mk.inj (serveFrom_hear server started)
  constructor
  · change (serveFrom server (start server source sink)).close.state.sink.taken <+: _
    rw [output]
    exact hear_front server.identity last running messages
  · intro takesAll
    have all := hear_takesAll server.identity last running takesAll messages
    constructor
    · change (serveFrom server (start server source sink)).close.state.sink.taken = _
      rw [output]
      exact congrArg (fun heard => heard.1.taken) all
    · change (serveFrom server (start server source sink)).ending = _
      rw [ending]
      exact congrArg Prod.snd all

theorem serve_up_to_exit {server : Server} {source other : Source} {messages more : List Envelope}
    {last otherLast : Except Halt (Option Envelope)}
    (exits : ∃ message ∈ messages, message.isExit = true)
    (gives : (Frame.Reader.start server.limits source).Gives (messages ++ more) last)
    (givesOther : (Frame.Reader.start server.limits other).Gives messages otherLast) (sink : Sink) :
    (serve server source sink).output = (serve server other sink).output ∧
      (serve server source sink).ending = (serve server other sink).ending := by
  have started : (start server source sink).reader.Gives (messages ++ more) last := gives
  have startedOther : (start server other sink).reader.Gives messages otherLast := givesOther
  have heard := serveFrom_hear server started
  have heardOther := serveFrom_hear server startedOther
  have same : ((serveFrom server (start server source sink)).close.state.sink,
        (serveFrom server (start server source sink)).ending) =
      ((serveFrom server (start server other sink)).close.state.sink,
        (serveFrom server (start server other sink)).ending) := by
    rw [heard, heardOther]
    exact hear_up_to_exit server.identity last otherLast exits more
  obtain ⟨sinks, endings⟩ := Prod.mk.inj same
  exact ⟨congrArg Sink.taken sinks, endings⟩

theorem serve_to_the_last {server : Server} {source : Source} {messages : List Envelope}
    {last : Except Halt (Option Envelope)} {sink : Sink}
    (gives : (Frame.Reader.start server.limits source).Gives messages last)
    (noExit : ∀ message ∈ messages, message.method ≠ "build/exit") (takesAll : sink.TakesAll) :
    (serve server source sink).output = sink.taken ++
        (replies server.identity (.start server.strict) messages).flatMap Frame.encode ∧
      (serve server source sink).ending = endingWith last := by
  obtain ⟨-, whole⟩ := serve_gives gives sink
  obtain ⟨output, ending⟩ := whole takesAll
  have goesOn : ∀ message ∈ messages, message.isExit = false := by
    intro message member
    rw [Bool.eq_false_iff, Ne, Envelope.isExit_iff]
    exact noExit message member
  have all : messages.takeWhile (!·.isExit) = messages := by
    apply List.takeWhile_eq_self_iff.mpr
    intro message member
    rw [goesOn message member]
    rfl
  have none_ : messages.any Envelope.isExit = false := by
    apply List.any_eq_false.mpr
    intro message member
    rw [goesOn message member]
    exact Bool.false_ne_true
  rw [all] at output
  rw [none_] at ending
  rw [replies_frames]
  exact ⟨output, ending⟩

theorem serve_frames_with_exit {server : Server} {frames : List Bytes} {messages : List Envelope}
    {source : Source} {behind : List Signal}
    (carries : List.Forall₂ (Frame.Carries server.limits.maxFrameSize) frames messages)
    (exits : ∃ message ∈ messages, message.method = "build/exit")
    (script : source.signals = Signal.ofBytes frames.flatten ++ behind)
    (untimed : server.limits.readTimeout = none) (sink : Sink) :
    let run := serve server source sink
    let whole := serve server [.bytes frames.flatten] sink
    run.output = whole.output ∧ run.ending = whole.ending ∧
      (sink.TakesAll → ∃ clean, run.ending = .exit clean) := by
  have heardExit : ∃ message ∈ messages, message.isExit = true := by
    obtain ⟨message, member, isExit⟩ := exits
    exact ⟨message, member, Envelope.isExit_iff.mpr isExit⟩
  have before : Frame.Reader.Before server.limits (Signal.ofBytes frames.flatten ++ behind)
      (.start server.limits source) := ⟨rfl, untimed, script⟩
  obtain ⟨after, -, onward⟩ := before.gives_frames carries
  obtain ⟨more, last, left⟩ := after.gives_total
  have wholeScript : Source.signals [.bytes frames.flatten] = Signal.ofBytes frames.flatten :=
    List.append_nil _
  have gives := onward more last left
  have givesWhole := Frame.Reader.gives_frames carries wholeScript
    (Limits.outlasts_of_untimed untimed _)
  obtain ⟨output, ending⟩ := serve_up_to_exit heardExit gives givesWhole sink
  refine ⟨output, ending, ?_⟩
  intro takesAll
  have exit := ((serve_gives givesWhole sink).2 takesAll).2
  rw [if_pos (List.any_eq_true.mpr heardExit)] at exit
  exact ⟨_, ending.trans exit⟩

end Session
end BuildPeer
