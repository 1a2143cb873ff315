import BuildPeer.Proofs.Boundaries
import BuildPeer.Proofs.Patience
import Mathlib.Data.Fin.VecNotation
import Mathlib.Data.List.FinRange
import Mathlib.Logic.Equiv.Basic

/-!
A dispatcher that allows everything has a phase, and its messages move it back and forth, but no
answer shows it. As long as there is no exit, what a message meets is a function of the message alone
(`openOutcome`), so a session answers the same frames in another order with the same replies in that
order.
-/

namespace BuildPeer

/-- What a message meets at a dispatcher that allows everything and is not over. -/
def openOutcome (identity : Identity) (message : Envelope) : Outcome :=
  match Route.find? message.method with
  | none => .toRequest message (.unhandledMethod · message.method)
  | some route => route.answer identity message

theorem Lifecycle.check_open {lifecycle : Lifecycle} (open_ : lifecycle.strict = false)
    (event : Event) : lifecycle.check event = .ok () := by
  simp [Lifecycle.check, open_]

section Outcomes

variable (identity : Identity) {lifecycle : Lifecycle} {message : Envelope}

theorem dispatch_open (open_ : lifecycle.strict = false) (running : lifecycle.phase ≠ .exited)
    (message : Envelope) :
    (dispatch identity lifecycle message).1 = openOutcome identity message := by
  unfold openOutcome
  cases found : Route.find? message.method with
  | none =>
      have judged : judge lifecycle message.method = .unknown := by
        rw [judge, found]
      rw [dispatch, judged]
  | some route =>
      have judged : judge lifecycle message.method = .accepted route := by
        rw [judge, found]
        dsimp only
        rw [Lifecycle.check_open open_]
      exact dispatch_accepted identity running judged

theorem exchanges_open (open_ : lifecycle.strict = false) (running : lifecycle.phase ≠ .exited)
    {messages : List Envelope} (noExit : ∀ message ∈ messages, message.method ≠ "build/exit") :
    (exchanges identity lifecycle messages).map Exchange.outcome =
      messages.map (openOutcome identity) := by
  induction messages generalizing lifecycle with
  | nil => rfl
  | cons message rest ih =>
      obtain ⟨first, others⟩ := List.forall_mem_cons.mp noExit
      have goesOn := (dispatch_owed identity running first).2.2
      have openAfter : (dispatch identity lifecycle message).2.strict = false := by
        rw [dispatch_strict]
        exact open_
      have more := ih openAfter goesOn others
      rw [exchanges, List.map_cons, List.map_cons, more, dispatch_open identity open_ running]

theorem openOutcome_unknown (unknown : ∀ route ∈ routes, route.method ≠ message.method) :
    openOutcome identity message = .toRequest message (.unhandledMethod · message.method) := by
  have notFound : Route.find? message.method = none := by
    cases found : Route.find? message.method with
    | none => rfl
    | some route =>
        obtain ⟨member, named⟩ := Route.find?_eq_some_iff.mp found
        exact absurd named (unknown route member)
  rw [openOutcome, notFound]

theorem openOutcome_known {route : Route} (member : route ∈ routes)
    (named : route.method = message.method) (noExit : message.method ≠ "build/exit") :
    openOutcome identity message =
      match route.handler with
      | some handler => .toRequest message (.result · (handler.result identity))
      | none => .noReply := by
  have goesOn : route.event ≠ .exit := by
    rw [Ne, (Route.event_eq_iff member).2, named]
    exact noExit
  rw [openOutcome, Route.find?_eq_some_iff.mpr ⟨member, named⟩]
  exact if_neg goesOn

theorem openOutcome_error_iff (noExit : message.method ≠ "build/exit") :
    (∃ response, openOutcome identity message = .reply response ∧ response.isError = true) ↔
      (∃ id, message.id? = some id) ∧ ∀ route ∈ routes, route.method ≠ message.method := by
  by_cases known : ∃ route ∈ routes, route.method = message.method
  · obtain ⟨route, member, named⟩ := known
    rw [openOutcome_known identity member named noExit]
    constructor
    · rintro ⟨response, met, isError⟩
      cases handled : route.handler with
      | none => simp [handled] at met
      | some handler =>
          rw [handled] at met
          cases asked : message.id? with
          | none => simp [Outcome.toRequest, asked] at met
          | some id =>
              simp only [Outcome.toRequest, asked, Outcome.reply.injEq] at met
              rw [← met] at isError
              cases isError
    · rintro ⟨-, unknown⟩
      exact absurd named (unknown route member)
  · have unknown : ∀ route ∈ routes, route.method ≠ message.method :=
      fun route member named => known ⟨route, member, named⟩
    rw [openOutcome_unknown identity unknown]
    cases asked : message.id? with
    | none => simp [Outcome.toRequest, asked]
    | some id =>
        simp only [Outcome.toRequest, asked]
        exact ⟨fun _ => ⟨⟨id, rfl⟩, unknown⟩, fun _ => ⟨_, rfl, rfl⟩⟩

end Outcomes

def openReply (identity : Identity) (message : Envelope) : Bytes :=
  (openOutcome identity message).reply?.toList.flatMap Frame.encode

theorem replies_open (identity : Identity) {lifecycle : Lifecycle}
    (open_ : lifecycle.strict = false) (running : lifecycle.phase ≠ .exited)
    {messages : List Envelope} (noExit : ∀ message ∈ messages, message.method ≠ "build/exit") :
    (replies identity lifecycle messages).flatMap Frame.encode =
      messages.flatMap (openReply identity) := by
  have outcomes : replies identity lifecycle messages =
      (messages.map (openOutcome identity)).filterMap Outcome.reply? := by
    rw [← exchanges_open identity open_ running noExit, List.filterMap_map]
    rfl
  rw [outcomes, List.filterMap_map, List.filterMap_eq_flatMap_toList, List.flatMap_assoc]
  rfl

namespace Session

theorem serve_open {server : Server} (open_ : server.strict = false) {frames : List Bytes}
    {messages : List Envelope}
    (carries : List.Forall₂ (Frame.Carries server.limits.maxFrameSize) frames messages)
    (noExit : ∀ message ∈ messages, message.method ≠ "build/exit") {source : Source}
    (script : source.signals = Signal.ofBytes frames.flatten)
    (outlasts : server.limits.Outlasts source) {sink : Sink} (takesAll : sink.TakesAll) :
    (serve server source sink).output =
      sink.taken ++ messages.flatMap (openReply server.identity) := by
  -- The timeout does not strike, so the session may be taken without it.
  let free : Server := { server with limits := { server.limits with readTimeout := none } }
  have running : (Lifecycle.start free.strict).phase ≠ .exited := by simp [Lifecycle.start]
  have ready : State.Ready free (Signal.ofBytes (frames.flatten ++ [])) (start free source sink) := by
    rw [List.append_nil]
    exact .of_start rfl script takesAll
  obtain ⟨-, output, -⟩ := ready.serve_ends carries noExit .nothing (by simp)
  obtain ⟨-, same⟩ := serve_untimed script outlasts sink
  rw [← same, ← replies_open server.identity open_ running noExit]
  exact output

/-- A dispatcher that allows everything answers without a state: in front of the exit each message of
a run meets what it would meet alone. That is an error only for a request whose method is not in the
table, and then the one that says so; for a method of the table it is the result of the handler, if
it is a request and there is a handler, and nothing otherwise. So complete frames without an exit,
sent in two orders, get the same replies in the same two orders. -/
theorem permissive_is_stateless :
    (∀ (identity : Identity) (messages : List Envelope),
      (∀ message ∈ messages, message.method ≠ "build/exit") →
      (exchanges identity (.start false) messages).map Exchange.outcome =
        messages.map fun message => (dispatch identity (.start false) message).1) ∧
    (∀ (identity : Identity) (message : Envelope), message.method ≠ "build/exit" →
      let outcome := (dispatch identity (.start false) message).1
      ((∃ response, outcome = .reply response ∧ response.isError = true) ↔
          (∃ id, message.id? = some id) ∧ ∀ route ∈ routes, route.method ≠ message.method) ∧
        (∀ response, outcome = .reply response → response.isError = true →
          ∃ id, message.id? = some id ∧
            response = .error id 123 ("unhandled method " ++ message.method)) ∧
        ∀ route ∈ routes, route.method = message.method →
          (∀ id handler, message.id? = some id → route.handler = some handler →
            outcome = .reply (.result id (handler.result identity))) ∧
          (message.id? = none ∨ route.handler = none → outcome = .noReply)) ∧
    ∀ (server : Server), server.strict = false →
      ∀ (n : Nat) (frames : Fin n → Bytes) (messages : Fin n → Envelope),
      (∀ i, Frame.Carries server.limits.maxFrameSize (frames i) (messages i)) →
      (∀ i, (messages i).method ≠ "build/exit") →
      ∀ (order : Equiv.Perm (Fin n)) (given reordered : Source),
      given.signals = Signal.ofBytes (List.ofFn frames).flatten →
      reordered.signals = Signal.ofBytes (List.ofFn (frames ∘ order)).flatten →
      server.limits.Outlasts given → server.limits.Outlasts reordered →
      ∀ (sink : Sink), sink.TakesAll →
        let reply (i : Fin n) : Bytes :=
          (dispatch server.identity (.start false) (messages i)).1.reply?.toList.flatMap Frame.encode
        (serve server given sink).output = sink.taken ++ (List.ofFn reply).flatten ∧
          (serve server reordered sink).output =
            sink.taken ++ (List.ofFn (reply ∘ order)).flatten := by
  have running : (Lifecycle.start false).phase ≠ .exited := by simp [Lifecycle.start]
  have alone (identity : Identity) (message : Envelope) :
      (dispatch identity (.start false) message).1 = openOutcome identity message :=
    dispatch_open identity rfl running message
  refine ⟨?_, ?_, ?_⟩
  · intro identity messages noExit
    rw [exchanges_open identity rfl running noExit]
    exact List.map_congr_left fun message _ => (alone identity message).symm
  · intro identity message noExit outcome
    have same : outcome = openOutcome identity message := alone identity message
    rw [same]
    have isError := openOutcome_error_iff identity noExit
    refine ⟨isError, ?_, ?_⟩
    · intro response met erroneous
      obtain ⟨⟨id, asked⟩, unknown⟩ := isError.mp ⟨response, met, erroneous⟩
      rw [openOutcome_unknown identity unknown, Outcome.toRequest, asked] at met
      exact ⟨id, asked, (Outcome.reply.inj met).symm⟩
    · intro route member named
      rw [openOutcome_known identity member named noExit]
      constructor
      · intro id handler asked handled
        rw [handled]
        simp only [Outcome.toRequest, asked]
      · rintro (notified | unhandled)
        · cases route.handler with
          | none => rfl
          | some handler => simp only [Outcome.toRequest, notified]
        · rw [unhandled]
  · intro server open_ n frames messages carries noExit order given reordered givenIs reorderedIs
      inTime reorderedInTime sink takesAll reply
    have same : reply = openReply server.identity ∘ messages := by
      funext i
      change (dispatch server.identity (.start false) (messages i)).1.reply?.toList.flatMap _ = _
      rw [alone]
      rfl
    -- One session at a time: the order as it is given is the one of `id`.
    have output (order : Fin n → Fin n) (source : Source)
        (script : source.signals = Signal.ofBytes (List.ofFn (frames ∘ order)).flatten)
        (outlasts : server.limits.Outlasts source) :
        (serve server source sink).output = sink.taken ++ (List.ofFn (reply ∘ order)).flatten := by
      have all : List.Forall₂ (Frame.Carries server.limits.maxFrameSize)
          (List.ofFn (frames ∘ order)) (List.ofFn (messages ∘ order)) := by
        rw [List.ofFn_eq_map, List.ofFn_eq_map, List.forall₂_map_left_iff,
          List.forall₂_map_right_iff, List.forall₂_same]
        exact fun i _ => carries (order i)
      have noExit : ∀ message ∈ List.ofFn (messages ∘ order), message.method ≠ "build/exit" := by
        rw [List.ofFn_eq_map]
        exact List.forall_mem_map.mpr fun i _ => noExit (order i)
      rw [serve_open open_ all noExit script outlasts takesAll, List.flatMap_def, List.map_ofFn, same]
      rfl
    exact ⟨output id given givenIs inTime, output order reordered reorderedIs reorderedInTime⟩

/-- A request to shut down and a request with an unknown method, in both orders. -/
theorem permissive_is_stateless_swapped :
    ∃ shutdown unknown : Accepted,
      shutdown.text = "[\"\",1,\"build/shutdown\"]".toList ∧
      unknown.text = "[\"\",2,\"build/compile\"]".toList ∧
      let done := Frame.encode (.result (.integer 1) .null)
      let refused := Frame.encode (.error (.integer 2) 123 "unhandled method build/compile")
      (serve {} [.bytes shutdown.frame, .bytes unknown.frame] {}).output = done ++ refused ∧
        (serve {} [.bytes unknown.frame, .pause 3, .bytes shutdown.frame] {}).output =
          refused ++ done := by
  obtain ⟨shutdown, shutdownText, shutdownIs, shutdownFits⟩ := Accepted.exists_of_decode
    "[\"\",1,\"build/shutdown\"]".toList (.request (.integer 1) "build/shutdown" none)
    (by decide +kernel) (by decide)
  obtain ⟨unknown, unknownText, unknownIs, unknownFits⟩ := Accepted.exists_of_decode
    "[\"\",2,\"build/compile\"]".toList (.request (.integer 2) "build/compile" none)
    (by decide +kernel) (by decide)
  refine ⟨shutdown, unknown, shutdownText, unknownText, ?_⟩
  intro done refused
  have carries : ∀ i, Frame.Carries (Limits.maxFrameSize {})
      (![shutdown.frame, unknown.frame] i) (![shutdown.message, unknown.message] i) :=
    Fin.forall_fin_two.mpr ⟨Accepted.carries shutdownFits, Accepted.carries unknownFits⟩
  have noExit : ∀ i, (![shutdown.message, unknown.message] i).method ≠ "build/exit" := by
    refine Fin.forall_fin_two.mpr ⟨?_, ?_⟩
    · simp [shutdownIs, Envelope.method]
    · simp [unknownIs, Envelope.method]
  have sessions := permissive_is_stateless.2.2 {} rfl 2 _ _ carries noExit (Equiv.swap 0 1)
    [.bytes shutdown.frame, .bytes unknown.frame]
    [.bytes unknown.frame, .pause 3, .bytes shutdown.frame]
    (by simp [Source.signals, Signal.ofBytes]) (by simp [Source.signals, Signal.ofBytes])
    (Limits.outlasts_of_untimed rfl _) (Limits.outlasts_of_untimed rfl _) {} ⟨rfl, by decide, rfl⟩
  have doneIs : (dispatch {} (.start false) shutdown.message).1 =
      .reply (.result (.integer 1) .null) := by
    rw [shutdownIs]
    rfl
  have refusedIs : (dispatch {} (.start false) unknown.message).1 =
      .reply (.error (.integer 2) 123 "unhandled method build/compile") := by
    rw [unknownIs]
    rfl
  simpa [doneIs, refusedIs, Outcome.reply?, done, refused] using sessions

end Session
end BuildPeer
