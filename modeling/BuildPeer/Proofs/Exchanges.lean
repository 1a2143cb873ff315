import BuildPeer.Dispatch

/-!
What a list of messages meets at a dispatcher, one after another: before the exit every message gets
the reply it is owed. `owed` says that from the message and the lifecycle in front of it alone.
-/

namespace BuildPeer

structure Exchange where
  message : Envelope
  before : Lifecycle
  outcome : Outcome
  after : Lifecycle
  deriving DecidableEq, Repr

def Outcome.reply? : Outcome → Option Response
  | .reply response => some response
  | .noReply => none
  | .exit => none

def Exchange.reply? (exchange : Exchange) : Option Response :=
  exchange.outcome.reply?

def Exchange.isExit (exchange : Exchange) : Bool :=
  exchange.message.method == "build/exit"

def exchanges (identity : Identity) (lifecycle : Lifecycle) : List Envelope → List Exchange
  | [] => []
  | message :: rest =>
      let (outcome, after) := dispatch identity lifecycle message
      ⟨message, lifecycle, outcome, after⟩ :: exchanges identity after rest

def lifecycleAfter (identity : Identity) (lifecycle : Lifecycle) (messages : List Envelope) :
    Lifecycle :=
  messages.foldl (fun lifecycle message => (dispatch identity lifecycle message).2) lifecycle

/-- The id of the reply that a message gets before the exit. A notification gets none, and nor does
a request to note that the client is initialized, where that is accepted: no handler answers it. -/
def owed (before : Lifecycle) (message : Envelope) : Option Json :=
  if message.method = "build/initialized" ∧ (before.check .initialized).isOk then none
  else message.id?

def Exchange.owed (exchange : Exchange) : Option Json :=
  BuildPeer.owed exchange.before exchange.message

-- The table of methods.

theorem Route.find?_eq_some_iff {method : String} {route : Route} :
    Route.find? method = some route ↔ route ∈ routes ∧ route.method = method := by
  constructor
  · intro found
    have hit := List.find?_some found
    exact ⟨List.mem_of_find?_eq_some found, by simpa using hit⟩
  · rintro ⟨member, rfl⟩
    revert member
    simp only [routes, List.mem_cons, List.not_mem_nil, or_false]
    rintro (rfl | rfl | rfl | rfl | rfl) <;> decide

theorem Route.handler_eq_none_iff {route : Route} (member : route ∈ routes) :
    route.handler = none ↔ route.event = .initialized ∨ route.event = .exit := by
  simp only [routes, List.mem_cons, List.not_mem_nil, or_false] at member
  rcases member with rfl | rfl | rfl | rfl | rfl <;> simp

theorem Route.event_eq_iff {route : Route} (member : route ∈ routes) :
    (route.event = .initialized ↔ route.method = "build/initialized") ∧
      (route.event = .exit ↔ route.method = "build/exit") := by
  simp only [routes, List.mem_cons, List.not_mem_nil, or_false] at member
  rcases member with rfl | rfl | rfl | rfl | rfl <;> simp

@[simp]
theorem Lifecycle.check_exit (l : Lifecycle) : l.check .exit = .ok () := by
  unfold Lifecycle.check
  split
  · rfl
  · cases l.phase <;> rfl

theorem Lifecycle.apply_exited_iff {l : Lifecycle} (running : l.phase ≠ .exited) (event : Event) :
    (l.apply event).phase = .exited ↔ event = .exit := by
  cases event <;> simp [Lifecycle.apply, running]

-- One message.

theorem Outcome.reply?_eq_some_iff {outcome : Outcome} {response : Response} :
    outcome.reply? = some response ↔ outcome = .reply response := by
  cases outcome <;> simp [Outcome.reply?]

theorem Outcome.id_toRequest (message : Envelope) (reply : Json → Response)
    (keeps : ∀ id, (reply id).id = id) :
    (Outcome.toRequest message reply).reply?.map (·.id) = message.id? := by
  cases message with
  | request id method params => simp [Outcome.toRequest, Envelope.id?, Outcome.reply?, keeps]
  | notification method params => simp [Outcome.toRequest, Envelope.id?, Outcome.reply?]

theorem Outcome.toRequest_ne_exit (message : Envelope) (reply : Json → Response) :
    Outcome.toRequest message reply ≠ .exit := by
  cases message <;> simp [Outcome.toRequest, Envelope.id?]

theorem dispatch_exit (identity : Identity) (lifecycle : Lifecycle) {message : Envelope}
    (isExit : message.method = "build/exit") :
    dispatch identity lifecycle message = (.exit, lifecycle.apply .exit) := by
  have found : Route.find? "build/exit" = some ⟨"build/exit", .exit, none⟩ :=
    Route.find?_eq_some_iff.mpr (by decide)
  have judged : judge lifecycle "build/exit" = .accepted ⟨"build/exit", .exit, none⟩ := by
    simp [judge, found]
  have over_ : (lifecycle.apply .exit).phase = .exited := rfl
  simp [dispatch, isExit, judged, over_]

theorem judge_cases (lifecycle : Lifecycle) (method : String) :
    (judge lifecycle method = .unknown ∧ ∀ route ∈ routes, route.method ≠ method) ∨
      ∃ route ∈ routes, route.method = method ∧
        ((∃ rejection, judge lifecycle method = .rejected rejection ∧
            lifecycle.check route.event = .error rejection) ∨
          judge lifecycle method = .accepted route ∧ lifecycle.check route.event = .ok ()) := by
  unfold judge
  cases found : Route.find? method with
  | none =>
      refine .inl ⟨rfl, ?_⟩
      intro route member named
      rw [Route.find?_eq_some_iff.mpr ⟨member, named⟩] at found
      cases found
  | some route =>
      obtain ⟨member, named⟩ := Route.find?_eq_some_iff.mp found
      refine .inr ⟨route, member, named, ?_⟩
      dsimp only
      cases lifecycle.check route.event with
      | error rejection => exact .inl ⟨rejection, rfl, rfl⟩
      | ok => exact .inr ⟨rfl, rfl⟩

theorem Outcome.toRequest_eq_reply {message : Envelope} {reply : Json → Response}
    {response : Response} (replied : Outcome.toRequest message reply = .reply response) :
    ∃ id, message.id? = some id ∧ response = reply id := by
  cases message with
  | request id method params =>
      cases replied
      exact ⟨id, rfl, rfl⟩
  | notification method params => cases replied

theorem dispatch_reply {identity : Identity} {lifecycle after : Lifecycle} {message : Envelope}
    {response : Response}
    (replied : dispatch identity lifecycle message = (.reply response, after)) :
    message.id? = some response.id ∧ response.version = "2.0" := by
  have asked (reply : Json → Response)
      (keeps : ∀ id, (reply id).id = id ∧ (reply id).version = "2.0")
      (same : Outcome.toRequest message reply = .reply response) :
      message.id? = some response.id ∧ response.version = "2.0" := by
    obtain ⟨id, isId, rfl⟩ := Outcome.toRequest_eq_reply same
    rw [(keeps id).1]
    exact ⟨isId, (keeps id).2⟩
  have outcome := congrArg Prod.fst replied
  unfold dispatch at outcome
  cases judged : judge lifecycle message.method with
  | unknown =>
      rw [judged] at outcome
      exact asked _ (fun _ => ⟨rfl, rfl⟩) outcome
  | rejected rejection =>
      rw [judged] at outcome
      exact asked _ (fun _ => ⟨rfl, rfl⟩) outcome
  | accepted route =>
      rw [judged] at outcome
      dsimp only at outcome
      split at outcome
      · cases outcome
      · split at outcome
        · exact asked _ (fun _ => ⟨rfl, rfl⟩) outcome
        · cases outcome

/-- Before the exit a message gets the reply it is owed, and the session goes on. -/
theorem dispatch_owed (identity : Identity) {lifecycle : Lifecycle} {message : Envelope}
    (running : lifecycle.phase ≠ .exited) (noExit : message.method ≠ "build/exit") :
    (dispatch identity lifecycle message).1.reply?.map (·.id) = owed lifecycle message ∧
      (dispatch identity lifecycle message).1 ≠ .exit ∧
      (dispatch identity lifecycle message).2.phase ≠ .exited := by
  have asked (reply : Json → Response) (keeps : ∀ id, (reply id).id = id)
      (other : ¬(message.method = "build/initialized" ∧ (lifecycle.check .initialized).isOk)) :
      (Outcome.toRequest message reply).reply?.map (·.id) = owed lifecycle message := by
    rw [owed, if_neg other]
    exact Outcome.id_toRequest message reply keeps
  unfold dispatch
  rcases judge_cases lifecycle message.method with
    ⟨judged, unnamed⟩ | ⟨route, member, named, ⟨rejection, judged, checked⟩ | ⟨judged, checked⟩⟩
  · rw [judged]
    refine ⟨asked _ (fun _ => rfl) ?_, Outcome.toRequest_ne_exit _ _, running⟩
    rintro ⟨same, -⟩
    exact unnamed ⟨"build/initialized", .initialized, none⟩ (by decide) same.symm
  · rw [judged]
    refine ⟨asked _ (fun _ => rfl) ?_, Outcome.toRequest_ne_exit _ _, running⟩
    rintro ⟨same, accepted⟩
    rw [← (Route.event_eq_iff member).1.mpr (named.trans same), checked] at accepted
    cases accepted
  · rw [judged]
    have isExit := (Route.event_eq_iff member).2
    rw [named] at isExit
    have goesOn : (lifecycle.apply route.event).phase ≠ .exited := by
      rw [Ne, Lifecycle.apply_exited_iff running, isExit]
      exact noExit
    dsimp only
    rw [if_neg goesOn]
    cases handled : route.handler with
    | none =>
        refine ⟨?_, by simp, goesOn⟩
        have event : route.event = .initialized := by
          rcases (Route.handler_eq_none_iff member).mp handled with event | event
          · exact event
          · exact absurd (isExit.mp event) noExit
        rw [event] at checked
        have method : message.method = "build/initialized" :=
          named.symm.trans ((Route.event_eq_iff member).1.mp event)
        rw [owed, if_pos ⟨method, by rw [checked]; rfl⟩]
        rfl
    | some handler =>
        refine ⟨asked _ (fun _ => rfl) ?_, Outcome.toRequest_ne_exit _ _, goesOn⟩
        rintro ⟨same, -⟩
        have event := (Route.event_eq_iff member).1.mpr (named.trans same)
        rw [(Route.handler_eq_none_iff member).mpr (.inl event)] at handled
        cases handled

theorem dispatch_eq_exit_iff (identity : Identity) {lifecycle : Lifecycle} {message : Envelope}
    (running : lifecycle.phase ≠ .exited) :
    (dispatch identity lifecycle message).1 = .exit ↔ message.method = "build/exit" := by
  by_cases isExit : message.method = "build/exit"
  · simp [dispatch_exit identity lifecycle isExit, isExit]
  · simp [(dispatch_owed identity running isExit).2.1, isExit]

def Verdict.apply (verdict : Verdict) (lifecycle : Lifecycle) : Lifecycle :=
  match verdict with
  | .unknown => lifecycle
  | .rejected _ => lifecycle
  | .accepted route => lifecycle.apply route.event

theorem dispatch_after (identity : Identity) (lifecycle : Lifecycle) (message : Envelope) :
    (dispatch identity lifecycle message).2 = (judge lifecycle message.method).apply lifecycle := by
  unfold dispatch
  cases judge lifecycle message.method with
  | unknown => rfl
  | rejected rejection => rfl
  | accepted route =>
      dsimp only [Verdict.apply]
      split
      · rfl
      · split <;> rfl

def Route.answer (identity : Identity) (route : Route) (message : Envelope) : Outcome :=
  if route.event = .exit then .exit
  else
    match route.handler with
    | some handler => .toRequest message (.result · (handler.result identity))
    | none => .noReply

theorem dispatch_accepted (identity : Identity) {lifecycle : Lifecycle} {message : Envelope}
    {route : Route} (running : lifecycle.phase ≠ .exited)
    (judged : judge lifecycle message.method = .accepted route) :
    (dispatch identity lifecycle message).1 = route.answer identity message := by
  have over_ := Lifecycle.apply_exited_iff running route.event
  unfold dispatch Route.answer
  rw [judged]
  dsimp only
  by_cases isExit : route.event = .exit
  · rw [if_pos isExit, if_pos (over_.mpr isExit)]
  · rw [if_neg isExit, if_neg fun exited => isExit (over_.mp exited)]
    cases route.handler <;> rfl

@[simp]
theorem Lifecycle.apply_strict (lifecycle : Lifecycle) (event : Event) :
    (lifecycle.apply event).strict = lifecycle.strict := by
  cases event <;> rfl

@[simp]
theorem dispatch_strict (identity : Identity) (lifecycle : Lifecycle) (message : Envelope) :
    (dispatch identity lifecycle message).2.strict = lifecycle.strict := by
  rw [dispatch_after]
  cases judge lifecycle message.method <;> simp [Verdict.apply]

-- Runs of the dispatcher.

def exchange (identity : Identity) (before : Lifecycle) (message : Envelope) : Exchange :=
  ⟨message, before, (dispatch identity before message).1, (dispatch identity before message).2⟩

theorem exchanges_cons (identity : Identity) (lifecycle : Lifecycle) (message : Envelope)
    (rest : List Envelope) :
    exchanges identity lifecycle (message :: rest) =
      exchange identity lifecycle message ::
        exchanges identity (exchange identity lifecycle message).after rest :=
  rfl

theorem lifecycleAfter_cons (identity : Identity) (lifecycle : Lifecycle) (message : Envelope)
    (rest : List Envelope) :
    lifecycleAfter identity lifecycle (message :: rest) =
      lifecycleAfter identity (exchange identity lifecycle message).after rest :=
  rfl

theorem exchanges_getElem? (identity : Identity) (lifecycle : Lifecycle) (messages : List Envelope)
    (j : Nat) :
    (exchanges identity lifecycle messages)[j]? = messages[j]?.map
      (exchange identity (lifecycleAfter identity lifecycle (messages.take j))) := by
  induction messages generalizing lifecycle j with
  | nil => rfl
  | cons message rest ih =>
      cases j with
      | zero => rfl
      | succ j => exact ih (dispatch identity lifecycle message).2 j

theorem exchanges_message (identity : Identity) (lifecycle : Lifecycle) (messages : List Envelope) :
    (exchanges identity lifecycle messages).map Exchange.message = messages := by
  induction messages generalizing lifecycle with
  | nil => rfl
  | cons message rest ih =>
      rw [exchanges, List.map_cons, ih]

theorem lifecycleAfter_snoc (identity : Identity) (lifecycle : Lifecycle)
    (messages : List Envelope) (message : Envelope) :
    lifecycleAfter identity lifecycle (messages ++ [message]) =
      (dispatch identity (lifecycleAfter identity lifecycle messages) message).2 := by
  rw [lifecycleAfter, List.foldl_append]
  rfl

@[simp]
theorem lifecycleAfter_strict (identity : Identity) (lifecycle : Lifecycle)
    (messages : List Envelope) :
    (lifecycleAfter identity lifecycle messages).strict = lifecycle.strict := by
  induction messages generalizing lifecycle with
  | nil => rfl
  | cons message rest ih => exact (ih _).trans (dispatch_strict identity lifecycle message)

end BuildPeer
