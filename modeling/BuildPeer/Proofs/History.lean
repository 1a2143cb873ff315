import BuildPeer.Proofs.Exchanges
import Mathlib.Tactic.SplitIfs

/-!
What a strict session does with a message, told from the history alone. Two places in a list of
messages decide: that of the first initialization, and that of the first shutdown behind it. The
dispatcher knows neither of them, only a phase; the invariant of its run is that the phase in front
of a message says on which side of the two places the message stands. The main statement holds up to
the first exit.
-/

namespace BuildPeer

-- The places that decide.

/-- Where the first message with the method stands; the end of the messages if there is none. -/
def firstAt (method : String) (messages : List Envelope) : Nat :=
  messages.findIdx fun message => message.method = method

structure History where
  opened : Nat
  closed : Nat

inductive Stage where
  | early
  | opening
  | running
  | closing
  | late
  deriving DecidableEq, Repr

def History.of (messages : List Envelope) : History :=
  let opened := firstAt "build/initialize" messages
  ⟨opened, opened + 1 + firstAt "build/shutdown" (messages.drop (opened + 1))⟩

def History.stage (history : History) (j : Nat) : Stage :=
  if j < history.opened then .early
  else if j = history.opened then .opening
  else if j < history.closed then .running
  else if j = history.closed then .closing
  else .late

example :
    let methods := ["build/shutdown", "build/initialize", "build/initialize", "build/shutdown", "?"]
    let history := History.of (methods.map (.notification · none))
    (List.range 5).map history.stage = [.early, .opening, .running, .closing, .late] := by
  decide

namespace Stage

def before : Stage → Phase
  | .early => .uninitialized
  | .opening => .uninitialized
  | .running => .initialized
  | .closing => .initialized
  | .late => .shuttingDown

/-- The phase behind a message that is no exit. -/
def behind : Stage → Phase
  | .early => .uninitialized
  | .opening => .initialized
  | .running => .initialized
  | .closing => .shuttingDown
  | .late => .shuttingDown

def refusal? : Stage → Event → Option Rejection
  | _, .exit => none
  | .early, _ => some .notInitialized
  | .opening, _ => none
  | .running, .initializing => some .alreadyInitialized
  | .running, _ => none
  | .closing, _ => none
  | .late, _ => some .shuttingDown

def verdict (stage : Stage) (method : String) : Verdict :=
  match Route.find? method with
  | none => .unknown
  | some route =>
      match stage.refusal? route.event with
      | some rejection => .rejected rejection
      | none => .accepted route

/-- What the method of a message at such a place can be. -/
def Shows : Stage → String → Prop
  | .early, method => method ≠ "build/initialize"
  | .opening, method => method = "build/initialize"
  | .running, method => method ≠ "build/shutdown"
  | .closing, method => method = "build/shutdown"
  | .late, _ => True

variable {stage : Stage} {lifecycle : Lifecycle} {route : Route}

theorem check_eq (strict : lifecycle.strict = true) (phase : lifecycle.phase = stage.before)
    (member : route ∈ routes) (shows_ : stage.Shows route.method) :
    lifecycle.check route.event =
      match stage.refusal? route.event with
      | some rejection => .error rejection
      | none => .ok () := by
  -- Five routes at five stages; `Shows` leaves out those that a stage cannot have.
  simp only [routes, List.mem_cons, List.not_mem_nil, or_false] at member
  rcases member with rfl | rfl | rfl | rfl | rfl <;> cases stage <;>
    simp_all [before, Shows, refusal?, Lifecycle.check]

theorem apply_phase (phase : lifecycle.phase = stage.before) (member : route ∈ routes)
    (shows_ : stage.Shows route.method) (accepted : stage.refusal? route.event = none)
    (noExit : route.method ≠ "build/exit") :
    (lifecycle.apply route.event).phase = stage.behind := by
  simp only [routes, List.mem_cons, List.not_mem_nil, or_false] at member
  rcases member with rfl | rfl | rfl | rfl | rfl <;> cases stage <;>
    simp_all [before, behind, Shows, refusal?, Lifecycle.apply]

theorem behind_eq_before {method : String} (shows_ : stage.Shows method)
    (kept : ∀ route, stage.verdict method ≠ .accepted route) : stage.behind = stage.before := by
  cases stage with
  | early => rfl
  | opening =>
      cases shows_
      exact absurd rfl (kept ⟨"build/initialize", .initializing, some .identity⟩)
  | running => rfl
  | closing =>
      cases shows_
      exact absurd rfl (kept ⟨"build/shutdown", .shutdown, some .acknowledgement⟩)
  | late => rfl

/-- One message at a stage: the dispatcher judges it by the stage, and moves on with it. -/
theorem step (identity : Identity) {message : Envelope} (strict : lifecycle.strict = true)
    (phase : lifecycle.phase = stage.before) (shows_ : stage.Shows message.method) :
    judge lifecycle message.method = stage.verdict message.method ∧
      (message.method ≠ "build/exit" →
        (dispatch identity lifecycle message).2.phase = stage.behind) := by
  have judged : judge lifecycle message.method = stage.verdict message.method := by
    unfold judge verdict
    cases found : Route.find? message.method with
    | none => rfl
    | some route =>
        obtain ⟨member, named⟩ := Route.find?_eq_some_iff.mp found
        have checked := check_eq strict phase member (named ▸ shows_)
        dsimp only
        rw [checked]
        cases stage.refusal? route.event <;> rfl
  refine ⟨judged, fun noExit => ?_⟩
  rw [dispatch_after, judged]
  cases said : stage.verdict message.method with
  | unknown => exact phase.trans (behind_eq_before shows_ (by simp [said])).symm
  | rejected rejection => exact phase.trans (behind_eq_before shows_ (by simp [said])).symm
  | accepted route =>
      unfold verdict at said
      split at said
      · cases said
      · rename_i other found
        obtain ⟨member, named⟩ := Route.find?_eq_some_iff.mp found
        split at said
        · cases said
        · rename_i accepted
          cases said
          exact apply_phase phase member (named ▸ shows_) accepted (named ▸ noExit)

end Stage

-- What stands at a place.

theorem firstAt_facts (method : String) {messages : List Envelope} {j : Nat} {message : Envelope}
    (here : messages[j]? = some message) :
    (j < firstAt method messages → message.method ≠ method) ∧
      (j = firstAt method messages → message.method = method) := by
  obtain ⟨inside, same⟩ := List.getElem?_eq_some_iff.mp here
  constructor
  · intro before
    have other := List.not_of_lt_findIdx before
    simpa [same] using other
  · rintro rfl
    have hit := List.findIdx_getElem (w := inside)
    rw [← same]
    exact of_decide_eq_true hit

namespace History

theorem opened_lt_closed (messages : List Envelope) :
    (of messages).opened < (of messages).closed := by
  simp only [of]
  omega

theorem stage_shows {messages : List Envelope} {j : Nat} {message : Envelope}
    (here : messages[j]? = some message) : ((of messages).stage j).Shows message.method := by
  obtain ⟨early, opening⟩ := firstAt_facts "build/initialize" here
  have behind (late : (of messages).opened < j) :
      (messages.drop ((of messages).opened + 1))[j - ((of messages).opened + 1)]? =
        some message := by
    rw [List.getElem?_drop, ← here]
    congr 1
    omega
  have closed : (of messages).closed = (of messages).opened + 1 +
      firstAt "build/shutdown" (messages.drop ((of messages).opened + 1)) := rfl
  unfold stage
  split
  · rename_i before
    exact early before
  · split
    · rename_i same
      exact opening same
    · have late : (of messages).opened < j := by omega
      obtain ⟨between, closing⟩ := firstAt_facts "build/shutdown" (behind late)
      split
      · rename_i before
        exact between (by omega)
      · split
        · rename_i same
          exact closing (by omega)
        · trivial

theorem before_succ (messages : List Envelope) (j : Nat) :
    ((of messages).stage (j + 1)).before = ((of messages).stage j).behind := by
  have ordered := opened_lt_closed messages
  simp only [stage]
  split_ifs <;> simp only [Stage.before, Stage.behind, reduceCtorEq] <;> omega

/-- The invariant of a strict run: up to the first exit, the phase in front of a place is that of
its stage. -/
theorem phase_at (identity : Identity) {messages : List Envelope} {j : Nat}
    (inside : j ≤ messages.length) (noExit : j ≤ firstAt "build/exit" messages) :
    (lifecycleAfter identity (.start true) (messages.take j)).phase =
      ((of messages).stage j).before := by
  induction j with
  | zero =>
      have start : ((of messages).stage 0).before = .uninitialized := by
        rcases Nat.eq_zero_or_pos (of messages).opened with first | later
        · simp [stage, first, Stage.before]
        · simp [stage, later, Stage.before]
      rw [start]
      rfl
  | succ j ih =>
      have here : messages[j]? = some messages[j] := List.getElem?_eq_getElem inside
      have strict : (lifecycleAfter identity (.start true) (messages.take j)).strict = true :=
        lifecycleAfter_strict identity (.start true) _
      have moved := (Stage.step identity strict (ih (by omega) (by omega)) (stage_shows here)).2
        ((firstAt_facts "build/exit" here).1 (by omega))
      rw [List.take_add_one, here, Option.toList_some, lifecycleAfter_snoc, moved, before_succ]

end History

-- The law.

def Rejection.reply : Rejection → Json → Response
  | .notInitialized, id => .error id (-32002) "server not initialized"
  | .alreadyInitialized, id => .error id (-32600) "server already initialized"
  | .shuttingDown, id => .error id (-32600) "server is shutting down"

structure Stage.Rules (stage : Stage) (identity : Identity) (exchange : Exchange) : Prop where
  before : exchange.before.phase = stage.before
  judged : judge exchange.before exchange.message.method = stage.verdict exchange.message.method
  answered : exchange.outcome =
    match stage.verdict exchange.message.method with
    | .unknown =>
        .toRequest exchange.message
          (.error · 123 ("unhandled method " ++ exchange.message.method))
    | .rejected rejection => .toRequest exchange.message rejection.reply
    | .accepted route => route.answer identity exchange.message
  behind : exchange.message.method ≠ "build/exit" → exchange.after.phase = stage.behind

theorem Stage.rules_exchange (identity : Identity) {stage : Stage} {before : Lifecycle}
    {message : Envelope} (strict : before.strict = true) (phase : before.phase = stage.before)
    (shows_ : stage.Shows message.method) :
    stage.Rules identity (exchange identity before message) := by
  obtain ⟨judged, moved⟩ := Stage.step identity strict phase shows_
  refine ⟨phase, judged, ?_, moved⟩
  have running : before.phase ≠ .exited := by
    rw [phase]
    cases stage <;> simp [Stage.before]
  dsimp only [exchange]
  cases said : stage.verdict message.method with
  | unknown => simp only [dispatch, judged, said]; rfl
  | rejected rejection =>
      simp only [dispatch, judged, said]
      cases rejection <;> rfl
  | accepted route => exact dispatch_accepted identity running (judged.trans said)

/-- A strict session follows its history. Every message up to the first exit is judged and answered
by the stage of its place, and the phase follows the stages; the exit is taken at every place, also
behind another one. -/
theorem strict_follows_history (identity : Identity) (messages : List Envelope) :
    let session := exchanges identity (.start true) messages
    session.map Exchange.message = messages ∧
      (∀ exchange ∈ session, exchange.message.method = "build/exit" →
        exchange.outcome = .exit ∧ exchange.after.phase = .exited) ∧
      ∀ j exchange, session[j]? = some exchange → j ≤ firstAt "build/exit" messages →
        ((History.of messages).stage j).Rules identity exchange := by
  intro session
  have at_ (j : Nat) : session[j]? = messages[j]?.map
      (exchange identity (lifecycleAfter identity (.start true) (messages.take j))) :=
    exchanges_getElem? identity (.start true) messages j
  refine ⟨exchanges_message identity (.start true) messages, ?_, ?_⟩
  · intro given member isExit
    obtain ⟨j, here⟩ := List.mem_iff_getElem?.mp member
    rw [at_, Option.map_eq_some_iff] at here
    obtain ⟨message, -, rfl⟩ := here
    have exits := dispatch_exit identity
      (lifecycleAfter identity (.start true) (messages.take j)) isExit
    exact ⟨congrArg Prod.fst exits, congrArg (·.2.phase) exits⟩
  · intro j given here noExit
    rw [at_, Option.map_eq_some_iff] at here
    obtain ⟨message, here, rfl⟩ := here
    have inside : j ≤ messages.length := by
      have := (List.getElem?_eq_some_iff.mp here).1
      omega
    exact Stage.rules_exchange identity (lifecycleAfter_strict identity (.start true) _)
      (History.phase_at identity inside noExit) (History.stage_shows here)

end BuildPeer
