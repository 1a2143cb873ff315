import BuildPeer.Proofs.Exchanges

/-!
A strict session beside a permissive one. Apart from the flag itself, strictness is seen in one place
only: a known message may be rejected, and a rejected message leaves no trace. So a permissive
dispatcher that is never given the rejected messages goes through the same lifecycles and the same
outcomes. The two runs have different lengths; the relation between them is that their lifecycles are
the same but for the flag.
-/

namespace BuildPeer

namespace Lifecycle

def permissive (lifecycle : Lifecycle) : Lifecycle :=
  { lifecycle with strict := false }

@[simp]
theorem permissive_phase (lifecycle : Lifecycle) : lifecycle.permissive.phase = lifecycle.phase :=
  rfl

@[simp]
theorem permissive_exitedCleanly (lifecycle : Lifecycle) :
    lifecycle.permissive.exitedCleanly = lifecycle.exitedCleanly :=
  rfl

@[simp]
theorem permissive_check (lifecycle : Lifecycle) (event : Event) :
    lifecycle.permissive.check event = .ok () :=
  rfl

@[simp]
theorem permissive_apply (lifecycle : Lifecycle) (event : Event) :
    lifecycle.permissive.apply event = (lifecycle.apply event).permissive := by
  cases event <;> rfl

end Lifecycle

namespace Exchange

/-- Whether the message is known and the check of the lifecycle in front of it refuses it. -/
def isRejected (exchange : Exchange) : Bool :=
  match Route.find? exchange.message.method with
  | none => false
  | some route => !(exchange.before.check route.event).isOk

def permissive (exchange : Exchange) : Exchange :=
  { exchange with before := exchange.before.permissive, after := exchange.after.permissive }

/-- What is seen of an exchange: the outcome, and the phase and the exit verdict behind it. -/
def seen (exchange : Exchange) : Outcome × Phase × Bool :=
  (exchange.outcome, exchange.after.phase, exchange.after.exitedCleanly)

end Exchange

theorem Exchange.isRejected_iff {exchange : Exchange} :
    exchange.isRejected = true ↔
      ∃ rejection, judge exchange.before exchange.message.method = .rejected rejection := by
  unfold isRejected judge
  cases Route.find? exchange.message.method with
  | none => simp
  | some route =>
      dsimp only
      cases exchange.before.check route.event with
      | error rejection => simp [Except.isOk, Except.toBool]
      | ok => simp [Except.isOk, Except.toBool]

theorem judge_permissive {lifecycle : Lifecycle} {method : String}
    (kept : ∀ rejection, judge lifecycle method ≠ .rejected rejection) :
    judge lifecycle.permissive method = judge lifecycle method := by
  unfold judge at kept ⊢
  cases found : Route.find? method with
  | none => rfl
  | some route =>
      rw [found] at kept
      dsimp only at kept ⊢
      rw [Lifecycle.permissive_check]
      cases checked : lifecycle.check route.event with
      | ok => rfl
      | error rejection =>
          rw [checked] at kept
          exact absurd rfl (kept rejection)

variable (identity : Identity) {lifecycle : Lifecycle} {message : Envelope}

theorem dispatch_rejected {rejection : Rejection}
    (judged : judge lifecycle message.method = .rejected rejection) :
    (dispatch identity lifecycle message).2 = lifecycle := by
  rw [dispatch_after, judged]
  rfl

theorem dispatch_permissive
    (kept : ∀ rejection, judge lifecycle message.method ≠ .rejected rejection) :
    dispatch identity lifecycle.permissive message =
      ((dispatch identity lifecycle message).1,
        (dispatch identity lifecycle message).2.permissive) := by
  have judged := judge_permissive kept
  unfold dispatch
  rw [judged]
  cases said : judge lifecycle message.method with
  | unknown => rfl
  | rejected rejection => exact absurd said (kept rejection)
  | accepted route =>
      simp only [Lifecycle.permissive_apply, Lifecycle.permissive_phase]
      split
      · rfl
      · cases route.handler <;> rfl

theorem exchanges_permissive (lifecycle : Lifecycle) (messages : List Envelope) :
    let kept := (exchanges identity lifecycle messages).filter (!·.isRejected)
    exchanges identity lifecycle.permissive (kept.map Exchange.message) =
      kept.map Exchange.permissive := by
  induction messages generalizing lifecycle with
  | nil => rfl
  | cons message rest ih =>
      have split : exchanges identity lifecycle (message :: rest) =
          exchange identity lifecycle message ::
            exchanges identity (dispatch identity lifecycle message).2 rest := rfl
      have more := ih (dispatch identity lifecycle message).2
      dsimp only at more ⊢
      rw [split]
      by_cases rejected : (exchange identity lifecycle message).isRejected = true
      · obtain ⟨rejection, judged⟩ := Exchange.isRejected_iff.mp rejected
        have unchanged : (dispatch identity lifecycle message).2 = lifecycle :=
          dispatch_rejected identity judged
        rw [unchanged] at more ⊢
        rw [List.filter_cons_of_neg (by simp [rejected])]
        exact more
      · have kept : ∀ rejection, judge lifecycle message.method ≠ .rejected rejection :=
          fun rejection judged => rejected (Exchange.isRejected_iff.mpr ⟨rejection, judged⟩)
        have same := dispatch_permissive identity kept
        rw [List.filter_cons_of_pos (by simp [rejected]), List.map_cons, List.map_cons, exchanges]
        simp only [exchange, same, more, Exchange.permissive]

/-- Strictness only leaves messages out. A rejected message changes nothing in the lifecycle, and a
permissive dispatcher that is given the other messages shows for each of them what the strict one
showed. -/
theorem strict_refines_permissive (messages : List Envelope) :
    let session := exchanges identity (.start true) messages
    let kept := session.filter (!·.isRejected)
    (∀ exchange ∈ session, exchange.isRejected = true → exchange.after = exchange.before) ∧
      (exchanges identity (.start false) (kept.map Exchange.message)).map Exchange.seen =
        kept.map Exchange.seen ∧
      ((∀ exchange ∈ session, exchange.isRejected = false) →
        (exchanges identity (.start false) messages).map Exchange.seen =
          session.map Exchange.seen) := by
  intro session kept
  have beside : (exchanges identity (.start false) (kept.map Exchange.message)).map Exchange.seen =
      kept.map Exchange.seen := by
    have same := exchanges_permissive identity (.start true) messages
    dsimp only at same
    change (exchanges identity (Lifecycle.start true).permissive _).map _ = _
    rw [same, List.map_map]
    rfl
  refine ⟨?_, beside, ?_⟩
  · intro given member rejected
    obtain ⟨j, here⟩ := List.mem_iff_getElem?.mp member
    rw [exchanges_getElem?, Option.map_eq_some_iff] at here
    obtain ⟨message, -, rfl⟩ := here
    obtain ⟨rejection, judged⟩ := Exchange.isRejected_iff.mp rejected
    exact dispatch_rejected identity judged
  · intro noneRejected
    have all : kept = session :=
      List.filter_eq_self.mpr fun exchange member => by simp [noneRejected exchange member]
    rw [all, exchanges_message] at beside
    exact beside

end BuildPeer
