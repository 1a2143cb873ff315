import BuildPeer.Proofs.Run

/-!
Timeouts that do not strike. A read gives up when the pauses within it add up to more than its budget;
one that does not give up is the read of the same reader without the timeout. A budget as long as all
pauses of the script together is never used up, however the pauses fall among the reads. A peer with
such a timeout does what it would do with none: its reads and those without the timeout take the same
events, so the two runs stay side by side.
-/

namespace BuildPeer

namespace Source

def pauses : Source → Nat
  | [] => 0
  | .pause d :: rest => d + pauses rest
  | _ :: rest => pauses rest

/-- A script on which no read with the budget gives up: it never falls silent, and its pauses are
within the budget, if there is one. -/
structure Patient (budget : Option Nat) (source : Source) : Prop where
  comes : .silence ∉ source
  within : ∀ ms, budget = some ms → source.pauses ≤ ms

variable {budget : Option Nat} {source : Source}

theorem silence_mem_signals (source : Source) : .silence ∈ source ↔ .silence ∈ source.signals := by
  induction source with
  | nil => simp [signals]
  | cons arrival rest ih =>
      cases arrival with
      | bytes chunk => simp [signals, Signal.ofBytes, ih]
      | pause d => simp [signals, ih]
      | fault error => simp [signals, ih]
      | silence => simp [signals]

theorem Patient.tail {arrival : Arrival} (patient : Patient budget (arrival :: source)) :
    Patient budget source where
  comes := fun member => patient.comes (List.mem_cons_of_mem _ member)
  within := by
    intro ms limited
    have all := patient.within ms limited
    cases arrival with
    | pause d =>
        rw [pauses] at all
        omega
    | _ => exact all

/-- The budget changes nothing about the read, and the read leaves a patient script. -/
theorem Patient.pull (patient : Patient budget source) (isLast : UInt8 → Bool) (room : Nat) :
    source.pull isLast room budget = source.pull isLast room none ∧
      (source.pull isLast room budget).stop ≠ .timedOut ∧
      Patient budget (source.pull isLast room budget).rest := by
  induction source generalizing room budget with
  | nil =>
      refine ⟨rfl, ?_, patient⟩
      unfold Source.pull
      split <;> simp
  | cons arrival rest ih =>
      cases arrival with
      | bytes chunk =>
          obtain ⟨same, goesOn, left⟩ :=
            ih patient.tail (room - (cut isLast room chunk).1.length)
          unfold Source.pull
          split
          · refine ⟨rfl, by simp, ?_⟩
            exact ⟨by simpa using patient.tail.comes, patient.tail.within⟩
          · rename_i taken _ cutting
            simp only [cutting] at same goesOn left
            exact ⟨by rw [same], goesOn, left⟩
      | pause d =>
          unfold Source.pull
          by_cases full : room = 0
          · rw [if_pos full, if_pos full]
            exact ⟨rfl, by simp, patient⟩
          · rw [if_neg full, if_neg full]
            cases budget with
            | none => exact ih patient.tail room
            | some ms =>
                have all := patient.within ms rfl
                rw [pauses] at all
                have shorter : Patient (some (ms - d)) rest := by
                  refine ⟨patient.tail.comes, ?_⟩
                  rintro _ ⟨⟩
                  omega
                obtain ⟨same, goesOn, left⟩ := ih shorter room
                have enough : d ≤ ms := by omega
                simp only [if_pos enough]
                refine ⟨same, goesOn, left.comes, ?_⟩
                rintro _ ⟨⟩
                have less := left.within _ rfl
                omega
      | fault error =>
          unfold Source.pull
          split
          · exact ⟨rfl, by simp, patient⟩
          · exact ⟨rfl, by simp, patient.tail⟩
      | silence => exact absurd List.mem_cons_self patient.comes

end Source

/-- A timeout, if there is one, is at least as long as all pauses of the script together. -/
def Limits.Outlasts (limits : Limits) (source : Source) : Prop :=
  ∀ timeout, limits.readTimeout = some timeout → source.pauses ≤ timeout.milliseconds

theorem Limits.outlasts_of_untimed {limits : Limits} (untimed : limits.readTimeout = none)
    (source : Source) : limits.Outlasts source := by
  intro timeout timed
  rw [untimed] at timed
  cases timed

namespace Frame.Reader

def untimed (reader : Reader) : Reader :=
  { reader with limits := { reader.limits with readTimeout := none } }

variable {reader : Reader}

structure Spared (reader : Reader) (isLast : UInt8 → Bool) (room : Nat) : Prop where
  same : reader.source.pull isLast room (budget reader.limits) =
    reader.source.pull isLast room none
  goesOn : (reader.source.pull isLast room none).stop ≠ .timedOut

theorem Spared.pull {isLast : UInt8 → Bool} {room : Nat} (spared : reader.Spared isLast room) :
    ∃ p : Pull, reader.source.pull isLast room (budget reader.limits) = p ∧
      reader.untimed.source.pull isLast room (budget reader.untimed.limits) = p ∧
      pulled reader.untimed.limits p = pulled reader.limits p := by
  have goesOn := spared.goesOn
  refine ⟨_, spared.same, rfl, ?_⟩
  unfold pulled
  split <;> first | rfl | contradiction

theorem Spared.readLine (spared : reader.Spared isLineBreak maxLineLength) :
    reader.untimed.readLine = (reader.readLine.1, reader.readLine.2.untimed) := by
  obtain ⟨p, timed, free, same⟩ := spared.pull
  apply Prod.ext
  · simp only [Reader.readLine, timed, free, same]
    cases pulled reader.limits p with
    | error halt => rfl
    | ok taken =>
        dsimp only
        split <;> rfl
  · rw [readLine_after, readLine_after, timed, free]
    rfl

theorem Spared.readBody {length : Nat} (spared : reader.Spared (fun _ => false) length) :
    reader.untimed.readBody length =
      ((reader.readBody length).1, (reader.readBody length).2.untimed) := by
  obtain ⟨p, timed, free, same⟩ := spared.pull
  apply Prod.ext
  · simp only [Reader.readBody, timed, free, same]
    split
    · rfl
    · rfl
    · split <;> rfl
    · rfl
  · rw [readBody_after, readBody_after, timed, free]
    rfl

def Patient (reader : Reader) : Prop :=
  reader.source.Patient (budget reader.limits)

/-- Whole bytes keep nobody waiting but for the pauses between them. -/
theorem patient_of_outlasts {input : Bytes} (script : reader.source.signals = Signal.ofBytes input)
    (outlasts : reader.limits.Outlasts reader.source) : reader.Patient where
  comes := by
    rw [Source.silence_mem_signals, script]
    simp [Signal.ofBytes]
  within := by
    intro ms limited
    obtain ⟨timeout, timed, rfl⟩ := Option.map_eq_some_iff.mp limited
    exact outlasts timeout timed

theorem Patient.spared (patient : reader.Patient) (isLast : UInt8 → Bool) (room : Nat) :
    reader.Spared isLast room ∧
      (reader.source.pull isLast room (budget reader.limits)).rest.Patient
        (budget reader.limits) := by
  obtain ⟨same, goesOn, left⟩ := Source.Patient.pull patient isLast room
  rw [same] at goesOn
  exact ⟨⟨same, goesOn⟩, left⟩

theorem Patient.readLine (patient : reader.Patient) :
    ∃ answer after, reader.readLine = (answer, after) ∧
      reader.untimed.readLine = (answer, after.untimed) ∧ after.Patient := by
  obtain ⟨spared, left⟩ := patient.spared isLineBreak maxLineLength
  refine ⟨_, reader.readLine.2, rfl, spared.readLine, ?_⟩
  rw [readLine_after]
  exact left

theorem Patient.readBody (patient : reader.Patient) (length : Nat) :
    ∃ answer after, reader.readBody length = (answer, after) ∧
      reader.untimed.readBody length = (answer, after.untimed) ∧ after.Patient := by
  obtain ⟨spared, left⟩ := patient.spared (fun _ => false) length
  refine ⟨_, (reader.readBody length).2, rfl, spared.readBody, ?_⟩
  rw [readBody_after]
  exact left

theorem Patient.readRest (patient : reader.Patient) (length : Nat) :
    ∃ answer after, reader.readRest length = (answer, after) ∧
      reader.untimed.readRest length = (answer, after.untimed) ∧ after.Patient := by
  obtain ⟨line, separated, timed, free, patient⟩ := patient.readLine
  simp only [Reader.readRest, timed, free]
  cases line with
  | error halt => exact ⟨_, _, rfl, rfl, patient⟩
  | ok size =>
      cases size with
      | zero => exact ⟨_, _, rfl, rfl, patient⟩
      | succ size =>
          obtain ⟨body, after, timed, free, patient⟩ := patient.readBody length
          simp only [timed, free]
          cases body with
          | error halt => exact ⟨_, _, rfl, rfl, patient⟩
          | ok done => exact ⟨_, _, rfl, rfl, patient⟩

theorem Patient.read (patient : reader.Patient) :
    ∃ answer after, reader.read = (answer, after) ∧
      reader.untimed.read = (answer, after.untimed) ∧ after.Patient := by
  obtain ⟨line, opened, timed, free, patient⟩ := patient.readLine
  simp only [Reader.read, timed, free]
  cases line with
  | error halt => exact ⟨_, _, rfl, rfl, patient⟩
  | ok size =>
      cases size with
      | zero => exact ⟨_, _, rfl, rfl, patient⟩
      | succ size =>
          have header : readHeader opened.untimed.limits opened.untimed.line =
              readHeader opened.limits opened.line := rfl
          simp only [header]
          cases readHeader opened.limits opened.line with
          | error violation => exact ⟨_, _, rfl, rfl, patient⟩
          | ok expected => exact patient.readRest expected

theorem Patient.readMessage (patient : reader.Patient) :
    ∃ answer after, reader.readMessage = (answer, after) ∧
      reader.untimed.readMessage = (answer, after.untimed) ∧ after.Patient := by
  obtain ⟨body, after, timed, free, patient⟩ := patient.read
  simp only [Reader.readMessage, timed, free]
  cases body with
  | error halt => exact ⟨_, _, rfl, rfl, patient⟩
  | ok came =>
      cases came with
      | none => exact ⟨_, _, rfl, rfl, patient⟩
      | some body =>
          dsimp only
          cases decode body with
          | error violation => exact ⟨_, _, rfl, rfl, patient⟩
          | ok message => exact ⟨_, _, rfl, rfl, patient⟩

theorem Patient.answers (patient : reader.Patient) (calls : Nat) :
    reader.untimed.answers calls =
      (reader.answers calls).map fun given => (given.1, given.2.untimed) := by
  induction calls generalizing reader with
  | zero => rfl
  | succ calls ih =>
      obtain ⟨answer, after, timed, free, patient⟩ := patient.readMessage
      rw [Reader.answers, Reader.answers, timed, free]
      exact congrArg _ (ih patient)

theorem Patient.account (patient : reader.Patient) (calls : Nat) :
    reader.untimed.account calls = reader.account calls := by
  rw [Reader.account, Reader.account, patient.answers calls, List.map_map]
  rfl

end Frame.Reader

namespace Session

def State.untimed (state : State) : State :=
  { state with reader := state.reader.untimed }

def Progress.untimed : Progress → Progress
  | .goesOn t state => .goesOn t state.untimed
  | .stops close => .stops { close with state := close.state.untimed }

variable {state : State}

theorem answer_untimed (server : Server) (state : State) (size : Nat) (message : Envelope) :
    answer server state.untimed size message = (answer server state size message).untimed := by
  have mapped := answer_mapReader Frame.Reader.untimed server state size message
  refine mapped.trans ?_
  cases answer server state size message <;> rfl

theorem turn_untimed (server : Server) (patient : state.reader.Patient) :
    turn server state.untimed = (turn server state).untimed ∧
      (turn server state).state.reader.Patient := by
  obtain ⟨answered, after, timed, free, patient⟩ := patient.read
  have free' : state.untimed.reader.read = (answered, after.untimed) := free
  simp only [turn, timed, free']
  cases answered with
  | error halt => exact ⟨rfl, patient⟩
  | ok came =>
      cases came with
      | none => exact ⟨rfl, patient⟩
      | some body =>
          dsimp only
          cases Frame.decode body with
          | error violation => exact ⟨rfl, patient⟩
          | ok message =>
              refine ⟨answer_untimed server { state with reader := after } body.length message, ?_⟩
              rw [answer_keeps_reader]
              exact patient

theorem serveFrom_untimed (server : Server) (patient : state.reader.Patient) :
    serveFrom server state.untimed =
      ⟨(serveFrom server state).turns,
        { (serveFrom server state).close with
          state := (serveFrom server state).close.state.untimed }⟩ := by
  induction state using serveFrom.induct server with
  | case1 state close step =>
      have same := (turn_untimed server patient).1
      rw [step] at same
      rw [serveFrom_stops step, serveFrom_stops same]
  | case2 state t next step ih =>
      obtain ⟨same, left⟩ := turn_untimed server patient
      rw [step] at same left
      rw [serveFrom_goesOn step, serveFrom_goesOn same, ih left]

/-- Of the server itself, a session that has started knows only the identity. -/
theorem serveFrom_limits (server : Server) (limits : Limits) (state : State) :
    serveFrom { server with limits } state = serveFrom server state := by
  induction state using serveFrom.induct server with
  | case1 state close step =>
      have same : turn { server with limits } state = .stops close := step
      rw [serveFrom_stops step, serveFrom_stops same]
  | case2 state t next step ih =>
      have same : turn { server with limits } state = .goesOn t next := step
      rw [serveFrom_goesOn step, serveFrom_goesOn same, ih]

theorem serve_untimed {server : Server} {source : Source} {input : Bytes}
    (script : source.signals = Signal.ofBytes input) (outlasts : server.limits.Outlasts source)
    (sink : Sink) :
    let free := serve { server with limits := { server.limits with readTimeout := none } } source sink
    free.ending = (serve server source sink).ending ∧
      free.output = (serve server source sink).output := by
  have patient : (start server source sink).reader.Patient :=
    Frame.Reader.patient_of_outlasts script outlasts
  intro free
  have same : free = serveFrom server (start server source sink).untimed :=
    serveFrom_limits server _ _
  rw [same, serveFrom_untimed server patient]
  exact ⟨rfl, rfl⟩

end Session
end BuildPeer
