import BuildPeer.Proofs.Patience

/-!
One session under two pairs of limits, the second no tighter than the first. As long as no limit strikes
in the first session, both do the same, read by read and round by round. When one strikes, the first
session is over; the second has come as far, so it has written as much, and it has read as much, since
what it reads is only ever more. `Loosens` is this relation between the outcomes of one operation.
-/

namespace BuildPeer

namespace Source

/-- A budget that is no longer than another, where none is the longest. -/
def Within (tight loose : Option Nat) : Prop :=
  ∀ ms, loose = some ms → ∃ less, tight = some less ∧ less ≤ ms

theorem Within.untimed {loose : Option Nat} (within : Within none loose) : loose = none := by
  cases loose with
  | none => rfl
  | some ms =>
      obtain ⟨less, limited, -⟩ := within ms rfl
      cases limited

theorem pull_shortens (isLast : UInt8 → Bool) (room : Nat) (budget : Option Nat) (source : Source) :
    (pull isLast room budget source).rest.size ≤ source.size := by
  have all := pull_size isLast room budget source
  omega

/-- Unless the tighter budget is used up, a read is the same under both. If it is, the read under the
other budget gets at least as far. -/
theorem pull_within {tight loose : Option Nat} (within : Within tight loose)
    (isLast : UInt8 → Bool) (room : Nat) (source : Source) :
    ((source.pull isLast room tight).stop ≠ .timedOut ∧
        source.pull isLast room loose = source.pull isLast room tight) ∨
      (source.pull isLast room tight).stop = .timedOut ∧
        (source.pull isLast room loose).rest.size ≤ (source.pull isLast room tight).rest.size := by
  induction source generalizing room tight loose with
  | nil =>
      refine .inl ⟨?_, rfl⟩
      unfold pull
      split <;> simp
  | cons arrival rest ih =>
      cases arrival with
      | bytes chunk =>
          have more := ih within (room - (cut isLast room chunk).1.length)
          unfold pull
          split
          · exact .inl ⟨by simp, rfl⟩
          · rename_i taken _ cutting
            rw [cutting] at more
            rcases more with ⟨goesOn, same⟩ | struck
            · exact .inl ⟨goesOn, by rw [same]⟩
            · exact .inr struck
      | pause d =>
          by_cases full : room = 0
          · unfold pull
            rw [if_pos full, if_pos full]
            exact .inl ⟨by simp, rfl⟩
          · cases tight with
            | none =>
                cases within.untimed
                unfold pull
                rw [if_neg full]
                exact ih within room
            | some less =>
                by_cases enough : d ≤ less
                · cases loose with
                  | none =>
                      simp only [pull, if_neg full, if_pos enough]
                      exact ih (fun ms limited => by cases limited) room
                  | some ms =>
                      obtain ⟨_, ⟨⟩, shorter⟩ := within ms rfl
                      have enoughToo : d ≤ ms := Nat.le_trans enough shorter
                      simp only [pull, if_neg full, if_pos enough, if_pos enoughToo]
                      apply ih
                      rintro _ ⟨⟩
                      exact ⟨less - d, rfl, by omega⟩
                · refine .inr ?_
                  have further := pull_shortens isLast room loose (.pause d :: rest)
                  simp only [pull, if_neg full, if_neg enough] at further ⊢
                  exact ⟨trivial, further⟩
      | fault error =>
          unfold pull
          split
          · exact .inl ⟨by simp, rfl⟩
          · exact .inl ⟨by simp, rfl⟩
      | silence =>
          by_cases full : room = 0
          · unfold pull
            rw [if_pos full, if_pos full]
            exact .inl ⟨by simp, rfl⟩
          · cases tight with
            | none =>
                cases within.untimed
                refine .inl ⟨?_, rfl⟩
                simp [pull, full]
            | some less =>
                refine .inr ?_
                simp [pull, full]

end Source

/-- Limits that are no looser than others. An absent timeout is the longest. -/
structure Limits.Within (tight loose : Limits) : Prop where
  frames : tight.maxFrameSize ≤ loose.maxFrameSize
  timeouts : ∀ longer, loose.readTimeout = some longer →
    ∃ shorter, tight.readTimeout = some shorter ∧ shorter.milliseconds ≤ longer.milliseconds

inductive Failure.IsLimit : Failure → Prop where
  | frameTooLarge (length limit : Nat) : IsLimit (.violation (.frameTooLarge length limit))
  | readTimeout (limit : Duration) : IsLimit (.readTimeout limit)

namespace Frame

theorem budget_within {tight loose : Limits} (within : tight.Within loose) :
    Source.Within (budget tight) (budget loose) := by
  intro ms limited
  obtain ⟨longer, given, rfl⟩ := Option.map_eq_some_iff.mp limited
  obtain ⟨shorter, givenToo, less⟩ := within.timeouts longer given
  exact ⟨shorter.milliseconds, by rw [budget, givenToo]; rfl, less⟩

theorem readHeader_within {tight loose : Limits} (within : tight.Within loose) (line : Bytes) :
    readHeader loose line = readHeader tight line ∨
      ∃ length, readHeader tight line = .error (.frameTooLarge length tight.maxFrameSize) := by
  have frames := within.frames
  unfold readHeader
  cases Text.Utf8.decode line with
  | error fault => exact .inl rfl
  | ok text =>
      dsimp only
      cases Header.parse text with
      | error violation => exact .inl rfl
      | ok length =>
          dsimp only
          by_cases large : tight.maxFrameSize < length
          · rw [if_pos large]
            exact .inr ⟨length, rfl⟩
          · rw [if_neg large, if_neg (by omega)]
            exact .inl rfl

namespace Reader

def loosened (loose : Limits) (reader : Reader) : Reader :=
  { reader with limits := loose }

/-- An operation under two limits: it comes to the same, or the tighter limit strikes, and then the
other operation has left at most as much of the input. -/
inductive Loosens (loose : Limits) {α : Type} (first second : Except Halt α × Reader) : Prop where
  | same (both : second = (first.1, first.2.loosened loose)) (within : first.2.limits.Within loose)
  | struck {failure : Failure} (strikes : first.1 = .error (.failed failure))
      (limit : failure.IsLimit) (further : second.2.source.size ≤ first.2.source.size)

variable {loose : Limits} {reader : Reader}

theorem pull_loosens (within : reader.limits.Within loose) (isLast : UInt8 → Bool) (room : Nat) :
    let p := reader.source.pull isLast room (budget reader.limits)
    let q := reader.source.pull isLast room (budget loose)
    (q = p ∧ pulled loose p = pulled reader.limits p) ∨
      (∃ limit, pulled reader.limits p = .error (.failed (.readTimeout limit))) ∧
        q.rest.size ≤ p.rest.size := by
  intro p q
  rcases Source.pull_within (budget_within within) isLast room reader.source with
    ⟨goesOn, same⟩ | ⟨timedOut, further⟩
  · refine .inl ⟨same, ?_⟩
    unfold pulled
    split <;> first | rfl | contradiction
  · refine .inr ⟨⟨reader.limits.readTimeout.getD ⟨0⟩, ?_⟩, further⟩
    simp only [p, pulled, timedOut]

theorem readLine_loosens (within : reader.limits.Within loose) :
    Loosens loose reader.readLine (reader.loosened loose).readLine := by
  have left := reader.readLine_after
  have leftLoose := (reader.loosened loose).readLine_after
  rcases pull_loosens within isLineBreak maxLineLength with
    ⟨same, answers⟩ | ⟨⟨limit, struck⟩, further⟩
  · refine .same (Prod.ext ?_ ?_) (by rw [left]; exact within)
    · simp only [Reader.readLine, loosened, same, answers]
      cases pulled reader.limits _ with
      | error halt => rfl
      | ok taken =>
          dsimp only
          split <;> rfl
    · rw [left, leftLoose]
      simp only [loosened, same]
  · refine .struck ?_ (.readTimeout limit) ?_
    · simp only [Reader.readLine, struck]
    · rw [left, leftLoose]
      exact further

theorem readBody_loosens (within : reader.limits.Within loose) (length : Nat) :
    Loosens loose (reader.readBody length) ((reader.loosened loose).readBody length) := by
  have left := reader.readBody_after length
  have leftLoose := (reader.loosened loose).readBody_after length
  rcases pull_loosens within (fun _ => false) length with
    ⟨same, answers⟩ | ⟨⟨limit, struck⟩, further⟩
  · refine .same (Prod.ext ?_ ?_) (by rw [left]; exact within)
    · simp only [Reader.readBody, loosened, same, answers]
      split
      · rfl
      · rfl
      · split <;> rfl
      · rfl
    · rw [left, leftLoose]
      simp only [loosened, same]
  · refine .struck ?_ (.readTimeout limit) ?_
    · simp only [Reader.readBody, struck]
    · rw [left, leftLoose]
      exact further

theorem readRest_shortens (reader : Reader) (length : Nat) :
    (reader.readRest length).2.source.size ≤ reader.readLine.2.source.size := by
  unfold readRest
  cases reader.readLine with
  | mk line after =>
      match line with
      | .error halt => exact Nat.le_refl _
      | .ok 0 => exact Nat.le_refl _
      | .ok (n + 1) =>
          have body := after.readBody_size length
          dsimp only
          split
          · rename_i taken
            rw [taken] at body
            dsimp only at body ⊢
            omega
          · rename_i taken
            rw [taken] at body
            dsimp only at body ⊢
            omega

theorem read_shortens (reader : Reader) :
    reader.read.2.source.size ≤ reader.readLine.2.source.size := by
  unfold Reader.read
  cases reader.readLine with
  | mk line after =>
      match line with
      | .error halt => exact Nat.le_refl _
      | .ok 0 => exact Nat.le_refl _
      | .ok (n + 1) =>
          dsimp only
          split
          · exact Nat.le_refl _
          · exact after.readRest_size _

theorem readRest_loosens (within : reader.limits.Within loose) (length : Nat) :
    Loosens loose (reader.readRest length) ((reader.loosened loose).readRest length) := by
  have shorter := (reader.loosened loose).readRest_shortens length
  have line := readLine_loosens within
  cases read : reader.readLine with
  | mk answer after =>
      rw [read] at line
      cases line with
      | @struck failure strikes limit further =>
          cases strikes
          have stops : reader.readRest length = (.error (.failed failure), after) := by
            simp only [readRest, read]
          rw [stops]
          exact .struck rfl limit (Nat.le_trans shorter further)
      | same other within =>
          simp only [readRest, read, other]
          cases answer with
          | error halt => exact .same rfl within
          | ok size =>
              cases size with
              | zero => exact .same rfl within
              | succ n =>
                  have body := readBody_loosens within length
                  dsimp only
                  cases taken : after.readBody length with
                  | mk answer last =>
                      rw [taken] at body
                      cases body with
                      | struck strikes limit further =>
                          cases strikes
                          refine .struck rfl limit ?_
                          split
                          · rename_i looseTaken
                            rw [looseTaken] at further
                            exact further
                          · rename_i looseTaken
                            rw [looseTaken] at further
                            exact further
                      | same other within =>
                          simp only [other]
                          cases answer with
                          | error halt => exact .same rfl within
                          | ok => exact .same rfl within

theorem read_loosens (within : reader.limits.Within loose) :
    Loosens loose reader.read (reader.loosened loose).read := by
  have shorter := (reader.loosened loose).read_shortens
  have line := readLine_loosens within
  cases read : reader.readLine with
  | mk answer after =>
      rw [read] at line
      cases line with
      | @struck failure strikes limit further =>
          cases strikes
          have stops : reader.read = (.error (.failed failure), after) := by
            simp only [Reader.read, read]
          rw [stops]
          exact .struck rfl limit (Nat.le_trans shorter further)
      | same other within =>
          simp only [Reader.read, read, other]
          cases answer with
          | error halt => exact .same rfl within
          | ok size =>
              cases size with
              | zero => exact .same rfl within
              | succ n =>
                  dsimp only
                  rcases readHeader_within within after.line with same | ⟨length, refused⟩
                  · have header : readHeader (after.loosened loose).limits (after.loosened loose).line =
                        readHeader after.limits after.line := same
                    rw [header]
                    cases readHeader after.limits after.line with
                    | error violation => exact .same rfl within
                    | ok length => exact readRest_loosens within length
                  · rw [refused]
                    refine .struck rfl (.frameTooLarge length _) ?_
                    rw [Reader.read, other] at shorter
                    exact shorter

end Reader

end Frame

def Ending.IsLimit (ending : Ending) : Prop :=
  ∃ failure, ending = .failed failure ∧ failure.IsLimit

namespace Session

variable {loose : Limits} {state : State}

def State.loosened (loose : Limits) (state : State) : State :=
  state.mapReader (Frame.Reader.loosened loose)

theorem turn_reads (server : Server) (state : State) :
    (turn server state).state.reader = state.reader.read.2 := by
  unfold turn
  cases state.reader.read with
  | mk answered after =>
      cases answered with
      | error halt => rfl
      | ok came =>
          cases came with
          | none => rfl
          | some body =>
              dsimp only
              cases Frame.decode body with
              | error violation => rfl
              | ok message => exact answer_keeps_reader server { state with reader := after } _ message

theorem turn_shortens (server : Server) (state : State) :
    (turn server state).state.source.size ≤ state.source.size := by
  have line := state.reader.readLine_size
  have rest := state.reader.read_shortens
  rw [State.source, turn_reads, State.source]
  omega

theorem serveFrom_shortens (server : Server) (state : State) :
    (serveFrom server state).close.state.source.size ≤ (turn server state).state.source.size := by
  induction state using serveFrom.induct server with
  | case1 state close step =>
      rw [serveFrom_stops step, step]
      exact Nat.le_refl _
  | case2 state t next step ih =>
      have shorter := turn_shortens server next
      rw [serveFrom_goesOn step, step]
      exact Nat.le_trans ih shorter

theorem turn_loosens (server : Server) (within : state.reader.limits.Within loose) :
    (turn server (state.loosened loose) =
          (turn server state).mapReader (Frame.Reader.loosened loose) ∧
        (turn server state).state.reader.limits.Within loose) ∨
      ∃ close, turn server state = .stops close ∧ close.ending.IsLimit ∧
        close.state.sink = state.sink ∧
        (turn server (state.loosened loose)).state.source.size ≤ close.state.source.size := by
  have reads := turn_reads server (state.loosened loose)
  have frame := Frame.Reader.read_loosens within
  cases read : state.reader.read with
  | mk answered after =>
      rw [read] at frame
      cases frame with
      | @struck failure strikes limit further =>
          cases strikes
          refine .inr ⟨⟨none, none, .failed failure, { state with reader := after }⟩, ?_,
            ⟨failure, rfl, limit⟩, rfl, ?_⟩
          · simp only [turn, read]
            rfl
          · rw [State.source, reads]
            exact further
      | same other within =>
          have readLoose : (state.loosened loose).reader.read =
              (answered, after.loosened loose) := other
          refine .inl ?_
          simp only [turn, read, readLoose]
          cases answered with
          | error halt => exact ⟨rfl, within⟩
          | ok came =>
              cases came with
              | none => exact ⟨rfl, within⟩
              | some body =>
                  dsimp only
                  cases Frame.decode body with
                  | error violation => exact ⟨rfl, within⟩
                  | ok message =>
                      refine ⟨answer_mapReader _ server { state with reader := after } _ message, ?_⟩
                      rw [answer_keeps_reader]
                      exact within

theorem serveFrom_loosens (server : Server) (within : state.reader.limits.Within loose) :
    let run := serveFrom server state
    let looser := serveFrom server (state.loosened loose)
    (looser.output = run.output ∧ looser.ending = run.ending ∧
        looser.close.state.source = run.close.state.source) ∨
      run.ending.IsLimit ∧ run.output <+: looser.output ∧
        looser.close.state.source.size ≤ run.close.state.source.size := by
  have kept := serveFrom_keeps server (state.loosened loose)
  have shortens := serveFrom_shortens server (state.loosened loose)
  induction state using serveFrom.induct server with
  | case1 state close step =>
      rcases turn_loosens server within with ⟨same, -⟩ | ⟨close, stops, limit, sink, further⟩
      · rw [step] at same
        rw [serveFrom_stops step, serveFrom_stops same]
        exact .inl ⟨rfl, rfl, rfl⟩
      · rw [serveFrom_stops stops]
        refine .inr ⟨limit, ?_, Nat.le_trans shortens further⟩
        change close.state.sink.taken <+: _
        rw [sink]
        exact kept
  | case2 state t next step ih =>
      rcases turn_loosens server within with ⟨same, withinNext⟩ | ⟨close, stops, -⟩
      · rw [step] at same withinNext
        rw [serveFrom_goesOn step, serveFrom_goesOn same]
        exact ih withinNext (serveFrom_keeps server _) (serveFrom_shortens server _)
      · rw [step] at stops
        cases stops

/-- Looser limits do not show before the tighter ones strike. A session that no limit ends writes the
same, ends the same way and takes the same of its input under all looser limits. One that a limit ends
has written the front of what it writes under looser limits, and has taken at most as much. -/
theorem looser_limits_go_on :
    ∀ (strict : Bool) (identity : Identity) (tight loose : Limits), tight.Within loose →
      ∀ (source : Source) (sink : Sink),
      let run := serve ⟨strict, identity, tight⟩ source sink
      let looser := serve ⟨strict, identity, loose⟩ source sink
      (¬run.ending.IsLimit → looser.output = run.output ∧ looser.ending = run.ending ∧
          looser.consumed source = run.consumed source) ∧
        (run.ending.IsLimit → run.output <+: looser.output ∧
          run.consumed source ≤ looser.consumed source) := by
  intro strict identity tight loose within source sink run looser
  let server : Server := ⟨strict, identity, tight⟩
  have started : (start server source sink).reader.limits.Within loose := within
  have same : looser = serveFrom server ((start server source sink).loosened loose) :=
    serveFrom_limits server loose _
  rcases serveFrom_loosens server started with ⟨output, ending, left⟩ | ⟨limit, front, further⟩
  · rw [← same] at output ending left
    have consumed : looser.consumed source = run.consumed source :=
      congrArg (source.size - ·.size) left
    constructor
    · intro _
      exact ⟨output, ending, consumed⟩
    · intro _
      rw [output, consumed]
      exact ⟨List.prefix_refl _, Nat.le_refl _⟩
  · rw [← same] at front further
    constructor
    · intro unlimited
      exact absurd limit unlimited
    · intro _
      exact ⟨front, Nat.sub_le_sub_left further _⟩

/-- Two bytes with a pause between them, shorter than the timeout or longer. -/
theorem looser_limits_go_on_after_a_pause :
    let tight : Limits := { maxFrameSize := 5, readTimeout := some ⟨10⟩ }
    let loose : Limits := { maxFrameSize := 9 }
    let source (pause : Nat) : Source := [.bytes [67], .pause pause, .bytes [10]]
    let run (pause : Nat) := serve { limits := tight } (source pause) {}
    let looser (pause : Nat) := serve { limits := loose } (source pause) {}
    tight.Within loose ∧ ¬(run 7).ending.IsLimit ∧ (looser 7).ending = (run 7).ending ∧
      (run 70).ending.IsLimit ∧ (run 70).consumed (source 70) ≤ (looser 70).consumed (source 70) := by
  intro tight loose source run looser
  have within : tight.Within loose := by
    refine ⟨by decide, ?_⟩
    intro longer limited
    cases limited
  have ends : (run 7).ending = .failed (.violation (.missingContentLength "C")) := by
    change (serveFrom _ _).close.ending = _
    rw [serveFrom_stops rfl]
    rfl
  have unlimited : ¬(run 7).ending.IsLimit := by
    rw [ends]
    rintro ⟨_, ⟨⟩, limit⟩
    cases limit
  have limited : (run 70).ending.IsLimit := by
    refine ⟨.readTimeout ⟨10⟩, ?_, .readTimeout _⟩
    change (serveFrom _ _).close.ending = _
    rw [serveFrom_stops rfl]
    rfl
  obtain ⟨same, -⟩ := looser_limits_go_on false {} tight loose within (source 7) {}
  obtain ⟨-, further⟩ := looser_limits_go_on false {} tight loose within (source 70) {}
  exact ⟨within, unlimited, (same unlimited).2.1, limited, (further limited).2⟩

end Session
end BuildPeer
