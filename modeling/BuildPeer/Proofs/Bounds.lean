import BuildPeer.Proofs.Faults
import BuildPeer.Proofs.Loosening

/-!
How much a call reads, and how many calls a session makes. A line has at most 1024 bytes and a body
at most as many as the limit says, since the header is judged before the body buffer is made; so
neither a call nor what it leaves in the buffers is greater than that, whatever the other side
sends. `Takes` is this bound for one operation, and `Takes.trans` adds it up over the parts of a
frame. A call that gives a message has taken a header line, a separator and a body, which are 18
bytes at least, so an input has room for so many messages only. A session reads one of them in a
round, and it stops at the first call that gives none.
-/

namespace BuildPeer

namespace Source

theorem cut_room (isLast : UInt8 → Bool) (room : Nat) (chunk : Bytes) :
    (cut isLast room chunk).1.length ≤ room := by
  induction room generalizing chunk with
  | zero => simp [cut]
  | succ room ih =>
      cases chunk with
      | nil => simp [cut]
      | cons b chunk =>
          unfold cut
          split
          · simp
          · simpa using ih chunk

theorem pull_room (isLast : UInt8 → Bool) (room : Nat) (budget : Option Nat) (source : Source) :
    (pull isLast room budget source).taken.length ≤ room := by
  induction source generalizing room budget with
  | nil => simp [pull]
  | cons arrival rest ih =>
      cases arrival with
      | bytes chunk =>
          have short := cut_room isLast room chunk
          unfold pull
          split
          · rename_i cutting
            rwa [cutting] at short
          · rename_i taken _ cutting
            rw [cutting] at short
            have more := ih (room - taken.length) budget
            rw [List.length_append]
            dsimp only at short
            omega
      | pause d =>
          unfold pull
          split
          · simp
          · split
            · exact ih room none
            · split
              · exact ih room _
              · simp
      | fault error => unfold pull; split <;> simp
      | silence => unfold pull; split <;> simp

theorem cut_reached (isLast : UInt8 → Bool) (room : Nat) (chunk : Bytes)
    (reached : (cut isLast room chunk).2.2 = true) :
    (cut isLast room chunk).1.length = room ∨
      ∃ b, (cut isLast room chunk).1.getLast? = some b ∧ isLast b = true := by
  induction room generalizing chunk with
  | zero => simp [cut]
  | succ room ih =>
      cases chunk with
      | nil => simp [cut] at reached
      | cons b chunk =>
          by_cases last : isLast b = true
          · exact .inr ⟨b, by simp [cut, last], last⟩
          · simp only [cut, last, Bool.false_eq_true, ↓reduceIte] at reached ⊢
            rcases ih chunk reached with full | ⟨other, ends, otherLast⟩
            · exact .inl (by simp [full])
            · exact .inr ⟨other, by simp [List.getLast?_cons, ends], otherLast⟩

/-- A read that has all it wanted has taken as many bytes as it wanted, or one that ends it. -/
theorem pull_filled {isLast : UInt8 → Bool} {room : Nat} {budget : Option Nat} {source : Source}
    (filled : (pull isLast room budget source).stop = .filled) :
    (pull isLast room budget source).taken.length = room ∨
      ∃ b, (pull isLast room budget source).taken.getLast? = some b ∧ isLast b = true := by
  induction source generalizing room budget with
  | nil =>
      by_cases none_ : room = 0
      · simp [pull, none_]
      · simp [pull, none_] at filled
  | cons arrival rest ih =>
      cases arrival with
      | bytes chunk =>
          have short := cut_room isLast room chunk
          have reached := cut_reached isLast room chunk
          unfold pull at filled ⊢
          split
          · rename_i cutting
            rw [cutting] at reached
            exact reached rfl
          · rename_i taken _ cutting
            rw [cutting] at filled short
            rcases ih filled with full | ⟨b, ends, last⟩
            · refine .inl ?_
              rw [List.length_append, full]
              exact Nat.add_sub_of_le short
            · exact .inr ⟨b, by simp [List.getLast?_append, ends], last⟩
      | pause d =>
          by_cases none_ : room = 0
          · simp [pull, none_]
          · unfold pull at filled ⊢
            rw [if_neg none_] at filled ⊢
            cases budget with
            | none => exact ih filled
            | some ms =>
                by_cases enough : d ≤ ms
                · simp only [if_pos enough] at filled ⊢
                  exact ih filled
                · simp [enough] at filled
      | fault error =>
          by_cases none_ : room = 0
          · simp [pull, none_]
          · simp [pull, none_] at filled
      | silence =>
          by_cases none_ : room = 0
          · simp [pull, none_]
          · cases budget <;> simp [pull, none_] at filled

/-- A script that does not fall silent keeps no read waiting for ever, and what is left of it does
not fall silent either. -/
theorem pull_comes {source : Source} (comes : .silence ∉ source) (isLast : UInt8 → Bool)
    (room : Nat) (budget : Option Nat) :
    (pull isLast room budget source).stop ≠ .waits ∧
      .silence ∉ (pull isLast room budget source).rest := by
  induction source generalizing room budget with
  | nil => unfold pull; split <;> simp
  | cons arrival rest ih =>
      have comesLater : .silence ∉ rest := fun member => comes (List.mem_cons_of_mem _ member)
      cases arrival with
      | bytes chunk =>
          unfold pull
          split
          · simp [comesLater]
          · exact ih comesLater _ budget
      | pause d =>
          unfold pull
          split
          · simp [comesLater]
          · split
            · exact ih comesLater room none
            · split
              · exact ih comesLater room _
              · simp [comesLater]
      | fault error => unfold pull; split <;> simp [comesLater]
      | silence => exact absurd List.mem_cons_self comes

theorem pull_timed (isLast : UInt8 → Bool) (room ms : Nat) (source : Source) :
    (pull isLast room (some ms) source).stop ≠ .waits := by
  induction source generalizing room ms with
  | nil => unfold pull; split <;> simp
  | cons arrival rest ih =>
      cases arrival with
      | bytes chunk =>
          unfold pull
          split
          · simp
          · exact ih _ ms
      | pause d =>
          unfold pull
          split
          · simp
          · dsimp only
            split
            · exact ih room _
            · simp
      | fault error => unfold pull; split <;> simp
      | silence => unfold pull; split <;> simp

end Source

/-- Every read of the script is over some time: there is a timeout, or the script does not fall
silent. -/
def Limits.Returns (limits : Limits) (source : Source) : Prop :=
  limits.readTimeout ≠ none ∨ .silence ∉ source

namespace Frame

theorem decode_empty (message : Envelope) : decode [] ≠ .ok message := by
  have text : Text.Utf8.decode [] = .ok [] := rfl
  intro decoded
  rw [decode, text] at decoded
  dsimp only at decoded
  split at decoded
  · cases decoded
  · rename_i other read
    exact Envelope.decode_nil other read

theorem length_le_encode (text : List Char) : text.length ≤ (Text.Utf8.encode text).length := by
  induction text with
  | nil => simp
  | cons c text ih =>
      have some_ := List.length_pos_iff.mpr (Text.Utf8.encodeChar_ne_nil c)
      rw [Text.Utf8.encode, List.flatMap_cons, List.length_append, List.length_cons]
      rw [Text.Utf8.encode] at ih
      omega

theorem readHeader_least {limits : Limits} {line : Bytes} {length : Nat}
    (declared : readHeader limits line = .ok length) :
    16 ≤ line.length ∧ length ≤ limits.maxFrameSize := by
  unfold readHeader at declared
  split at declared
  · cases declared
  · rename_i text decoded
    rw [Text.Utf8.decode_eq_ok_iff] at decoded
    split at declared
    · cases declared
    · rename_i n parsed
      split at declared
      · cases declared
      · rename_i fits
        cases declared
        have long := length_le_encode text
        obtain ⟨-, -, some_, -, -, -⟩ := Header.declares_of_parse parsed
        have digits := List.length_pos_iff.mpr some_
        have tag : "Content-Length:".toList.length = 15 := by decide
        simp only [List.length_append, tag] at long
        rw [decoded] at long
        omega

namespace Reader

variable {reader before between after : Reader} {limits : Limits} {body : Bytes} {length : Nat}
  {message : Envelope}

structure Bounded (reader : Reader) : Prop where
  line : reader.line.length ≤ maxLineLength
  body : reader.body.bytes.length ≤ reader.limits.maxFrameSize

/-- From one reader to another at most so many bytes were taken, and the buffers stayed bounded. -/
structure Takes (most : Nat) (before after : Reader) : Prop where
  limits : after.limits = before.limits
  bounded : before.Bounded → after.Bounded
  shortens : after.source.size ≤ before.source.size
  most : before.source.size ≤ after.source.size + most

theorem Takes.trans {first second : Nat} (here : Takes first before between)
    (there : Takes second between after) : Takes (first + second) before after where
  limits := there.limits.trans here.limits
  bounded := fun bounded => there.bounded (here.bounded bounded)
  shortens := Nat.le_trans there.shortens here.shortens
  most := by
    have := here.most
    have := there.most
    omega

theorem Takes.mono {less more : Nat} (takes : Takes less before after) (fewer : less ≤ more) :
    Takes more before after :=
  ⟨takes.limits, takes.bounded, takes.shortens, by have := takes.most; omega⟩

theorem readLine_takes (reader : Reader) : Takes maxLineLength reader reader.readLine.2 := by
  have left := reader.readLine_after
  have size := reader.readLine_size
  have short : reader.readLine.2.line.length ≤ maxLineLength := by
    rw [left]
    exact Source.pull_room _ _ _ _
  refine ⟨by rw [left], fun bounded => ⟨short, ?_⟩, by omega, by omega⟩
  rw [left]
  exact bounded.body

/-- A body within the limit fills its buffer and no more, also if it is cut short. -/
theorem readBody_takes (reader : Reader) (fits : length ≤ reader.limits.maxFrameSize) :
    Takes length reader (reader.readBody length).2 := by
  have left := reader.readBody_after length
  have size := reader.readBody_size length
  have short : (reader.readBody length).2.body.filled.length ≤ length := by
    rw [left]
    exact Source.pull_room _ _ _ _
  have made : (reader.readBody length).2.body.size = length := by rw [left]
  refine ⟨by rw [left], fun bounded => ⟨?_, ?_⟩, by omega, by omega⟩
  · rw [left]
    exact bounded.line
  · have same : (reader.readBody length).2.limits = reader.limits := by rw [left]
    rw [same, Block.bytes, made, List.length_append, List.length_replicate]
    omega

theorem readRest_takes (reader : Reader) (fits : length ≤ reader.limits.maxFrameSize) :
    Takes (maxLineLength + length) reader (reader.readRest length).2 := by
  have line := reader.readLine_takes
  unfold readRest
  cases separator : reader.readLine with
  | mk answer separated =>
      rw [separator] at line
      match answer with
      | .error halt => exact line.mono (Nat.le_add_right _ _)
      | .ok 0 => exact line.mono (Nat.le_add_right _ _)
      | .ok (n + 1) =>
          have limited : separated.limits = reader.limits := line.limits
          have body : Takes length separated (separated.readBody length).2 :=
            separated.readBody_takes (by rw [limited]; exact fits)
          dsimp only
          cases read : separated.readBody length with
          | mk answer last =>
              rw [read] at body
              cases answer with
              | error halt => exact line.trans body
              | ok done => exact line.trans body

/-- One call, however it ends. The body buffer is made only for a length within the limit. -/
theorem readMessage_takes (reader : Reader) :
    Takes (2 * maxLineLength + reader.limits.maxFrameSize) reader reader.readMessage.2 := by
  rw [reader.readMessage_read.1]
  have line := reader.readLine_takes
  unfold Reader.read
  cases header : reader.readLine with
  | mk answer opened =>
      rw [header] at line
      match answer with
      | .error halt => exact line.mono (by omega)
      | .ok 0 => exact line.mono (by omega)
      | .ok (n + 1) =>
          dsimp only
          cases declared : readHeader opened.limits opened.line with
          | error violation => exact line.mono (by omega)
          | ok length =>
              have fits := (readHeader_least declared).2
              have limited : opened.limits = reader.limits := line.limits
              refine (line.trans (opened.readRest_takes fits)).mono ?_
              rw [limited] at fits
              omega

theorem start_bounded (limits : Limits) (source : Source) : (start limits source).Bounded :=
  ⟨Nat.zero_le _, Nat.zero_le _⟩

theorem behind_bounded (bounded : reader.Bounded) (calls : Nat) :
    (reader.behind calls).Bounded ∧ (reader.behind calls).limits = reader.limits := by
  induction calls with
  | zero => exact ⟨bounded, rfl⟩
  | succ calls ih =>
      have takes := (reader.behind calls).readMessage_takes
      rw [behind_succ]
      exact ⟨takes.bounded ih.1, takes.limits.trans ih.2⟩

-- What a message takes at least.

theorem readBody_whole (read : reader.readBody length = (.ok (), after)) :
    after.body.bytes.length = length ∧ after.source.size + length = reader.source.size := by
  have left := reader.readBody_after length
  have size := reader.readBody_size length
  rw [read] at left size
  have filled : (reader.source.pull (fun _ => false) length (budget reader.limits)).stop =
      .filled := by
    cases stop : (reader.source.pull (fun _ => false) length (budget reader.limits)).stop with
    | filled => rfl
    | failed error =>
        simp only [readBody, pulled, stop] at read
        split at read <;> cases read
    | _ =>
        simp only [readBody, pulled, stop] at read
        cases read
  have whole : (reader.source.pull (fun _ => false) length (budget reader.limits)).taken.length =
      length := by
    simpa using Source.pull_filled filled
  dsimp only at left size
  have full : after.body = ⟨length, after.body.filled⟩ := by rw [left]
  have taken : after.body.filled.length = length := by
    rw [left]
    exact whole
  constructor
  · rw [full, Block.bytes, List.length_append, List.length_replicate, taken]
    exact Nat.add_sub_of_le (Nat.le_refl _)
  · omega

/-- The header line, one byte of the separator line, and the body. -/
theorem read_least (read : reader.read = (.ok (some body), after)) :
    after.source.size + (17 + body.length) ≤ reader.source.size := by
  have line := reader.readLine_size
  unfold Reader.read at read
  split at read
  · cases read
  · cases read
  · rename_i opened header
    rw [header] at line
    split at read
    · cases read
    · rename_i length declared
      have long := (readHeader_least declared).1
      have separator := opened.readLine_size
      unfold readRest at read
      split at read
      · cases read
      · cases read
      · rename_i n separated broken
        have some_ := readLine_length broken
        rw [broken] at separator
        split at read
        · cases read
        · rename_i last bodyRead
          obtain ⟨filled, took⟩ := readBody_whole bodyRead
          cases read
          dsimp only at line separator
          omega

theorem readMessage_least (read : reader.readMessage = (.ok (some message), after)) :
    after.source.size + 18 ≤ reader.source.size := by
  unfold readMessage at read
  split at read
  · cases read
  · cases read
  · rename_i body next came
    have least := read_least came
    split at read
    · cases read
    · rename_i decoded
      cases read
      have some_ : body ≠ [] := by
        rintro rfl
        exact decode_empty _ decoded
      have byte := List.length_pos_iff.mpr some_
      omega

-- Calls that return.

def Returns (reader : Reader) : Prop :=
  reader.limits.Returns reader.source

theorem Returns.pull (returns : reader.Returns) (isLast : UInt8 → Bool) (room : Nat) :
    let p := reader.source.pull isLast room (budget reader.limits)
    p.stop ≠ .waits ∧ reader.limits.Returns p.rest := by
  rcases returns with timed | comes
  · obtain ⟨timeout, given⟩ := Option.ne_none_iff_exists'.mp timed
    refine ⟨?_, .inl timed⟩
    rw [budget, given]
    exact Source.pull_timed _ _ _ _
  · obtain ⟨stops, left⟩ := Source.pull_comes comes isLast room (budget reader.limits)
    exact ⟨stops, .inr left⟩

structure Ends {α : Type} (operation : Except Halt α × Reader) : Prop where
  comes : operation.1 ≠ .error .waits
  goesOn : operation.2.Returns

theorem Returns.readLine (returns : reader.Returns) : Ends reader.readLine := by
  obtain ⟨stops, left⟩ := returns.pull isLineBreak maxLineLength
  refine ⟨?_, by rw [readLine_after]; exact left⟩
  simp only [Reader.readLine]
  cases stop : (reader.source.pull isLineBreak maxLineLength (budget reader.limits)).stop with
  | waits => exact absurd stop stops
  | failed error => simp [pulled, stop]
  | timedOut => simp [pulled, stop]
  | filled =>
      simp only [pulled, stop]
      split <;> simp [violates]
  | ended =>
      simp only [pulled, stop]
      split <;> simp [violates]

theorem Returns.readBody (returns : reader.Returns) (length : Nat) :
    Ends (reader.readBody length) := by
  obtain ⟨stops, left⟩ := returns.pull (fun _ => false) length
  refine ⟨?_, by rw [readBody_after]; exact left⟩
  simp only [Reader.readBody]
  cases stop : (reader.source.pull (fun _ => false) length (budget reader.limits)).stop with
  | waits => exact absurd stop stops
  | failed error =>
      simp only [pulled, stop]
      split <;> simp [violates]
  | _ => simp [pulled, stop, violates]

theorem Returns.readRest (returns : reader.Returns) (length : Nat) :
    Ends (reader.readRest length) := by
  have line := returns.readLine
  unfold Reader.readRest
  cases separator : reader.readLine with
  | mk answer separated =>
      rw [separator] at line
      match answer with
      | .error halt => exact ⟨fun waits => line.comes (by cases waits; rfl), line.goesOn⟩
      | .ok 0 => exact ⟨by simp [violates], line.goesOn⟩
      | .ok (n + 1) =>
          have body := Returns.readBody line.goesOn length
          dsimp only at body ⊢
          cases read : separated.readBody length with
          | mk answer last =>
              rw [read] at body
              cases answer with
              | error halt => exact ⟨fun waits => body.comes (by cases waits; rfl), body.goesOn⟩
              | ok done => exact ⟨by simp, body.goesOn⟩

theorem Returns.read (returns : reader.Returns) : Ends reader.read := by
  have line := returns.readLine
  unfold Reader.read
  cases header : reader.readLine with
  | mk answer opened =>
      rw [header] at line
      match answer with
      | .error halt => exact ⟨fun waits => line.comes (by cases waits; rfl), line.goesOn⟩
      | .ok 0 => exact ⟨by simp, line.goesOn⟩
      | .ok (n + 1) =>
          dsimp only
          cases readHeader opened.limits opened.line with
          | error violation => exact ⟨by simp [violates], line.goesOn⟩
          | ok length => exact Returns.readRest line.goesOn length

theorem Returns.readMessage (returns : reader.Returns) : Ends reader.readMessage := by
  have frame := returns.read
  unfold Reader.readMessage
  cases read : reader.read with
  | mk answer after =>
      rw [read] at frame
      match answer with
      | .error halt => exact ⟨fun waits => frame.comes (by cases waits; rfl), frame.goesOn⟩
      | .ok none => exact ⟨by simp, frame.goesOn⟩
      | .ok (some body) =>
          dsimp only
          cases decode body with
          | error violation => exact ⟨by simp [violates], frame.goesOn⟩
          | ok message => exact ⟨by simp, frame.goesOn⟩

end Reader
end Frame

namespace Session

variable {state next : State} {t : Turn} {close : Close}

theorem Round.goesOn_read {server : Server} (round : Round server state (.goesOn t next)) :
    state.reader.readMessage = (.ok (some t.message), next.reader) := by
  cases round with
  | silent read met => exact read
  | answered read met sent => exact read

theorem turn_calls (server : Server) (state : State) :
    (turn server state).state.reader = state.reader.behind 1 := by
  rw [turn_reads, ← state.reader.readMessage_read.1]
  rfl

theorem Round.returns {server : Server} (round : Round server state (.stops close))
    (returns : state.reader.Returns) : close.ending ≠ .waits := by
  have read := returns.readMessage
  cases round with
  | @halted _ halt _ stopped =>
      rw [stopped] at read
      cases halt with
      | failed failure => simp [haltEnding]
      | waits => exact absurd rfl read.comes
  | _ => simp

/-- The calls of a run, one for each of its turns and one for its last part. All but the last have
given a message, so there are no more of them than the input has room for. -/
theorem serveFrom_calls (server : Server) (state : State) :
    let run := serveFrom server state
    run.close.state.reader = state.reader.behind (run.turns.length + 1) ∧
      18 * run.turns.length ≤ state.source.size ∧
      (state.reader.Returns → run.ending ≠ .waits) := by
  induction state using serveFrom.induct server with
  | case1 state close step =>
      have round := turn_round server state
      have calls := turn_calls server state
      rw [step] at round calls
      rw [serveFrom_stops step]
      exact ⟨calls, Nat.zero_le _, round.returns⟩
  | case2 state t next step ih =>
      have round := turn_round server state
      rw [step] at round
      have read := round.goesOn_read
      obtain ⟨calls, few, ends⟩ := ih
      have least := Frame.Reader.readMessage_least read
      have behind : next.reader = state.reader.readMessage.2 := by rw [read]
      rw [serveFrom_goesOn step]
      refine ⟨?_, ?_, fun returns => ends ?_⟩
      · rw [calls, behind, List.length_cons]
        rfl
      · simp only [State.source, List.length_cons] at few ⊢
        omega
      · rw [behind]
        exact returns.readMessage.goesOn

/-- Reading is bounded, whatever the other side sends. After any number of calls, one more call takes
at most two lines and a body within the limit, and leaves no more than that in its buffers; if it
gives a message, it takes 18 bytes at least. A session is so many calls and no more: all but the
last give a message, so on an input whose reads return it ends after one call for every 18 bytes and
one more. -/
theorem reading_is_bounded :
    (∀ (limits : Limits) (source : Source) (calls : Nat),
      let reader := (Frame.Reader.start limits source).behind calls
      let after := reader.readMessage.2
      after.source.size ≤ reader.source.size ∧
        reader.source.size - after.source.size ≤ 2048 + limits.maxFrameSize ∧
        after.line.length ≤ 1024 ∧ after.body.bytes.length ≤ limits.maxFrameSize ∧
        ∀ message, reader.readMessage.1 = .ok (some message) →
          18 ≤ reader.source.size - after.source.size) ∧
      ∀ (server : Server) (source : Source) (sink : Sink), server.limits.Returns source →
        let run := serve server source sink
        let calls := run.turns.length + 1
        run.ending ≠ .waits ∧
          run.close.state.reader = (Frame.Reader.start server.limits source).behind calls ∧
          calls ≤ source.size / 18 + 1 := by
  constructor
  · intro limits source calls reader after
    obtain ⟨bounded, same⟩ :=
      Frame.Reader.behind_bounded (Frame.Reader.start_bounded limits source) calls
    have takes : Frame.Reader.Takes _ reader after := reader.readMessage_takes
    have limited : reader.limits = limits := same
    have less := takes.shortens
    have most := takes.most
    obtain ⟨line, body⟩ := takes.bounded bounded
    rw [limited] at most
    rw [takes.limits, limited] at body
    refine ⟨less, ?_, line, body, ?_⟩
    · simp only [Frame.maxLineLength] at most
      omega
    · intro message gives
      have least : after.source.size + 18 ≤ reader.source.size :=
        Frame.Reader.readMessage_least (Prod.ext gives rfl)
      omega
  · intro server source sink returns run calls
    obtain ⟨reader, few, ends⟩ := serveFrom_calls server (start server source sink)
    have size : (start server source sink).source.size = source.size := rfl
    have same : serveFrom server (start server source sink) = run := rfl
    rw [same] at few
    refine ⟨ends returns, reader, ?_⟩
    omega

/-- The shortest message between lines without a carriage return, and a header line on which the
input falls silent: the timeout ends the session at the second call. -/
theorem reading_is_bounded_in_silence :
    let server : Server := { limits := { maxFrameSize := 9, readTimeout := some ⟨5⟩ } }
    let source : Source :=
      [.bytes (Text.Utf8.encode "Content-Length:9\n\n[\"\",0,\"\"]Cont".toList), .silence]
    let reader := Frame.Reader.start server.limits source
    server.limits.Returns source ∧
      reader.readMessage.1 = .ok (some (.request (.integer 0) "" none)) ∧
      18 ≤ source.size - reader.readMessage.2.source.size ∧
      (serve server source {}).ending ≠ .waits ∧
      (serve server source {}).turns.length + 1 ≤ 2 := by
  intro server source reader
  have returns : server.limits.Returns source := .inl (by simp [server])
  have gives : reader.readMessage.1 = .ok (some (.request (.integer 0) "" none)) :=
    Json.Reader.eq_ok_of_toOption (by decide +kernel)
  have size : source.size = 31 := by decide +kernel
  -- From here on the bytes do not matter, and comparing them would take long.
  clear_value source
  have least := (reading_is_bounded.1 server.limits source 0).2.2.2.2 _ gives
  obtain ⟨ends, -, few⟩ := reading_is_bounded.2 server source {} returns
  rw [size] at few
  exact ⟨returns, gives, least, ends, few⟩

end Session
end BuildPeer
