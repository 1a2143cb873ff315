import BuildPeer.Proofs.Faults

/-!
What a call waits for, part by part. A call reads a header line, the line behind it and a body; each
waits for the pauses in front of the last byte it needs, and the timeout is measured against each wait
alone. As long as no wait is longer, a reader with the timeout stays beside the same reader without it.
The first part that waits longer is given up; what it has taken is what comes in time.
-/

namespace BuildPeer

namespace Source

def content : Source → Bytes
  | [] => []
  | .bytes chunk :: rest => chunk ++ content rest
  | _ :: rest => content rest

/-- A script of bytes and pauses only. -/
def Calm (source : Source) : Prop :=
  ∀ arrival ∈ source, (∃ chunk, arrival = .bytes chunk) ∨ ∃ d, arrival = .pause d

/-- The pauses in front of the first `needed` bytes, or all of them if the script is over before. -/
def pausesBefore : Nat → Source → Nat
  | 0, _ => 0
  | _ + 1, [] => 0
  | n + 1, .bytes chunk :: rest => pausesBefore (n + 1 - chunk.length) rest
  | n + 1, .pause d :: rest => d + pausesBefore (n + 1) rest
  | n + 1, _ :: rest => pausesBefore (n + 1) rest

def arriving : Nat → Source → Bytes
  | _, [] => []
  | ms, .bytes chunk :: rest => chunk ++ arriving ms rest
  | ms, .pause d :: rest => if d ≤ ms then arriving (ms - d) rest else []
  | ms, _ :: rest => arriving ms rest

/-- How many of the bytes that are coming a read needs: those up to the first that ends it, but no more
than there is room for. -/
def needed (isLast : UInt8 → Bool) (room : Nat) (coming : Bytes) : Nat :=
  min (coming.findIdx isLast + 1) room

theorem size_eq_content (source : Source) : source.size = source.content.length := by
  induction source with
  | nil => rfl
  | cons arrival rest ih => cases arrival <;> simp [size, content, ih]

theorem pull_content (isLast : UInt8 → Bool) (room : Nat) (budget : Option Nat) (source : Source) :
    (source.pull isLast room budget).taken ++ (source.pull isLast room budget).rest.content =
      source.content := by
  induction source generalizing room budget with
  | nil => simp [pull, content]
  | cons arrival rest ih =>
      cases arrival with
      | bytes chunk =>
          have whole := cut_append isLast room chunk
          have all := cut_open isLast room chunk
          have more := ih (room - (cut isLast room chunk).1.length) budget
          unfold pull
          split
          · rename_i taken left cutting
            simp only [cutting] at whole
            simp only [content, ← whole, List.append_assoc]
          · rename_i taken left cutting
            simp only [cutting] at whole all more
            rw [all trivial, List.append_nil] at whole
            rw [List.append_assoc, more, content, whole]
      | pause d =>
          unfold pull
          split
          · rfl
          · split
            · exact ih room none
            · rename_i ms
              split
              · exact ih room (some (ms - d))
              · rfl
      | fault error => unfold pull; split <;> rfl
      | silence => unfold pull; split <;> rfl

theorem Calm.tail {arrival : Arrival} {source : Source} (calm : Calm (arrival :: source)) :
    Calm source :=
  fun other member => calm other (List.mem_cons_of_mem _ member)

theorem Calm.pull {source : Source} (calm : source.Calm) (isLast : UInt8 → Bool) (room : Nat)
    (budget : Option Nat) : (source.pull isLast room budget).rest.Calm := by
  induction source generalizing room budget with
  | nil => exact calm
  | cons arrival rest ih =>
      have bytes (left : Bytes) : Calm (.bytes left :: rest) :=
        List.forall_mem_cons.mpr ⟨.inl ⟨left, rfl⟩, calm.tail⟩
      have pause (d : Nat) : Calm (.pause d :: rest) :=
        List.forall_mem_cons.mpr ⟨.inr ⟨d, rfl⟩, calm.tail⟩
      rcases calm arrival List.mem_cons_self with ⟨chunk, rfl⟩ | ⟨d, rfl⟩
      · unfold Source.pull
        split
        · exact bytes _
        · exact ih calm.tail _ _
      · unfold Source.pull
        split
        · exact pause _
        · split
          · exact ih calm.tail _ _
          · split
            · exact ih calm.tail _ _
            · exact pause _

theorem needed_append {isLast : UInt8 → Bool} {room : Nat} {chunk : Bytes}
    (short : (cut isLast room chunk).2.2 = false) (coming : Bytes) :
    (cut isLast room chunk).1 = chunk ∧ chunk.length < room ∧
      needed isLast room (chunk ++ coming) =
        chunk.length + needed isLast (room - chunk.length) coming := by
  induction chunk generalizing room with
  | nil =>
      cases room with
      | zero => simp [cut] at short
      | succ room => simp [cut]
  | cons b chunk ih =>
      cases room with
      | zero => simp [cut] at short
      | succ room =>
          unfold cut at short ⊢
          by_cases last : isLast b = true
          · simp [last] at short
          · simp only [last, Bool.false_eq_true, ite_false] at short ⊢
            obtain ⟨same, fits, more⟩ := ih short
            refine ⟨by rw [same], by simpa using fits, ?_⟩
            simp only [needed, List.cons_append, List.findIdx_cons, last, cond_false,
              List.length_cons] at more ⊢
            omega

theorem needed_reached {isLast : UInt8 → Bool} {room : Nat} {chunk : Bytes}
    (reached : (cut isLast room chunk).2.2 = true) (coming : Bytes) :
    needed isLast room (chunk ++ coming) ≤ chunk.length := by
  induction chunk generalizing room with
  | nil =>
      cases room with
      | zero => simp [needed]
      | succ room => simp [cut] at reached
  | cons b chunk ih =>
      cases room with
      | zero => simp [needed]
      | succ room =>
          unfold cut at reached
          by_cases last : isLast b = true
          · simp [needed, List.findIdx_cons, last]
          · simp only [last, Bool.false_eq_true, ite_false] at reached
            have more := ih reached
            simp only [needed, List.cons_append, List.findIdx_cons, last, cond_false,
              List.length_cons] at more ⊢
            omega

/-- What a read waits for: the pauses until the last byte it needs is there, or the script is over. -/
def wait (isLast : UInt8 → Bool) (room : Nat) (source : Source) : Nat :=
  source.pausesBefore (needed isLast room source.content)

variable {isLast : UInt8 → Bool} {room : Nat} {chunk : Bytes} {rest : Source}

theorem pausesBefore_zero (source : Source) : source.pausesBefore 0 = 0 := by
  cases source <;> rfl

theorem pausesBefore_bytes (n : Nat) (chunk : Bytes) (rest : Source) :
    pausesBefore n (.bytes chunk :: rest) = pausesBefore (n - chunk.length) rest := by
  cases n with
  | zero => rw [pausesBefore_zero, Nat.zero_sub, pausesBefore_zero]
  | succ n => rfl

theorem wait_full (isLast : UInt8 → Bool) (source : Source) : wait isLast 0 source = 0 := by
  rw [wait, needed, Nat.min_zero, pausesBefore_zero]

theorem wait_open (short : (cut isLast room chunk).2.2 = false) (rest : Source) :
    wait isLast room (.bytes chunk :: rest) = wait isLast (room - chunk.length) rest := by
  rw [wait, content, (needed_append short _).2.2, pausesBefore_bytes, Nat.add_sub_cancel_left, wait]

theorem wait_reached (reached : (cut isLast room chunk).2.2 = true) (rest : Source) :
    wait isLast room (.bytes chunk :: rest) = 0 := by
  rw [wait, content, pausesBefore_bytes, Nat.sub_eq_zero_of_le (needed_reached reached _),
    pausesBefore_zero]

theorem wait_pause (some_ : room ≠ 0) (d : Nat) (rest : Source) :
    wait isLast room (.pause d :: rest) = d + wait isLast room rest := by
  obtain ⟨n, needs⟩ := Nat.exists_eq_succ_of_ne_zero
    (n := needed isLast room rest.content) (by rw [needed]; omega)
  change pausesBefore (needed isLast room rest.content) (.pause d :: rest) =
    d + pausesBefore (needed isLast room rest.content) rest
  rw [needs, pausesBefore]

theorem Calm.pull_in_time {source : Source} (calm : source.Calm) (isLast : UInt8 → Bool)
    (room : Nat) {ms : Nat} (inTime : source.wait isLast room ≤ ms) :
    source.pull isLast room (some ms) = source.pull isLast room none ∧
      (source.pull isLast room none).stop ≠ .timedOut := by
  induction source generalizing room ms with
  | nil =>
      refine ⟨rfl, ?_⟩
      unfold Source.pull
      split <;> simp
  | cons arrival rest ih =>
      rcases calm arrival List.mem_cons_self with ⟨chunk, rfl⟩ | ⟨d, rfl⟩
      · cases reached : (cut isLast room chunk).2.2 with
        | true =>
            unfold Source.pull
            split
            · exact ⟨rfl, by simp⟩
            · rename_i taken left cutting
              rw [cutting] at reached
              cases reached
        | false =>
            obtain ⟨whole, -, -⟩ := needed_append reached []
            rw [wait_open reached] at inTime
            rw [← whole] at inTime
            obtain ⟨same, goesOn⟩ := ih calm.tail (room - (cut isLast room chunk).1.length) inTime
            unfold Source.pull
            split
            · exact ⟨rfl, by simp⟩
            · rename_i taken left cutting
              simp only [cutting] at same goesOn
              exact ⟨by rw [same], goesOn⟩
      · by_cases full : room = 0
        · simp [Source.pull, full]
        · rw [wait_pause full] at inTime
          have enough : d ≤ ms := by omega
          simp only [Source.pull, if_neg full, if_pos enough]
          exact ih calm.tail room (by omega)

/-- A read whose wait is beyond its budget takes what comes within the budget, and gives up. -/
theorem Calm.pull_late {source : Source} (calm : source.Calm) (isLast : UInt8 → Bool) (room : Nat)
    {ms : Nat} (late : ms < source.wait isLast room) :
    (source.pull isLast room (some ms)).taken = source.arriving ms ∧
      (source.pull isLast room (some ms)).stop = .timedOut := by
  induction source generalizing room ms with
  | nil =>
      have none_ : wait isLast room [] = 0 := by
        rw [wait]
        cases needed isLast room _ <;> rfl
      omega
  | cons arrival rest ih =>
      rcases calm arrival List.mem_cons_self with ⟨chunk, rfl⟩ | ⟨d, rfl⟩
      · cases reached : (cut isLast room chunk).2.2 with
        | true =>
            rw [wait_reached reached] at late
            omega
        | false =>
            obtain ⟨whole, -, -⟩ := needed_append reached []
            rw [wait_open reached, ← whole] at late
            obtain ⟨taken, stop⟩ := ih calm.tail (room - (cut isLast room chunk).1.length) late
            unfold Source.pull
            split
            · rename_i cutting
              rw [cutting] at reached
              cases reached
            · rename_i cutting
              simp only [cutting] at taken stop whole
              refine ⟨?_, stop⟩
              dsimp only
              rw [taken, whole, arriving]
      · by_cases full : room = 0
        · rw [full, wait_full] at late
          omega
        · rw [wait_pause full] at late
          by_cases enough : d ≤ ms
          · simp only [Source.pull, arriving, if_neg full, if_pos enough]
            exact ih calm.tail room (by omega)
          · simp only [Source.pull, arriving, if_neg full, if_neg enough]
            exact ⟨trivial, trivial⟩

end Source

namespace Frame.Reader

variable {reader place : Reader} {part : Part} {ms length : Nat}

-- The parts of a call, in order.

def wait (reader : Reader) (part : Part) : Nat :=
  reader.source.wait part.isLast part.room

def restParts (reader : Reader) (length : Nat) : List (Part × Reader) :=
  (.line, reader) ::
    match reader.readLine with
    | (.ok (_ + 1), separated) => [(.body length, separated)]
    | _ => []

def parts (reader : Reader) : List (Part × Reader) :=
  (.line, reader) ::
    match reader.readLine with
    | (.ok (_ + 1), opened) =>
        match readHeader opened.limits opened.line with
        | .ok length => opened.restParts length
        | .error _ => []
    | _ => []

def reads (reader : Reader) (calls : Nat) : List (Part × Reader) :=
  (List.range calls).flatMap fun n => (reader.behind n).parts

structure Timed (ms : Nat) (reader : Reader) : Prop where
  budget : budget reader.limits = some ms
  calm : reader.source.Calm

theorem Timed.spared (timed : Timed ms reader) (part : Part) (inTime : reader.wait part ≤ ms) :
    reader.Spared part.isLast part.room := by
  obtain ⟨same, goesOn⟩ := timed.calm.pull_in_time part.isLast part.room inTime
  exact ⟨by rw [timed.budget]; exact same, goesOn⟩

theorem Timed.readPart (timed : Timed ms reader) (part : Part) :
    Timed ms (reader.readPart part).2 := by
  obtain ⟨limits, source, -⟩ := reader.readPart_pull part
  exact ⟨by rw [limits]; exact timed.budget, by rw [source]; exact timed.calm.pull _ _ _⟩

theorem Timed.late (timed : Timed ms reader) (part : Part) (late : ms < reader.wait part) :
    (reader.readPart part).1 = .error (.failed (.readTimeout ⟨ms⟩)) ∧
      reader.source.content =
        reader.source.arriving ms ++ (reader.readPart part).2.source.content := by
  obtain ⟨taken, stop⟩ := timed.calm.pull_late part.isLast part.room late
  have given : reader.limits.readTimeout.getD ⟨0⟩ = ⟨ms⟩ := by
    obtain ⟨timeout, given, rfl⟩ := Option.map_eq_some_iff.mp timed.budget
    rw [given]
    rfl
  obtain ⟨-, source, -⟩ := reader.readPart_pull part
  have whole := Source.pull_content part.isLast part.room (some ms) reader.source
  rw [timed.budget] at source
  refine ⟨?_, ?_⟩
  · cases part with
    | line =>
        change (reader.readLine.1.map fun _ => ()) = _
        have struck : (reader.source.pull isLineBreak maxLineLength
          (Frame.budget reader.limits)).stop = .timedOut := by
            rw [timed.budget]
            exact stop
        simp only [Reader.readLine, pulled, struck, given]
        rfl
    | body length =>
        have struck : (reader.source.pull (fun _ => false) length
          (Frame.budget reader.limits)).stop = .timedOut := by
            rw [timed.budget]
            exact stop
        simp only [Reader.readPart, Reader.readBody, pulled, struck, given]
  · rw [source, ← whole, taken]

-- A call whose parts are all in time.

theorem restParts_line {separated : Reader} {m : Nat}
    (line : reader.readLine = (.ok (m + 1), separated)) (length : Nat) :
    reader.restParts length = [(.line, reader), (.body length, separated)] := by
  rw [restParts, line]

theorem parts_line {opened : Reader} {n : Nat} (line : reader.readLine = (.ok (n + 1), opened))
    (declared : readHeader opened.limits opened.line = .ok length) :
    reader.parts = (.line, reader) :: opened.restParts length := by
  rw [parts, line]
  simp only [declared]

theorem Timed.readLine (timed : Timed ms reader) (inTime : reader.wait .line ≤ ms) :
    ∃ answer after, reader.readLine = (answer, after) ∧
      reader.untimed.readLine = (answer, after.untimed) ∧ Timed ms after :=
  ⟨_, _, rfl, (timed.spared .line inTime).readLine, timed.readPart .line⟩

theorem Timed.readBody (timed : Timed ms reader) (inTime : reader.wait (.body length) ≤ ms) :
    ∃ answer after, reader.readBody length = (answer, after) ∧
      reader.untimed.readBody length = (answer, after.untimed) ∧ Timed ms after :=
  ⟨_, _, rfl, (timed.spared (.body length) inTime).readBody, timed.readPart (.body length)⟩

theorem Timed.readRest (timed : Timed ms reader)
    (inTime : ∀ read ∈ reader.untimed.restParts length, read.2.wait read.1 ≤ ms) :
    ∃ answer after, reader.readRest length = (answer, after) ∧
      reader.untimed.readRest length = (answer, after.untimed) ∧ Timed ms after := by
  obtain ⟨line, separated, read, free, timed⟩ := timed.readLine (inTime _ List.mem_cons_self)
  simp only [Reader.readRest, read, free]
  cases line with
  | error halt => exact ⟨_, _, rfl, rfl, timed⟩
  | ok size =>
      cases size with
      | zero => exact ⟨_, _, rfl, rfl, timed⟩
      | succ m =>
          rw [restParts_line free] at inTime
          have body := inTime (.body length, separated.untimed) (by simp)
          obtain ⟨answer, after, read, free, timed⟩ := timed.readBody body
          simp only [read, free]
          cases answer with
          | error halt => exact ⟨_, _, rfl, rfl, timed⟩
          | ok done => exact ⟨_, _, rfl, rfl, timed⟩

theorem Timed.read (timed : Timed ms reader)
    (inTime : ∀ read ∈ reader.untimed.parts, read.2.wait read.1 ≤ ms) :
    ∃ answer after, reader.read = (answer, after) ∧
      reader.untimed.read = (answer, after.untimed) ∧ Timed ms after := by
  obtain ⟨line, opened, read, free, timed⟩ := timed.readLine (inTime _ List.mem_cons_self)
  simp only [Reader.read, read, free]
  cases line with
  | error halt => exact ⟨_, _, rfl, rfl, timed⟩
  | ok size =>
      cases size with
      | zero => exact ⟨_, _, rfl, rfl, timed⟩
      | succ n =>
          have header : readHeader opened.untimed.limits opened.untimed.line =
              readHeader opened.limits opened.line := rfl
          simp only [header]
          cases declared : readHeader opened.limits opened.line with
          | error violation => exact ⟨_, _, rfl, rfl, timed⟩
          | ok length =>
              rw [parts_line free (header.trans declared)] at inTime
              exact timed.readRest fun read member => inTime read (List.mem_cons_of_mem _ member)

theorem Timed.readMessage (timed : Timed ms reader)
    (inTime : ∀ read ∈ reader.untimed.parts, read.2.wait read.1 ≤ ms) :
    ∃ answer after, reader.readMessage = (answer, after) ∧
      reader.untimed.readMessage = (answer, after.untimed) ∧ Timed ms after := by
  obtain ⟨body, after, read, free, timed⟩ := timed.read inTime
  simp only [Reader.readMessage, read, free]
  cases body with
  | error halt => exact ⟨_, _, rfl, rfl, timed⟩
  | ok came =>
      cases came with
      | none => exact ⟨_, _, rfl, rfl, timed⟩
      | some body =>
          dsimp only
          cases decode body with
          | error violation => exact ⟨_, _, rfl, rfl, timed⟩
          | ok message => exact ⟨_, _, rfl, rfl, timed⟩

-- Many calls.

theorem reads_succ (reader : Reader) (calls : Nat) :
    reader.reads (calls + 1) = reader.parts ++ reader.readMessage.2.reads calls := by
  rw [reads, List.range_succ_eq_map, List.flatMap_cons, List.flatMap_map]
  rfl

theorem Timed.calls (timed : Timed ms reader) {calls : Nat}
    (inTime : ∀ read ∈ reader.untimed.reads calls, read.2.wait read.1 ≤ ms) :
    reader.untimed.behind calls = (reader.behind calls).untimed ∧ Timed ms (reader.behind calls) ∧
      reader.untimed.answers calls =
        (reader.answers calls).map fun given => (given.1, given.2.untimed) := by
  induction calls generalizing reader with
  | zero => exact ⟨rfl, timed, rfl⟩
  | succ calls ih =>
      rw [reads_succ] at inTime
      obtain ⟨first, others⟩ := List.forall_mem_append.mp inTime
      obtain ⟨answer, after, read, free, timed⟩ := timed.readMessage first
      rw [free] at others
      obtain ⟨place, timed, answers⟩ := ih timed others
      rw [behind, behind, Reader.answers, Reader.answers, read, free]
      exact ⟨place, timed, congrArg _ answers⟩

-- A call one of whose parts is late.

theorem Timed.makes_behind {opened : Reader} (timed : Timed ms opened) {n : Nat}
    (line : reader.readLine = (.ok (n + 1), opened))
    (declared : readHeader opened.limits opened.line = .ok length)
    {earlier later : List (Part × Reader)}
    (parts : opened.untimed.restParts length = earlier ++ (part, place) :: later)
    (inTime : ∀ read ∈ earlier, read.2.wait read.1 ≤ ms) :
    ∃ here, reader.Makes part here ∧ place = here.untimed ∧ Timed ms here := by
  cases earlier with
  | nil =>
      cases (List.cons.inj parts).1
      exact ⟨opened, .separator line declared, rfl, timed⟩
  | cons separator earlier =>
      obtain ⟨rfl, behind⟩ := List.cons.inj parts
      obtain ⟨inTime, -⟩ := List.forall_mem_cons.mp inTime
      obtain ⟨answer, separated, read, free, timed⟩ := timed.readLine inTime
      rw [free] at behind
      cases answer with
      | error halt => simp at behind
      | ok size =>
          cases size with
          | zero => simp at behind
          | succ m =>
              cases earlier with
              | nil =>
                  cases (List.cons.inj behind).1
                  exact ⟨separated, .body line declared read, rfl, timed⟩
              | cons other earlier => simp at behind

/-- Up to its first part that is late, a call reads the parts that it reads without a timeout. -/
theorem Timed.makes (timed : Timed ms reader) {earlier later : List (Part × Reader)}
    (parts : reader.untimed.parts = earlier ++ (part, place) :: later)
    (inTime : ∀ read ∈ earlier, read.2.wait read.1 ≤ ms) :
    ∃ here, reader.Makes part here ∧ place = here.untimed ∧ Timed ms here := by
  cases earlier with
  | nil =>
      cases (List.cons.inj parts).1
      exact ⟨reader, .header, rfl, timed⟩
  | cons header earlier =>
      obtain ⟨rfl, behind⟩ := List.cons.inj parts
      obtain ⟨inTime, othersInTime⟩ := List.forall_mem_cons.mp inTime
      obtain ⟨line, opened, read, free, timed⟩ := timed.readLine inTime
      rw [free] at behind
      cases line with
      | error halt => simp at behind
      | ok size =>
          cases size with
          | zero => simp at behind
          | succ n =>
              dsimp only at behind
              cases declared : readHeader opened.untimed.limits opened.untimed.line with
              | error violation => simp [declared] at behind
              | ok length =>
                  rw [declared] at behind
                  exact timed.makes_behind read declared behind othersInTime

theorem account_succ (reader : Reader) (calls : Nat) :
    reader.account (calls + 1) = reader.account calls ++
      [((reader.behind calls).readMessage.1,
        reader.source.size - (reader.behind calls).readMessage.2.source.size)] := by
  simp [Reader.account, answers_behind, List.range_succ]

/-- Each part is bounded by itself. Over bytes with pauses between them, calls with a timeout whose
parts all wait no longer than it, however long they wait together, give the answers of calls without
one and have taken as much. If a part waits longer, the call that reads the first such part reports
the timeout, the calls before it are those without one, and of what is in front of the part exactly the
bytes are taken that come within the timeout. -/
theorem timeout_bounds_each_part (limits : Limits) (timeout : Duration) (source : Source)
    (calm : source.Calm) :
    let timed := Reader.start { limits with readTimeout := some timeout } source
    let free := Reader.start { limits with readTimeout := none } source
    (∀ calls, (∀ read ∈ free.reads calls, read.2.wait read.1 ≤ timeout.milliseconds) →
      timed.account calls = free.account calls) ∧
    ∀ calls earlier part place later,
      (free.behind calls).parts = earlier ++ (part, place) :: later →
      (∀ read ∈ free.reads calls ++ earlier, read.2.wait read.1 ≤ timeout.milliseconds) →
      timeout.milliseconds < place.wait part →
      let inTime := place.source.arriving timeout.milliseconds
      timed.account (calls + 1) = free.account calls ++
          [(.error (.failed (.readTimeout timeout)),
            source.size - (place.source.size - inTime.length))] ∧
        place.source.content = inTime ++ (timed.behind (calls + 1)).source.content := by
  intro timed free
  have start : Timed timeout.milliseconds timed := ⟨rfl, calm⟩
  have accounts {calls : Nat} (answers : free.answers calls =
      (timed.answers calls).map fun given => (given.1, given.2.untimed)) :
      timed.account calls = free.account calls := by
    rw [Reader.account, Reader.account, answers, List.map_map]
    rfl
  constructor
  · intro calls inTime
    exact accounts (start.calls inTime).2.2
  · intro calls earlier part place later parts inTime late inTimeBytes
    obtain ⟨before, within⟩ := List.forall_mem_append.mp inTime
    obtain ⟨same, here, answers⟩ := start.calls before
    have behind : free.behind calls = (timed.behind calls).untimed := same
    rw [behind] at parts
    obtain ⟨last, makes, rfl, lastTimed⟩ := here.makes parts within
    obtain ⟨gives, content⟩ := lastTimed.late part late
    have read := makes.fails (Prod.ext gives rfl)
    have after : (timed.behind (calls + 1)) = (last.readPart part).2 := by
      rw [behind_succ, read]
    have sizes := congrArg List.length content
    rw [List.length_append, ← Source.size_eq_content, ← Source.size_eq_content] at sizes
    refine ⟨?_, ?_⟩
    · rw [account_succ, accounts answers, read]
      have left : (last.readPart part).2.source.size =
          last.untimed.source.size - inTimeBytes.length := by
        change _ = last.source.size - (last.source.arriving timeout.milliseconds).length
        omega
      rw [left]
      rfl
    · rw [after]
      exact content

/-- A frame whose three parts wait seven, seven and ten milliseconds for a timeout of ten, and the same
frame with a body that waits for eleven: then its first byte is taken, and the second is not. -/
theorem timeout_bounds_each_part_in_the_body :
    let line : Bytes :=
      [67, 111, 110, 116, 101, 110, 116, 45, 76, 101, 110, 103, 116, 104, 58, 50]
    let source (last : Nat) : Source :=
      [.bytes line, .pause 7, .bytes [10], .pause 7, .bytes [10, 91], .pause last, .bytes [93]]
    let timed (last : Nat) := Reader.start { readTimeout := some ⟨10⟩ } (source last)
    let free (last : Nat) := Reader.start {} (source last)
    (∀ last, (source last).Calm) ∧ (timed 10).account 1 = (free 10).account 1 ∧
      (timed 11).account 1 = [(.error (.failed (.readTimeout ⟨10⟩)), 19)] := by
  intro line source timed free
  have calm (last : Nat) : (source last).Calm := by simp [source, Source.Calm]
  obtain ⟨same, -⟩ := timeout_bounds_each_part {} ⟨10⟩ (source 10) (calm 10)
  obtain ⟨-, strikes⟩ := timeout_bounds_each_part {} ⟨10⟩ (source 11) (calm 11)
  let behind : Source := [.pause 11, .bytes [93]]
  let opened : Reader := ⟨{}, .bytes [] :: .pause 7 :: .bytes [10, 91] :: behind, line ++ [10], {}⟩
  let separated : Reader := ⟨{}, .bytes [91] :: behind, [10], {}⟩
  have parts : (free 11).parts = [(.line, free 11), (.line, opened)] ++
      (.body 2, separated) :: [] := rfl
  refine ⟨calm, same 1 ?_, ?_⟩
  · decide +kernel
  · exact (strikes 0 _ _ _ _ parts (by decide +kernel) (by decide)).1

end Frame.Reader
end BuildPeer
