import BuildPeer.Envelope
import BuildPeer.Header
import BuildPeer.Response
import BuildPeer.Sink
import BuildPeer.Source

/-!
Frames: a header line with the length of the body, a separator line, and the body.

Reading takes the lines and the body one after another, each within the read timeout. A line has at
most 1024 bytes, its line break included; what the separator line says does not matter. Reading a
body and decoding it are two steps, so that a body that is no message is still read whole. A reader
keeps its two buffers from one frame to the next.

Writing sends a response as one frame and flushes; a sink whose other side has closed is no error.
-/

namespace BuildPeer

def Limits.defaultFrameSize : Nat :=
  16 * 1024 * 1024

structure Limits where
  maxFrameSize : Nat := Limits.defaultFrameSize
  readTimeout : Option Duration := none
  deriving DecidableEq, Repr

/-- Why there is no answer: a failure, or a wait without end. -/
inductive Halt where
  | failed (failure : Failure)
  | waits
  deriving DecidableEq, Repr

namespace Frame

def maxLineLength : Nat := 1024

def lineBreak : UInt8 := 10

def isLineBreak (b : UInt8) : Bool :=
  b == lineBreak

def violates (violation : Violation) : Halt :=
  .failed (.violation violation)

def pulled (limits : Limits) (p : Pull) : Except Halt (Bytes × Bool) :=
  match p.stop with
  | .filled => .ok (p.taken, true)
  | .ended => .ok (p.taken, false)
  | .failed error => .error (.failed (.io error))
  | .timedOut => .error (.failed (.readTimeout (limits.readTimeout.getD ⟨0⟩)))
  | .waits => .error .waits

def budget (limits : Limits) : Option Nat :=
  limits.readTimeout.map (·.milliseconds)

/-- A block of bytes of a fixed size that is filled from the front; the rest of it is zero. -/
structure Block where
  size : Nat := 0
  filled : Bytes := []
  deriving DecidableEq, Repr

def Block.bytes (block : Block) : Bytes :=
  block.filled ++ List.replicate (block.size - block.filled.length) 0

/-- What reads frames: the input that is left, and a buffer each for a line and for a body. The
buffers keep what the last read put there, also when it failed halfway. -/
structure Reader where
  limits : Limits := {}
  source : Source
  line : Bytes := []
  body : Block := {}
  deriving Repr

def Reader.start (limits : Limits) (source : Source) : Reader :=
  { limits, source }

/-- Empties the line buffer and reads one line into it, with its line break; the last line may lack
it. Gives the length of the line, which is zero at the end of the input only. -/
def Reader.readLine (reader : Reader) : Except Halt Nat × Reader :=
  let reader := { reader with line := [] }
  let p := reader.source.pull isLineBreak maxLineLength (budget reader.limits)
  let reader := { reader with line := reader.line ++ p.taken, source := p.rest }
  match pulled reader.limits p with
  | .error halt => (.error halt, reader)
  | .ok (taken, _) =>
      if taken.length = maxLineLength ∧ reader.line.getLast? ≠ some lineBreak then
        (.error (violates (.headerTooLong maxLineLength)), reader)
      else (.ok taken.length, reader)

def readHeader (limits : Limits) (line : Bytes) : Except Violation Nat :=
  match Text.Utf8.decode line with
  | .error fault => .error (.invalidUtf8 fault)
  | .ok text =>
      match Header.parse text with
      | .error violation => .error violation
      | .ok length =>
          if limits.maxFrameSize < length then
            .error (.frameTooLarge length limits.maxFrameSize)
          else .ok length

/-- Makes the body buffer a block of the given length and fills it. An input that is over too soon
truncates the frame, and so does a read that fails saying so. The block is taken to be there, however
long it is: that memory runs out, or that no block can be so long, is left out. -/
def Reader.readBody (reader : Reader) (length : Nat) : Except Halt Unit × Reader :=
  let p := reader.source.pull (fun _ => false) length (budget reader.limits)
  let reader := { reader with body := ⟨length, p.taken⟩, source := p.rest }
  match pulled reader.limits p with
  | .ok (_, true) => (.ok (), reader)
  | .ok (_, false) => (.error (violates (.truncatedFrame length)), reader)
  | .error (.failed (.io error)) =>
      if error.kind = .unexpectedEof then
        (.error (violates (.truncatedFrame length)), reader)
      else (.error (.failed (.io error)), reader)
  | .error halt => (.error halt, reader)

def Reader.readRest (reader : Reader) (length : Nat) : Except Halt (Option Bytes) × Reader :=
  match reader.readLine with
  | (.error halt, reader) => (.error halt, reader)
  | (.ok 0, reader) => (.error (violates (.truncatedFrame length)), reader)
  | (.ok (_ + 1), reader) =>
      match reader.readBody length with
      | (.error halt, reader) => (.error halt, reader)
      | (.ok (), reader) => (.ok (some reader.body.bytes), reader)

/-- The body of the next frame; none if the input is over in front of it. -/
def Reader.read (reader : Reader) : Except Halt (Option Bytes) × Reader :=
  match reader.readLine with
  | (.error halt, reader) => (.error halt, reader)
  | (.ok 0, reader) => (.ok none, reader)
  | (.ok (_ + 1), reader) =>
      match readHeader reader.limits reader.line with
      | .error violation => (.error (violates violation), reader)
      | .ok length => reader.readRest length

def decode (body : Bytes) : Except Violation Envelope :=
  match Text.Utf8.decode body with
  | .error fault => .error (.invalidUtf8 fault)
  | .ok text =>
      match Envelope.decode text with
      | .error refusal => .error (.invalidEnvelope refusal)
      | .ok message => .ok message

def Reader.readMessage (reader : Reader) : Except Halt (Option Envelope) × Reader :=
  match reader.read with
  | (.error halt, reader) => (.error halt, reader)
  | (.ok none, reader) => (.ok none, reader)
  | (.ok (some body), reader) =>
      match decode body with
      | .error violation => (.error (violates violation), reader)
      | .ok message => (.ok (some message), reader)

/-- The answers of so many calls on one reader, going on after refusals, each with the reader after
it. -/
def Reader.answers (reader : Reader) : Nat → List (Except Halt (Option Envelope) × Reader)
  | 0 => []
  | calls + 1 =>
      let (answer, reader) := reader.readMessage
      (answer, reader) :: reader.answers calls

/-- The answers of so many calls, each with the bytes taken from the input up to then. -/
def Reader.account (reader : Reader) (calls : Nat) : List (Except Halt (Option Envelope) × Nat) :=
  (reader.answers calls).map fun given => (given.1, reader.source.size - given.2.source.size)

def readMessage (limits : Limits) (source : Source) : Except Halt (Option Envelope) × Source :=
  let (answer, reader) := (Reader.start limits source).readMessage
  (answer, reader.source)

-- Writing.

def wrap (body : Bytes) : Bytes :=
  Text.Utf8.encode (Header.render body.length) ++ body

def encode (response : Response) : Bytes :=
  wrap (Text.Utf8.encode response.toJson.chars)

inductive WriteStatus where
  /-- The whole frame was taken and flushed; its length. -/
  | written (bytes : Nat)
  | peerClosed
  deriving DecidableEq, Repr

def writeFrame (sink : Sink) (frame : Bytes) : Except IoError Unit × Sink :=
  match sink.writeAll frame with
  | (.error error, sink) => (.error error, sink)
  | (.ok (), sink) => sink.flush

def write (sink : Sink) (response : Response) : Except IoError WriteStatus × Sink :=
  let frame := encode response
  match writeFrame sink frame with
  | (.ok (), sink) => (.ok (.written frame.length), sink)
  | (.error error, sink) =>
      if error.isPeerClosed then (.ok .peerClosed, sink) else (.error error, sink)

-- A frame that is read shortens the input.

/-- What a line read leaves behind, whether it succeeds or not. -/
theorem Reader.readLine_after (reader : Reader) :
    reader.readLine.2 =
      let p := reader.source.pull isLineBreak maxLineLength (budget reader.limits)
      { reader with line := p.taken, source := p.rest } := by
  simp only [Reader.readLine, List.nil_append]
  split
  · rfl
  · split <;> rfl

theorem Reader.readLine_length {reader after : Reader} {length : Nat}
    (read : reader.readLine = (.ok length, after)) : after.line.length = length := by
  simp only [Reader.readLine, List.nil_append] at read
  generalize reader.source.pull isLineBreak maxLineLength (budget reader.limits) = p at read
  obtain ⟨taken, stop, rest⟩ := p
  cases stop <;> simp only [pulled, Prod.mk.injEq, reduceCtorEq, false_and] at read
  all_goals
    split at read
    · simp at read
    · simp only [Prod.mk.injEq, Except.ok.injEq] at read
      rw [← read.2]
      exact read.1

theorem Reader.readBody_after (reader : Reader) (length : Nat) :
    (reader.readBody length).2 =
      let p := reader.source.pull (fun _ => false) length (budget reader.limits)
      { reader with body := ⟨length, p.taken⟩, source := p.rest } := by
  simp only [Reader.readBody]
  split
  · rfl
  · rfl
  · split <;> rfl
  · rfl

theorem Reader.readLine_size (reader : Reader) :
    reader.readLine.2.line.length + reader.readLine.2.source.size = reader.source.size := by
  rw [Reader.readLine_after]
  exact Source.pull_size isLineBreak maxLineLength (budget reader.limits) reader.source

theorem Reader.readBody_size (reader : Reader) (length : Nat) :
    (reader.readBody length).2.body.filled.length + (reader.readBody length).2.source.size =
      reader.source.size := by
  rw [Reader.readBody_after]
  exact Source.pull_size (fun _ => false) length (budget reader.limits) reader.source

theorem Reader.readRest_size (reader : Reader) (length : Nat) :
    (reader.readRest length).2.source.size ≤ reader.source.size := by
  have separator := reader.readLine_size
  unfold Reader.readRest
  split
  · rename_i after separatorRead
    rw [separatorRead] at separator
    dsimp only at separator ⊢
    omega
  · rename_i after separatorRead
    rw [separatorRead] at separator
    dsimp only at separator ⊢
    omega
  · rename_i after separatorRead
    rw [separatorRead] at separator
    have body := after.readBody_size length
    split
    · rename_i last bodyRead
      rw [bodyRead] at body
      dsimp only at separator body ⊢
      omega
    · rename_i last bodyRead
      rw [bodyRead] at body
      dsimp only at separator body ⊢
      omega

theorem Reader.read_size {reader after : Reader} {body : Bytes}
    (frame : reader.read = (.ok (some body), after)) :
    after.source.size < reader.source.size := by
  unfold Reader.read at frame
  split at frame
  · simp at frame
  · simp at frame
  · rename_i afterLine lineRead
    have line := reader.readLine_size
    have header := Reader.readLine_length lineRead
    rw [lineRead] at line
    split at frame
    · simp at frame
    · rename_i expected _
      have rest := afterLine.readRest_size expected
      rw [frame] at rest
      dsimp only at line rest
      omega

end Frame
end BuildPeer
