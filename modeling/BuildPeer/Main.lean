import BuildPeer.Live

/-!
The program: it serves one session on standard input and output and writes its journal to standard
error.
-/

namespace BuildPeer.Main

def ioError (e : IO.Error) : IoError :=
  match e with
  | .resourceVanished .. => ⟨.brokenPipe, toString e⟩
  | _ => ⟨.other "Other", toString e⟩

def fileReason (e : IO.Error) : String :=
  match e with
  | .noFileOrDirectory .. => "No such file or directory (os error 2)"
  | .inappropriateType .. => "Is a directory (os error 21)"
  | .permissionDenied .. => "Permission denied (os error 13)"
  | e => toString e

def namedFile (args : List String) : IO (Except String Bytes) := do
  match Config.path? args with
  | none => return .ok []
  | some path =>
      try return .ok (← IO.FS.readBinFile path).toList
      catch e => return .error (fileReason e)

def say (filter : Journal.Filter) (entries : List Journal.Entry) : IO Unit := do
  let out ← IO.getStderr
  for e in filter.shown entries do
    out.putStrLn e.text

def usageText : String :=
  "Usage: bsp-fixture-server [--config FILE] [--strict] [--read-timeout-ms N] " ++
    "[--max-frame-size N] [--log-level LEVEL]"

def refuse (fault : Config.Fault) : IO UInt32 := do
  let result := Program.refused {} fault
  match fault with
  | .usage .help => IO.println usageText
  | .usage .version => IO.print Program.versionText
  | .usage _ => IO.eprintln usageText
  | fault => IO.eprintln ("Error: " ++ fault.message)
  return result.status

/-- Waits for a read that runs on its own, at most so many milliseconds; tells how long it took and
what it read, if it came to an end. -/
partial def await (read : Task (Except IO.Error ByteArray)) (limit start : Nat) :
    IO (Nat × Option (Except IO.Error ByteArray)) := do
  let elapsed := (← IO.monoMsNow) - start
  if ← IO.hasFinished read then return (elapsed, some read.get)
  if limit < elapsed then return (elapsed, none)
  IO.sleep 2
  await read limit start

def arrivals (server : Server) (bytes : Nat) : IO (List Arrival × Bool) := do
  let input ← IO.getStdin
  let read := input.read bytes.toUSize
  let (elapsed, answer) ←
    match server.limits.readTimeout with
    | none => do
        let answer ← read.toBaseIO
        pure (0, some answer)
    | some limit => do
        let start ← IO.monoMsNow
        await (← IO.asTask read .dedicated) limit.milliseconds start
  match answer with
  | none => return ([.pause elapsed], true)
  | some (.error e) => return ([.pause elapsed, .fault (ioError e)], false)
  | some (.ok chunk) => return ([.pause elapsed, .bytes chunk.toList], chunk.isEmpty)

def deliver (bytes : Bytes) : IO (Option IoError) := do
  if bytes.isEmpty then return none
  let out ← IO.getStdout
  try
    out.write ⟨bytes.toArray⟩
    out.flush
    return none
  catch e => return some (ioError e)

def finish (server : Server) (filter : Journal.Filter) (close : Session.Close) : IO UInt32 := do
  say filter (Journal.ofClose close)
  say filter (Journal.ended server.strict close.ending)
  return close.ending.status server.strict

partial def serve (server : Server) (filter : Journal.Filter) (state : Session.State)
    (closed : Bool) : IO UInt32 := do
  match Live.advance server state closed with
  | .needs bytes =>
      let (more, closed) ← arrivals server bytes
      serve server filter (Live.withInput (· ++ more) state) closed
  | .moves progress =>
      let fault ← deliver (Live.output progress)
      match Live.settle server state progress fault with
      | .stops close => finish server filter close
      | .goesOn turn next =>
          say filter (Journal.ofTurn turn)
          serve server filter next closed

def run (args : List String) : IO UInt32 := do
  match Config.load args (← namedFile args) with
  | .error fault => refuse fault
  | .ok config =>
      match Journal.Filter.parse? config.logLevel with
      | none =>
          IO.eprintln "The log level cannot be cut into directives."
          return Program.brokenFilterStatus
      | some filter =>
          say filter [Journal.starting config.server, Journal.started config.server]
          serve config.server filter (Session.start config.server [] {}) false

end BuildPeer.Main

def main (args : List String) : IO UInt32 :=
  BuildPeer.Main.run args
