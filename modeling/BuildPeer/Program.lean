import BuildPeer.Config
import BuildPeer.Journal.Filter

/-!
A whole process: what it writes, what it says in its journal and its exit status, for a command
line, the settings file it names, and the input. The journal is filtered by the configured level; a
filter in the environment, which would take its place, is left out.
-/

namespace BuildPeer.Program

def versionText : String :=
  "bsp-fixture-server 0.1.0\n"

structure Result where
  status : UInt32
  output : Bytes := []
  entries : List Journal.Entry := []
  filter : Journal.Filter := []

/-- A process that does not come to serve. Asking for help or the version is no failure; the
version goes to the output as far as it is taken. -/
def refused (output : Sink) : Config.Fault → Result
  | .usage .help => { status := 0 }
  | .usage .version =>
      { status := 0, output := (output.writeAll (Text.Utf8.encode versionText.toList)).2.taken }
  | .usage _ => { status := 2 }
  | _ => { status := 1 }

/-- The status of a process whose log level cannot be cut into directives. -/
def brokenFilterStatus : UInt32 :=
  101

def run (args : List String) (file : Except String Bytes) (input : Source) (output : Sink) :
    Result :=
  match Config.load args file with
  | .error fault => refused output fault
  | .ok config =>
      match Journal.Filter.parse? config.logLevel with
      | none => { status := brokenFilterStatus }
      | some filter =>
          let run := Session.serve config.server input output
          { status := run.ending.status config.server.strict
            output := run.output
            entries := Journal.ofProcess config.server run
            filter }

def closedOutput : Sink :=
  { limit := some 0, fault := some ⟨.brokenPipe, "Broken pipe (os error 32)"⟩ }

end BuildPeer.Program
