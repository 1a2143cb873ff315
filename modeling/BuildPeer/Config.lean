import BuildPeer.CommandLine
import BuildPeer.Session
import BuildPeer.Settings
import BuildPeer.Text.Utf8

/-!
The configuration of a process: what the command line says, then what a settings file sets, then
the defaults. A timeout of zero is no timeout. The default log level on the command line does not
win over the file: it is taken for a command line that does not speak of the level.
-/

namespace BuildPeer

structure Config where
  server : Server
  logLevel : String
  deriving DecidableEq, Repr

namespace Config

inductive Fault where
  | usage (refusal : CommandLine.Refusal)
  | unreadable (path reason : String)
  | malformed (path : String)
  | misshapen (path : String) (report : Toml.Report)
  deriving DecidableEq, Repr

/-- What is said about a settings file; a text that is no TOML is named, not explained. -/
def Fault.message : Fault → String
  | .usage _ => ""
  | .unreadable path reason => "Failed to read config file '" ++ path ++ "': " ++ reason
  | .malformed path => "Failed to parse config file '" ++ path ++ "'"
  | .misshapen path report => "Failed to parse config file '" ++ path ++ "': " ++ report.text

def defaultLogLevel : String :=
  "info"

/-- A timeout in milliseconds, where zero is none. -/
def timeout (milliseconds : Nat) : Option Duration :=
  if milliseconds = 0 then none else some ⟨milliseconds⟩

def merge (args : CommandLine.Arguments) (settings : Settings) : Config :=
  let level := args.logLevel.getD defaultLogLevel
  { server :=
      { strict := args.strict || settings.strict.getD false
        identity := settings.identity
        limits :=
          { maxFrameSize :=
              (args.maxFrameSize.or settings.maxFrameSize).getD Limits.defaultFrameSize
            readTimeout := timeout ((args.readTimeout.or settings.readTimeout).getD 0) } }
    logLevel :=
      if level = defaultLogLevel then settings.logLevel.getD defaultLogLevel else level }

def ofFile (path : String) (bytes : Bytes) : Except Fault Settings :=
  match Text.Utf8.decode bytes with
  | .error _ => .error (.unreadable path "stream did not contain valid UTF-8")
  | .ok text =>
      match Settings.parse text with
      | .error .malformed => .error (.malformed path)
      | .error (.misshapen report) => .error (.misshapen path report)
      | .ok settings => .ok settings

def path? (args : List String) : Option String :=
  match CommandLine.parse args with
  | .error _ => none
  | .ok args => args.config

/-- The configuration for a command line, with `file` the content of the file it names, or why that
file cannot be read. -/
def load (args : List String) (file : Except String Bytes) : Except Fault Config :=
  match CommandLine.parse args with
  | .error refusal => .error (.usage refusal)
  | .ok args =>
      match args.config with
      | none => .ok (merge args {})
      | some path =>
          match file with
          | .error reason => .error (.unreadable path reason)
          | .ok bytes => (ofFile path bytes).map (merge args)

end Config
end BuildPeer
