import BuildPeer.Text.Numeral

/-!
The arguments of the command line. An option takes its value from the same argument, after an equals
sign, or from the next one, unless that looks like an option itself. A value from the next argument
is looked at only when another option or the end is reached, so an argument that nobody knows is
reported before it.
-/

namespace BuildPeer.CommandLine

structure Arguments where
  config : Option String := none
  strict : Bool := false
  readTimeout : Option Nat := none
  maxFrameSize : Option Nat := none
  logLevel : Option String := none
  deriving DecidableEq, Repr

/-- Why no arguments come of a command line. Asking for help or the version is a reason too. -/
inductive Refusal where
  | unknownArgument
  /-- An option without a value, or with an empty path. -/
  | missingValue
  | malformedValue
  | unwantedValue
  | repeated
  | help
  | version
  deriving DecidableEq, Repr

inductive Opt where
  | config
  | readTimeout
  | maxFrameSize
  | logLevel
  deriving DecidableEq, Repr

inductive Flag where
  | strict
  | help
  | version
  deriving DecidableEq, Repr

def Opt.named? : String → Option Opt
  | "config" => some .config
  | "read-timeout-ms" => some .readTimeout
  | "max-frame-size" => some .maxFrameSize
  | "log-level" => some .logLevel
  | _ => none

def Flag.named? : String → Option Flag
  | "strict" => some .strict
  | "help" => some .help
  | "version" => some .version
  | _ => none

def isGiven (args : Arguments) : Opt → Bool
  | .config => args.config.isSome
  | .readTimeout => args.readTimeout.isSome
  | .maxFrameSize => args.maxFrameSize.isSome
  | .logLevel => args.logLevel.isSome

def word (value : String) : Except Refusal Nat :=
  match Text.word? value.toList with
  | some n => .ok n
  | none => .error .malformedValue

def set (args : Arguments) (opt : Opt) (value : String) : Except Refusal Arguments :=
  if isGiven args opt then .error .repeated
  else
    match opt with
    | .config =>
        if value.isEmpty then .error .missingValue else .ok { args with config := some value }
    | .readTimeout => (word value).map fun n => { args with readTimeout := some n }
    | .maxFrameSize => (word value).map fun n => { args with maxFrameSize := some n }
    | .logLevel => .ok { args with logLevel := some value }

/-- An option whose value, if it has come already, has not been looked at. -/
structure Pending where
  opt : Opt
  value : Option String
  deriving DecidableEq, Repr

def settle (args : Arguments) : Option Pending → Except Refusal Arguments
  | none => .ok args
  | some ⟨_, none⟩ => .error .missingValue
  | some ⟨opt, some value⟩ => set args opt value

def raise (args : Arguments) : Flag → Except Refusal Arguments
  | .strict => if args.strict then .error .repeated else .ok { args with strict := true }
  | .help => .error .help
  | .version => .error .version

abbrev State := Arguments × Option Pending

def long (state : State) (name : String) (value : Option String) : Except Refusal State :=
  match Opt.named? name, Flag.named? name, value with
  | some opt, _, none => (settle state.1 state.2).map fun args => (args, some ⟨opt, none⟩)
  | some opt, _, some value => do
      let args ← settle state.1 state.2
      return (← set args opt value, none)
  | none, some _, some _ => .error .unwantedValue
  | none, some flag, none => do
      let args ← settle state.1 state.2
      return (← raise args flag, none)
  | none, none, _ => .error .unknownArgument

/-- Options by one letter each. The first that takes a value takes all that follows it. -/
def short (state : State) : List Char → Except Refusal State
  | [] => .ok state
  | 'c' :: rest => do
      let args ← settle state.1 state.2
      match rest with
      | [] => return (args, some ⟨.config, none⟩)
      | '=' :: value => return (← set args .config (String.ofList value), none)
      | value => return (← set args .config (String.ofList value), none)
  | 'h' :: _ => (settle state.1 state.2).bind fun _ => .error .help
  | 'V' :: _ => (settle state.1 state.2).bind fun _ => .error .version
  | _ => .error .unknownArgument

def plain (state : State) (arg : String) : Except Refusal State :=
  match state with
  | (args, some ⟨opt, none⟩) => .ok (args, some ⟨opt, some arg⟩)
  | _ => .error .unknownArgument

def argument (state : State) (arg : String) : Except Refusal State :=
  match arg.toList with
  | '-' :: '-' :: rest =>
      let name := String.ofList (rest.takeWhile (· ≠ '='))
      match rest.dropWhile (· ≠ '=') with
      | _ :: value => long state name (some (String.ofList value))
      | [] => long state name none
  | '-' :: c :: rest => short state (c :: rest)
  | _ => plain state arg

/-- After two dashes nothing is an option any more, and nothing else is known. -/
def parseFrom (state : State) : List String → Except Refusal Arguments
  | [] => settle state.1 state.2
  | arg :: rest =>
      if arg = "--" then
        if rest.isEmpty then settle state.1 state.2 else .error .unknownArgument
      else
        match argument state arg with
        | .error refusal => .error refusal
        | .ok state => parseFrom state rest

def parse (args : List String) : Except Refusal Arguments :=
  parseFrom ({}, none) args

end BuildPeer.CommandLine
