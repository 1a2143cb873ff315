import BuildPeer.Payload
import BuildPeer.Toml.Report

/-!
What a settings file sets. Each setting is absent unless the file sets it; what then holds instead
is not decided here, but for the identity of the peer: each of its parts is the file's or the
default one.
-/

namespace BuildPeer

structure Settings where
  strict : Option Bool := none
  /-- In milliseconds. -/
  readTimeout : Option Nat := none
  maxFrameSize : Option Nat := none
  logLevel : Option String := none
  displayName : Option String := none
  version : Option String := none
  rootUri : Option String := none
  languageIds : Option (List String) := none
  indexStorePath : Option String := none
  deriving DecidableEq, Repr

namespace Settings

def identity (s : Settings) : Identity :=
  let default : Identity := {}
  { displayName := s.displayName.getD default.displayName
    version := s.version.getD default.version
    rootUri := s.rootUri.getD default.rootUri
    languageIds := s.languageIds.getD default.languageIds
    indexStorePath := s.indexStorePath.getD default.indexStorePath }

open Toml (Decoder Mistake)
open Toml.Decoder (RecordField)

def field (name : String) (decode : Decoder α) (set : Settings → α → Settings) :
    RecordField Settings :=
  ⟨name, fun s node => (decode node).map (set s)⟩

def sessionFields : List (RecordField Settings) :=
  [field "strict" Decoder.bool fun s b => { s with strict := b },
    field "read_timeout_ms" (Decoder.natural "u64") fun s n => { s with readTimeout := n },
    field "max_frame_size" (Decoder.natural "usize") fun s n => { s with maxFrameSize := n }]

def loggingFields : List (RecordField Settings) :=
  [field "level" Decoder.string fun s level => { s with logLevel := level }]

def identityFields : List (RecordField Settings) :=
  [field "display_name" Decoder.string fun s name => { s with displayName := name },
    field "version" Decoder.string fun s version => { s with version := version },
    field "root_uri" Decoder.string fun s uri => { s with rootUri := uri },
    field "language_ids" Decoder.strings fun s ids => { s with languageIds := ids },
    field "index_store_path" Decoder.string fun s path => { s with indexStorePath := path }]

/-- The tables of a settings file, with their fields in the order in which a list gives them. -/
def sections : List (RecordField Settings) :=
  [⟨"session", Decoder.record "SessionConfig" sessionFields⟩,
    ⟨"logging", Decoder.record "LoggingConfig" loggingFields⟩,
    ⟨"fixture", Decoder.record "FixtureConfig" identityFields⟩]

def ofMembers (members : Toml.Members) : Except Mistake Settings :=
  Decoder.fromMembers sections {} members

inductive Fault where
  | malformed
  | misshapen (report : Toml.Report)
  deriving DecidableEq, Repr

def parse (text : List Char) : Except Fault Settings :=
  match Toml.parse text with
  | none => .error .malformed
  | some members =>
      match ofMembers members with
      | .error mistake => .error (.misshapen (Toml.report text mistake))
      | .ok settings => .ok settings

end Settings
end BuildPeer
