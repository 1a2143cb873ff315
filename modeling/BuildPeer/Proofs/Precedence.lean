import BuildPeer.Config
import BuildPeer.Proofs.CommandLine
import BuildPeer.Proofs.Settings
import BuildPeer.Proofs.Text.Utf8

/-!
Where each part of a configuration comes from. A part has sources in an order, and is what the first
of them has, or a default (`Resolves`). The sources are the things said on the command line and the
places in the settings file, so the statement here does not speak of how either was read.

The level has one exception among its sources: the level that is the default counts as not given.
-/

namespace BuildPeer.Config

open CommandLine (Arguments Gives Saying Spells)
open Settings (Setting Sets)

/-- A value by its sources: the first that has one, and a default where none has. -/
inductive Resolves {α : Type} (default : α) : List (α → Prop) → α → Prop where
  | default : Resolves default [] default
  | here {source : α → Prop} {sources : List (α → Prop)} {a : α} (has : source a) :
      Resolves default (source :: sources) a
  | later {source : α → Prop} {sources : List (α → Prop)} {a : α} (lacks : ∀ b, ¬source b)
      (rest : Resolves default sources a) : Resolves default (source :: sources) a

inductive Reads (sayings : List Saying) (file : Except String Bytes) : Toml.Members → Prop where
  | nothing (unnamed : ∀ path, ¬Gives sayings .config path) : Reads sayings file []
  | file {path : String} {bytes : Bytes} {text : List Char} {document : Toml.Members}
      {settings : Settings} (named : Gives sayings .config path) (present : file = .ok bytes)
      (decoded : Text.Utf8.decode bytes = .ok text) (parsed : Toml.parse text = some document)
      (typed : Settings.ofMembers document = .ok settings) : Reads sayings file document

structure Follows (sayings : List Saying) (document : Toml.Members) (config : Config) : Prop where
  readTimeout : ∃ ms, Resolves 0 [Gives sayings .readTimeout, Sets document .readTimeout] ms ∧
    config.server.limits.readTimeout = if ms = 0 then none else some ⟨ms⟩
  maxFrameSize : Resolves 16777216 [Gives sayings .maxFrameSize, Sets document .maxFrameSize]
    config.server.limits.maxFrameSize
  logLevel : Resolves "info"
    [fun level => Gives sayings .logLevel level ∧ level ≠ "info", Sets document .logLevel]
    config.logLevel
  strict : config.server.strict = true ↔ .strict ∈ sayings ∨ Sets document .strict true
  displayName : Resolves "test server" [Sets document .displayName]
    config.server.identity.displayName
  version : Resolves "0.1" [Sets document .version] config.server.identity.version
  rootUri : Resolves "blah" [Sets document .rootUri] config.server.identity.rootUri
  languageIds : Resolves ["a", "b"] [Sets document .languageIds] config.server.identity.languageIds
  indexStorePath : Resolves "some/index/store/path" [Sets document .indexStorePath]
    config.server.identity.indexStorePath

variable {α : Type} {default : α} {source : α → Prop} {sources : List (α → Prop)} {o p : Option α}

theorem Resolves.or (is : ∀ a, o = some a ↔ source a)
    (rest : Resolves default sources (p.getD default)) :
    Resolves default (source :: sources) ((o.or p).getD default) := by
  cases o with
  | none => exact .later (fun b has => nomatch (is b).mpr has) rest
  | some a => exact .here ((is a).mp rfl)

theorem Resolves.getD (is : ∀ a, o = some a ↔ source a) :
    Resolves default [source] (o.getD default) := by
  have resolves : Resolves default [source] ((o.or none).getD default) := .or is .default
  rwa [Option.or_none] at resolves

theorem Resolves.unlessDefault [DecidableEq α] (is : ∀ a, o = some a ↔ source a)
    (rest : Resolves default sources (p.getD default)) :
    Resolves default ((fun a => source a ∧ a ≠ default) :: sources)
      (if o.getD default = default then p.getD default else o.getD default) := by
  by_cases same : o.getD default = default
  · rw [if_pos same]
    refine .later (fun b has => ?_) rest
    rw [(is b).mpr has.1] at same
    exact has.2 same
  · rw [if_neg same]
    cases o with
    | none => exact absurd rfl same
    | some a => exact .here ⟨(is a).mp rfl, same⟩

variable {sayings : List Saying} {args : List String} {arguments : Arguments}
  {file : Except String Bytes} {document : Toml.Members} {settings : Settings}

theorem merge_follows (strict : arguments.strict = true ↔ .strict ∈ sayings)
    (given : ∀ opt v, arguments.value? opt = some v ↔ Gives sayings opt v)
    (set : ∀ k v, Setting.get settings k = some v ↔ Sets document k v) :
    Follows sayings document (merge arguments settings) where
  readTimeout :=
    ⟨_, Resolves.or (given .readTimeout) (Resolves.getD (set .readTimeout)), rfl⟩
  maxFrameSize := Resolves.or (given .maxFrameSize) (Resolves.getD (set .maxFrameSize))
  logLevel := Resolves.unlessDefault (given .logLevel) (Resolves.getD (set .logLevel))
  strict := by
    have isSet := set .strict true
    change (arguments.strict || settings.strict.getD false) = true ↔ _
    rw [Bool.or_eq_true, strict, ← isSet]
    change _ ∨ _ ↔ _ ∨ settings.strict = some true
    cases settings.strict <;> simp
  displayName := Resolves.getD (set .displayName)
  version := Resolves.getD (set .version)
  rootUri := Resolves.getD (set .rootUri)
  languageIds := Resolves.getD (set .languageIds)
  indexStorePath := Resolves.getD (set .indexStorePath)

theorem ofFile_eq_ok {path : String} {bytes : Bytes} {text : List Char}
    (decoded : Text.Utf8.decode bytes = .ok text) (parsed : Toml.parse text = some document)
    (typed : Settings.ofMembers document = .ok settings) : ofFile path bytes = .ok settings := by
  unfold ofFile Settings.parse
  rw [decoded]
  dsimp only
  rw [parsed]
  dsimp only
  rw [typed]

theorem load_merge (accepted : CommandLine.parse args = .ok arguments)
    (spells : Spells sayings args) (reads : Reads sayings file document) :
    ∃ settings, Settings.ofMembers document = .ok settings ∧
      load args file = .ok (merge arguments settings) := by
  have named := CommandLine.parse_value spells accepted .config
  unfold load
  rw [accepted]
  cases reads with
  | nothing unnamed =>
      have none_ : arguments.config = none :=
        Option.eq_none_iff_forall_not_mem.mpr fun path is => unnamed path ((named path).mp is)
      refine ⟨{}, rfl, ?_⟩
      dsimp only
      rw [none_]
  | @file path bytes text document settings isNamed present decoded parsed typed =>
      have some_ : arguments.config = some path := (named path).mpr isNamed
      refine ⟨settings, typed, ?_⟩
      dsimp only
      rw [some_, present]
      dsimp only
      rw [ofFile_eq_ok decoded parsed typed]
      rfl

/-- What the configuration is, by what the command line says and what the settings file sets. The
command line comes first, but a level that it gives and that is the default counts as not given. -/
theorem load_follows (accepted : CommandLine.parse args = .ok arguments) :
    (∃ sayings, Spells sayings args) ∧
      ∀ sayings document, Spells sayings args → Reads sayings file document →
        ∃ config, load args file = .ok config ∧ Follows sayings document config := by
  refine ⟨CommandLine.spelled_of_parse accepted, fun sayings document spells reads => ?_⟩
  obtain ⟨settings, typed, loaded⟩ := load_merge accepted spells reads
  refine ⟨merge arguments settings, loaded, merge_follows ?_ ?_ ?_⟩
  · exact CommandLine.parse_strict spells accepted
  · exact CommandLine.parse_value spells accepted
  · exact Settings.get_ofMembers typed

def mixedLine : List String :=
  ["--read-timeout-ms=0", "-cserver.toml", "--log-level", "trace", "--"]

def mixedSayings : List Saying :=
  [.value .readTimeout "0", .value .config "server.toml", .value .logLevel "trace"]

def mixedFile : List Char :=
  "session = [true, 500, 4096]\n[logging]\nlevel = \"debug\"\n[fixture]\nversion = \"7\"\n".toList

theorem load_follows_mixed :
    ∃ document config,
      Reads mixedSayings (.ok (Text.Utf8.encode mixedFile)) document ∧
        load mixedLine (.ok (Text.Utf8.encode mixedFile)) = .ok config ∧
        Follows mixedSayings document config ∧
        config = ⟨⟨true, { version := "7" }, ⟨4096, none⟩⟩, "trace"⟩ := by
  have accepted : CommandLine.parse mixedLine =
      .ok { config := "server.toml", readTimeout := some 0, logLevel := "trace" } :=
    rfl
  have settings : Settings.parse mixedFile =
      .ok { strict := true, readTimeout := some 500, maxFrameSize := some 4096, logLevel := "debug",
            version := "7" } :=
    rfl
  have spells : Spells mixedSayings mixedLine :=
    .whole (.long .readTimeout "0") (.whole (.short (by decide) (by decide))
      (.apart (.long .logLevel) (.inr (by decide)) .closed))
  obtain ⟨document, parsed, typed⟩ := Settings.parse_eq_ok settings
  have named : Gives mixedSayings .config "server.toml" := ⟨"server.toml", by decide, rfl⟩
  have reads := Reads.file named rfl (Text.Utf8.decode_encode mixedFile) parsed typed
  obtain ⟨config, loaded, follows⟩ := (load_follows accepted).2 _ document spells reads
  have same : load mixedLine (.ok (Text.Utf8.encode mixedFile)) =
      .ok ⟨⟨true, { version := "7" }, ⟨4096, none⟩⟩, "trace"⟩ := rfl
  exact ⟨document, config, reads, loaded, follows, Except.ok.inj (loaded.symm.trans same)⟩

/-- A level that is given and is the default: the level of the file is taken. -/
theorem load_passes_given_level :
    ∃ config,
      Spells [.value .config "config.toml", .value .logLevel "info"]
        ["--config", "config.toml", "--log-level", "info"] ∧
      Gives [.value .config "config.toml", .value .logLevel "info"] .logLevel "info" ∧
      load ["--config", "config.toml", "--log-level", "info"]
        (.ok (Text.Utf8.encode "[logging]\nlevel = \"debug\"\n".toList)) = .ok config ∧
      config.logLevel = "debug" := by
  have spells : Spells [.value .config "config.toml", .value .logLevel "info"]
      ["--config", "config.toml", "--log-level", "info"] :=
    .apart (.long .config) (.inr (by decide))
      (.apart (.long .logLevel) (.inr (by decide)) .nothing)
  exact ⟨⟨{}, "debug"⟩, spells, ⟨"info", by decide, rfl⟩, rfl, rfl⟩

end BuildPeer.Config
