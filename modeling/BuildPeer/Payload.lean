import BuildPeer.Json.Shape

/-!
The results the peer answers with: who it is, and the sources of its two targets. `toJson` writes a
payload with its members in the order of its shape.
-/

namespace BuildPeer

structure Identity where
  displayName : String := "test server"
  version : String := "0.1"
  rootUri : String := "blah"
  languageIds : List String := ["a", "b"]
  indexStorePath : String := "some/index/store/path"
  deriving DecidableEq, Repr

structure InitializeResult where
  displayName : String
  version : String
  protocolVersion : String
  rootUri : String
  languageIds : List String
  indexStorePath : String
  deriving DecidableEq, Repr

inductive SourceKind where
  | file
  | directory
  deriving DecidableEq, Repr

def SourceKind.code : SourceKind → Nat
  | .file => 1
  | .directory => 2

structure SourceItem where
  uri : String
  kind : SourceKind
  generated : Bool
  deriving DecidableEq, Repr

structure TargetSources where
  target : String
  sources : List SourceItem
  deriving DecidableEq, Repr

def initializeResult (identity : Identity) : InitializeResult where
  displayName := identity.displayName
  version := identity.version
  protocolVersion := "2.0"
  rootUri := identity.rootUri
  languageIds := identity.languageIds
  indexStorePath := identity.indexStorePath

def targetSources (target file directory : String) : TargetSources where
  target := target
  sources := [⟨file, .file, false⟩, ⟨directory, .directory, false⟩]

def sourcesResult : List TargetSources :=
  [targetSources "build://target/a" "file:///path/to/a/file" "file:///path/to/a/folder/",
    targetSources "build://target/b" "file:///path/to/b/file" "file:///path/to/b/folder/"]

namespace Payload

def ofInitialize (r : InitializeResult) : Json :=
  .object [
    ("displayName", .string r.displayName),
    ("version", .string r.version),
    ("bspVersion", .string r.protocolVersion),
    ("rootUri", .string r.rootUri),
    ("capabilities", .object [("languageIds", .array (r.languageIds.map .string))]),
    ("data", .object [("indexStorePath", .string r.indexStorePath)])]

def ofSourceItem (s : SourceItem) : Json :=
  .object [
    ("uri", .string s.uri),
    ("kind", .integer s.kind.code),
    ("generated", .bool s.generated)]

def ofTargetSources (t : TargetSources) : Json :=
  .object [
    ("target", .object [("uri", .string t.target)]),
    ("sources", .array (t.sources.map ofSourceItem))]

def ofSources (items : List TargetSources) : Json :=
  .object [("items", .array (items.map ofTargetSources))]

-- The shapes that the payloads have, and that are read back.

def targetShape : Json.Shape :=
  .record "BuildTargetIdentifier" [("uri", true, .text)]

def sourceItemShape : Json.Shape :=
  .record "SourceItem" [("uri", true, .text), ("kind", true, .kind), ("generated", true, .flag)]

def targetSourcesShape : Json.Shape :=
  .record "SourcesItem" [("target", true, targetShape), ("sources", true, .list sourceItemShape)]

def sourcesShape : Json.Shape :=
  .record "SourcesResult" [("items", true, .list targetSourcesShape)]

def initializeShape : Json.Shape :=
  .record "InitializeBuildResult" [
    ("displayName", true, .text),
    ("version", true, .text),
    ("bspVersion", true, .text),
    ("rootUri", true, .text),
    ("capabilities", true,
      .record "BuildServerCapabilities" [("languageIds", true, .list .text)]),
    ("data", true, .record "InitializeData" [("indexStorePath", true, .text)])]

end Payload
end BuildPeer
