import BuildPeer.Settings

/-!
What a settings file sets, by the place it is set at. A record is filled by the values that it
takes of a node, each under the name of its field (`taken`), whether the node is a table or a list.
A file is a record of records, so what a setting becomes is told by the values at one place
(`nodesAt`): it is the last of them, or absent (`get_ofMembers`). Every setting has its own place
and leaves all others as they are (`get_put_other`).
-/

namespace BuildPeer

namespace Toml.Decoder

def known (names : List String) (members : Members) : List (String × Node) :=
  (members.map fun m => (m.1.name, m.2)).filter fun m => m.1 ∈ names

/-- The values that a record takes, with the names of their fields: of a table the members that it
knows, of a list as many elements as there are fields. -/
def taken (names : List String) : Node → List (String × Node)
  | .table _ _ members => known names members
  | .list _ nodes => names.zip nodes
  | .tables nodes => names.zip nodes
  | .scalar .. => []

def under (name : String) (entries : List (String × Node)) : List Node :=
  (entries.filter fun e => e.1 = name).map Prod.snd

/-- What a slot becomes when values are decoded into it one after another. -/
def Fills {α : Type} (decode : Decoder α) : List Node → Option α → Option α → Prop
  | [], before, after => after = before
  | node :: nodes, _, after => ∃ a, decode node = .ok a ∧ Fills decode nodes (some a) after

variable {α σ : Type} {decode : Decoder α} {nodes more : List Node}
  {before between after : Option α}

theorem Fills.append (first : Fills decode nodes before between)
    (second : Fills decode more between after) : Fills decode (nodes ++ more) before after := by
  induction nodes generalizing before with
  | nil =>
      cases first
      exact second
  | cons node nodes ih =>
      obtain ⟨a, decoded, rest⟩ := first
      exact ⟨a, decoded, ih rest⟩

theorem Fills.eq_some_iff (fills : Fills decode nodes before after) {a : α} :
    after = some a ↔
      (∃ node, nodes.getLast? = some node ∧ decode node = .ok a) ∨
        nodes = [] ∧ before = some a := by
  induction nodes generalizing before with
  | nil =>
      cases fills
      simp
  | cons node nodes ih =>
      obtain ⟨b, decoded, rest⟩ := fills
      rw [ih rest]
      cases nodes with
      | nil => simp [decoded]
      | cons next nodes => simp

theorem under_cons {name : String} {e : String × Node} {entries : List (String × Node)} :
    under name (e :: entries) =
      if e.1 = name then e.2 :: under name entries else under name entries := by
  by_cases same : e.1 = name <;> simp [under, same]

def Takes (get : σ → Option α) (decode : Decoder α) (field : RecordField σ)
    (inside : Node → List Node) : Prop :=
  ∀ s node s', field.set s node = .ok s' → Fills decode (inside node) (get s) (get s')

def FilledBy (get : σ → Option α) (decode : Decoder α) (name : String) (inside : Node → List Node)
    (fields : List (RecordField σ)) : Prop :=
  ∀ field ∈ fields, Takes get decode field (if field.name = name then inside else fun _ => [])

variable {get : σ → Option α} {fields : List (RecordField σ)} {name : String}
  {inside : Node → List Node} {s s₁ s' : σ}

theorem takes_first {field : RecordField σ} {node : Node} {entries : List (String × Node)}
    (takes : Takes get decode field (if field.name = name then inside else fun _ => []))
    (set : field.set s node = .ok s₁)
    (rest : Fills decode ((under name entries).flatMap inside) (get s₁) (get s')) :
    Fills decode ((under name ((field.name, node) :: entries)).flatMap inside)
      (get s) (get s') := by
  have first := takes s node s₁ set
  rw [under_cons]
  by_cases same : field.name = name
  · rw [if_pos same] at first ⊢
    exact first.append rest
  · rw [if_neg same] at first ⊢
    exact first.append rest

theorem fromMembers_fills {members : Members} (filled : FilledBy get decode name inside fields)
    (read : fromMembers fields s members = .ok s') :
    Fills decode ((under name (known (fields.map RecordField.name) members)).flatMap inside)
      (get s) (get s') := by
  induction members generalizing s with
  | nil =>
      cases read
      rfl
  | cons m members ih =>
      obtain ⟨key, node⟩ := m
      rw [fromMembers] at read
      rw [known, List.map_cons]
      cases found : fields.find? fun field => field.name = key.name with
      | none =>
          rw [found] at read
          have unknown : key.name ∉ fields.map RecordField.name := by
            intro member
            obtain ⟨field, isField, same⟩ := List.mem_map.mp member
            exact absurd (decide_eq_true same) (List.find?_eq_none.mp found field isField)
          rw [List.filter_cons_of_neg (by simpa using unknown)]
          exact ih read
      | some field =>
          rw [found] at read
          dsimp only at read
          have isField : field ∈ fields := List.mem_of_find?_eq_some found
          have same : field.name = key.name := by simpa using List.find?_some found
          have isKnown : key.name ∈ fields.map RecordField.name :=
            same ▸ List.mem_map_of_mem isField
          rw [List.filter_cons_of_pos (by simpa using isKnown)]
          cases set : field.set s node with
          | error mistake =>
              rw [set] at read
              cases read
          | ok s₁ =>
              rw [set] at read
              rw [← same]
              exact takes_first (filled field isField) set (ih read)

theorem fromElements_fills {nodes : List Node} (filled : FilledBy get decode name inside fields)
    (read : fromElements s fields nodes = .ok s') :
    Fills decode ((under name ((fields.map RecordField.name).zip nodes)).flatMap inside)
      (get s) (get s') := by
  induction fields generalizing s nodes with
  | nil =>
      cases read
      rfl
  | cons field fields ih =>
      cases nodes with
      | nil =>
          cases read
          rfl
      | cons node nodes =>
          rw [fromElements] at read
          cases set : field.set s node with
          | error mistake =>
              rw [set] at read
              cases read
          | ok s₁ =>
              rw [set] at read
              rw [List.map_cons, List.zip_cons_cons]
              have others := ih (fun other member => filled other (.tail _ member)) read
              exact takes_first (filled field (.head _)) set others

theorem record_fills {type : String} {node : Node} (filled : FilledBy get decode name inside fields)
    (read : record type fields s node = .ok s') :
    Fills decode ((under name (taken (fields.map RecordField.name) node)).flatMap inside)
      (get s) (get s') := by
  cases node with
  | table span form members => exact fromMembers_fills filled read
  | list span nodes => exact fromElements_fills filled read
  | tables nodes => exact fromElements_fills filled read
  | scalar span value =>
      cases value with
      | date =>
          cases read
          rfl
      | _ => cases read

end Toml.Decoder

namespace Settings

open Toml (Decoder Node)
open Toml.Decoder (Fills FilledBy RecordField Takes known record taken under)

inductive Setting where
  | strict
  | readTimeout
  | maxFrameSize
  | logLevel
  | displayName
  | version
  | rootUri
  | languageIds
  | indexStorePath
  deriving DecidableEq, Repr

inductive Section where
  | session
  | logging
  | fixture
  deriving DecidableEq, Repr

def Section.name : Section → String
  | .session => "session"
  | .logging => "logging"
  | .fixture => "fixture"

/-- In the order in which a list gives them. -/
def Section.settings : Section → List Setting
  | .session => [.strict, .readTimeout, .maxFrameSize]
  | .logging => [.logLevel]
  | .fixture => [.displayName, .version, .rootUri, .languageIds, .indexStorePath]

namespace Setting

def place : Setting → Section
  | .strict | .readTimeout | .maxFrameSize => .session
  | .logLevel => .logging
  | .displayName | .version | .rootUri | .languageIds | .indexStorePath => .fixture

def name : Setting → String
  | .strict => "strict"
  | .readTimeout => "read_timeout_ms"
  | .maxFrameSize => "max_frame_size"
  | .logLevel => "level"
  | .displayName => "display_name"
  | .version => "version"
  | .rootUri => "root_uri"
  | .languageIds => "language_ids"
  | .indexStorePath => "index_store_path"

@[reducible] def Value : Setting → Type
  | .strict => Bool
  | .readTimeout | .maxFrameSize => Nat
  | .languageIds => List String
  | .logLevel | .displayName | .version | .rootUri | .indexStorePath => String

def decode : (k : Setting) → Decoder k.Value
  | .strict => Decoder.bool
  | .readTimeout => Decoder.natural "u64"
  | .maxFrameSize => Decoder.natural "usize"
  | .languageIds => Decoder.strings
  | .logLevel | .displayName | .version | .rootUri | .indexStorePath => Decoder.string

def get (s : Settings) : (k : Setting) → Option k.Value
  | .strict => s.strict
  | .readTimeout => s.readTimeout
  | .maxFrameSize => s.maxFrameSize
  | .logLevel => s.logLevel
  | .displayName => s.displayName
  | .version => s.version
  | .rootUri => s.rootUri
  | .languageIds => s.languageIds
  | .indexStorePath => s.indexStorePath

def put (s : Settings) : (k : Setting) → k.Value → Settings
  | .strict, b => { s with strict := some b }
  | .readTimeout, n => { s with readTimeout := some n }
  | .maxFrameSize, n => { s with maxFrameSize := some n }
  | .logLevel, text => { s with logLevel := some text }
  | .displayName, text => { s with displayName := some text }
  | .version, text => { s with version := some text }
  | .rootUri, text => { s with rootUri := some text }
  | .languageIds, texts => { s with languageIds := some texts }
  | .indexStorePath, text => { s with indexStorePath := some text }

def field (k : Setting) : RecordField Settings :=
  Settings.field k.name k.decode fun s v => put s k v

@[simp]
theorem field_name (k : Setting) : k.field.name = k.name :=
  rfl

theorem get_put (s : Settings) (k : Setting) (v : k.Value) : get (put s k v) k = some v := by
  cases k <;> rfl

theorem get_put_other {j k : Setting} (differs : j ≠ k) (s : Settings) (v : j.Value) :
    get (put s j v) k = get s k := by
  cases j <;> cases k <;> first | rfl | exact absurd rfl differs

theorem eq_of_name {j k : Setting} (place : j.place = k.place) (name : j.name = k.name) :
    j = k := by
  revert place name
  cases j <;> cases k <;> decide

end Setting

theorem Section.mem_settings {k : Setting} {part : Section} :
    k ∈ part.settings ↔ k.place = part := by
  cases part <;> cases k <;> decide

def Section.type : Section → String
  | .session => "SessionConfig"
  | .logging => "LoggingConfig"
  | .fixture => "FixtureConfig"

def Section.field (part : Section) : RecordField Settings :=
  ⟨part.name, record part.type (part.settings.map Setting.field)⟩

theorem sections_eq : sections = [Section.session, .logging, .fixture].map Section.field :=
  rfl

variable {s s' : Settings} {k : Setting} {node : Node}

theorem Setting.field_eq_ok (read : k.field.set s node = .ok s') :
    ∃ v, k.decode node = .ok v ∧ s' = put s k v := by
  change (k.decode node).map (put s k) = .ok s' at read
  cases decoded : k.decode node with
  | error mistake =>
      rw [decoded] at read
      cases read
  | ok v =>
      rw [decoded] at read
      exact ⟨v, rfl, (Except.ok.inj read).symm⟩

theorem Setting.takes_own (k : Setting) :
    Takes (get · k) k.decode k.field fun node => [node] := by
  intro s node s' read
  obtain ⟨v, decoded, rfl⟩ := field_eq_ok read
  exact ⟨v, decoded, get_put s k v⟩

theorem Setting.takes_other {j : Setting} (differs : j ≠ k) :
    Takes (get · k) k.decode j.field fun _ => [] := by
  intro s node s' read
  obtain ⟨v, _, rfl⟩ := field_eq_ok read
  exact get_put_other differs s v

def Setting.inside (k : Setting) (node : Node) : List Node :=
  under k.name (taken (k.place.settings.map Setting.name) node)

theorem Section.names (part : Section) :
    (part.settings.map Setting.field).map RecordField.name = part.settings.map Setting.name := by
  rw [List.map_map]
  rfl

theorem Section.takes (part : Section) (k : Setting) :
    Takes (Setting.get · k) k.decode part.field
      (if part.name = k.place.name then k.inside else fun _ => []) := by
  intro s node s' read
  -- In its own section a setting is told apart by its name, elsewhere by its section.
  by_cases own : k.place = part
  · subst own
    have filled : FilledBy (Setting.get · k) k.decode k.name (fun node => [node])
        (k.place.settings.map Setting.field) := by
      intro field member
      obtain ⟨j, isPart, rfl⟩ := List.mem_map.mp member
      rw [Setting.field_name]
      by_cases same : j.name = k.name
      · obtain rfl := Setting.eq_of_name (Section.mem_settings.mp isPart) same
        rw [if_pos rfl]
        exact j.takes_own
      · rw [if_neg same]
        exact Setting.takes_other fun equal => same (congrArg Setting.name equal)
    have fills := Toml.Decoder.record_fills filled read
    rw [Section.names, List.flatMap_singleton'] at fills
    rw [if_pos rfl]
    exact fills
  · have others : FilledBy (Setting.get · k) k.decode k.name (fun _ => [])
        (part.settings.map Setting.field) := by
      intro field member
      obtain ⟨j, isPart, rfl⟩ := List.mem_map.mp member
      rw [ite_self]
      refine Setting.takes_other fun equal => own ?_
      rw [← equal]
      exact Section.mem_settings.mp isPart
    have fills := Toml.Decoder.record_fills others read
    have apart : part.name ≠ k.place.name := by
      intro same
      apply own
      revert same
      cases part <;> cases k.place <;> decide
    rw [if_neg apart]
    rw [List.flatMap_eq_nil_iff.mpr fun _ _ => rfl] at fills
    exact fills

def Setting.nodesAt (k : Setting) (document : Toml.Members) : List Node :=
  (under k.place.name (known ["session", "logging", "fixture"] document)).flatMap k.inside

def Sets (document : Toml.Members) (k : Setting) (v : k.Value) : Prop :=
  ∃ node, (k.nodesAt document).getLast? = some node ∧ k.decode node = .ok v

theorem get_ofMembers {document : Toml.Members} (read : ofMembers document = .ok s) (k : Setting)
    (v : k.Value) : Setting.get s k = some v ↔ Sets document k v := by
  have filled : FilledBy (Setting.get · k) k.decode k.place.name k.inside sections := by
    intro field member
    rw [sections_eq] at member
    obtain ⟨part, _, rfl⟩ := List.mem_map.mp member
    exact part.takes k
  have fills := Toml.Decoder.fromMembers_fills filled read
  have unset : Setting.get {} k ≠ some v := by
    cases k <;> exact nofun
  refine Iff.trans fills.eq_some_iff ?_
  exact ⟨fun given => given.resolve_right fun none_ => unset none_.2, Or.inl⟩

theorem parse_eq_ok {text : List Char} (read : parse text = .ok s) :
    ∃ document, Toml.parse text = some document ∧ ofMembers document = .ok s := by
  unfold parse at read
  split at read
  · cases read
  · rename_i document parsed
    split at read
    · cases read
    · rename_i settings typed
      cases read
      exact ⟨document, parsed, typed⟩

end Settings
end BuildPeer
