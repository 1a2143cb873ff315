import BuildPeer.Frame
import BuildPeer.Proofs.Json.Record
import BuildPeer.Proofs.Text.Utf8

/-!
Which trees are messages, and which message each of them is. An object and an array of the fields
in their order say the same; what is not a message in this sense is refused as an invalid envelope.
-/

namespace BuildPeer.Envelope

open Json (named)
open Json.Reader (Slot asText? assigned kept? mapM_cons_eq_some once? once?_eq_none once?_eq_some
  positional?_cons_eq_some shape)

def given (params : Option Json) : Option Json :=
  (params.filter (· ≠ .null)).map Json.sorted

inductive Means : Json → Envelope → Prop
  | request {ms : List (String × Json)} {version method : String} {id : Json} {params : Option Json}
      (hasVersion : named "jsonrpc" ms = [.string version]) (hasId : named "id" ms = [id])
      (hasMethod : named "method" ms = [.string method])
      (hasParams : named "params" ms = params.toList) :
      Means (.object ms) (.request id.sorted method (given params))
  | notification {ms : List (String × Json)} {version method : String} {params : Option Json}
      (hasVersion : named "jsonrpc" ms = [.string version]) (noId : named "id" ms = [])
      (hasMethod : named "method" ms = [.string method])
      (hasParams : named "params" ms = params.toList) :
      Means (.object ms) (.notification method (given params))
  | positional {version method : String} {id : Json} {params : Option Json} :
      Means (.array (.string version :: id :: .string method :: params.toList))
        (.request id.sorted method (given params))

/-- The values that are kept as they are: those of `id` and of `params`. -/
def stored : Json → List Json
  | .object ms => named "id" ms ++ named "params" ms
  | .array xs => xs[1]?.toList ++ xs[3]?.toList
  | _ => []

def keep (name : String) (v : Json) : Option Json :=
  if name = "jsonrpc" ∨ name = "method" then (asText? v).map .string else some v.sorted

def message? (tree : Json) : Option Envelope :=
  (kept? keep slots tree).map fun values => (ofSlots values).getD (.notification "" none)

-- The fields.

theorem slots_eq :
    slots = [⟨"jsonrpc", true, shape 126 .text⟩, ⟨"id", false, shape 126 .any⟩,
      ⟨"method", true, shape 126 .text⟩, ⟨"params", false, shape 126 .any⟩] :=
  rfl

theorem keep_any {name : String} (noText : ¬(name = "jsonrpc" ∨ name = "method")) (v : Json) :
    keep name v = some v.sorted :=
  if_neg noText

theorem keep_text {name : String} (isText : name = "jsonrpc" ∨ name = "method") {v w : Json} :
    keep name v = some w ↔ ∃ s, v = .string s ∧ w = .string s := by
  rw [keep, if_pos isText]
  cases v with
  | string s => simp [asText?, eq_comm]
  | _ => simp [asText?]

theorem textSlot_keeps {name : String} (isText : name = "jsonrpc" ∨ name = "method")
    (required : Bool) (room : Nat) {v : Json} (words : v.everywhere Json.isWord = true) :
    (Slot.mk name required (shape room .text)).Keeps keep v := by
  intro rest _
  have read := Json.Reader.text_chars words rest
  rw [keep, if_pos isText]
  exact Json.Reader.map_toOption Json.string read

theorem anySlot_keeps {name : String} (noText : ¬(name = "jsonrpc" ∨ name = "method"))
    (required : Bool) {room : Nat} {v : Json} (words : v.everywhere Json.isWord = true)
    (shallow : v.depth ≤ room) :
    (Slot.mk name required (shape room .any)).Keeps keep v := by
  intro rest ends
  have read := Json.Reader.value_chars words shallow ends
  rw [keep_any noText, shape]
  dsimp only
  rw [read]
  rfl

theorem once?_any (name : String) (noText : ¬(name = "jsonrpc" ∨ name = "method"))
    {vs : List Json} {value : Option Json} :
    once? (keep name) none vs = some value ↔
      ∃ v : Option Json, vs = v.toList ∧ value = v.map Json.sorted := by
  cases value with
  | none =>
      rw [once?_eq_none]
      constructor
      · rintro rfl
        exact ⟨none, rfl, rfl⟩
      · rintro ⟨v, rfl, empty⟩
        rw [Option.map_eq_none_iff.mp empty.symm]
        rfl
  | some w =>
      rw [once?_eq_some]
      constructor
      · rintro ⟨v, rfl, kept⟩
        rw [keep_any noText] at kept
        exact ⟨some v, rfl, kept.symm⟩
      · rintro ⟨v, rfl, filled⟩
        obtain ⟨v, rfl, rfl⟩ := Option.map_eq_some_iff.mp filled.symm
        exact ⟨v, rfl, keep_any noText v⟩

def values (version : String) (id : Option Json) (method : String) (params : Option Json) :
    List (Option Json) :=
  [some (.string version), id.map Json.sorted, some (.string method), params.map Json.sorted]

theorem kept?_object {ms : List (String × Json)} {filled : List (Option Json)} :
    kept? keep slots (.object ms) = some filled ↔
      ∃ version id method params, filled = values version id method params ∧
        named "jsonrpc" ms = [.string version] ∧ named "id" ms = id.toList ∧
        named "method" ms = [.string method] ∧ named "params" ms = params.toList := by
  rw [kept?, Option.filter_eq_some_iff, slots_eq]
  constructor
  · rintro ⟨taken, complete⟩
    obtain ⟨version, _, first, fromId, rfl⟩ := mapM_cons_eq_some.mp taken
    obtain ⟨id, _, second, fromMethod, rfl⟩ := mapM_cons_eq_some.mp fromId
    obtain ⟨method, _, third, fromParams, rfl⟩ := mapM_cons_eq_some.mp fromMethod
    obtain ⟨params, _, fourth, last, rfl⟩ := mapM_cons_eq_some.mp fromParams
    cases last
    cases version with
    | none => cases complete
    | some version =>
        cases method with
        | none => cases complete
        | some method =>
            obtain ⟨_, hasVersion, isText⟩ := once?_eq_some.mp first
            obtain ⟨version, rfl, rfl⟩ := (keep_text (.inl rfl)).mp isText
            obtain ⟨_, hasMethod, isText⟩ := once?_eq_some.mp third
            obtain ⟨method, rfl, rfl⟩ := (keep_text (.inr rfl)).mp isText
            obtain ⟨id, hasId, rfl⟩ := (once?_any "id" (by decide)).mp second
            obtain ⟨params, hasParams, rfl⟩ := (once?_any "params" (by decide)).mp fourth
            exact ⟨version, id, method, params, rfl, hasVersion, hasId, hasMethod, hasParams⟩
  · rintro ⟨version, id, method, params, rfl, hasVersion, hasId, hasMethod, hasParams⟩
    have first := once?_eq_some.mpr
      ⟨_, hasVersion, (keep_text (.inl rfl)).mpr ⟨version, rfl, rfl⟩⟩
    have second := (once?_any "id" (by decide)).mpr ⟨id, hasId, rfl⟩
    have third := once?_eq_some.mpr
      ⟨_, hasMethod, (keep_text (.inr rfl)).mpr ⟨method, rfl, rfl⟩⟩
    have fourth := (once?_any "params" (by decide)).mpr ⟨params, hasParams, rfl⟩
    refine ⟨?_, rfl⟩
    refine mapM_cons_eq_some.mpr ⟨_, _, first, ?_, rfl⟩
    refine mapM_cons_eq_some.mpr ⟨_, _, second, ?_, rfl⟩
    refine mapM_cons_eq_some.mpr ⟨_, _, third, ?_, rfl⟩
    exact mapM_cons_eq_some.mpr ⟨_, _, fourth, rfl, rfl⟩

theorem kept?_array {xs : List Json} {filled : List (Option Json)} :
    kept? keep slots (.array xs) = some filled ↔
      ∃ version id method params, filled = values version (some id) method params ∧
        xs = .string version :: id :: .string method :: params.toList := by
  rw [kept?, slots_eq]
  constructor
  · intro taken
    cases xs with
    | nil => cases taken
    | cons version xs =>
      obtain ⟨_, _, first, fromId, rfl⟩ := positional?_cons_eq_some.mp taken
      obtain ⟨version, rfl, rfl⟩ := (keep_text (.inl rfl)).mp first
      cases xs with
      | nil => cases fromId
      | cons id xs =>
        obtain ⟨_, _, second, fromMethod, rfl⟩ := positional?_cons_eq_some.mp fromId
        cases (keep_any (by decide) id).symm.trans second
        cases xs with
        | nil => cases fromMethod
        | cons method xs =>
          obtain ⟨_, _, third, fromParams, rfl⟩ := positional?_cons_eq_some.mp fromMethod
          obtain ⟨method, rfl, rfl⟩ := (keep_text (.inr rfl)).mp third
          cases xs with
          | nil =>
            cases fromParams
            exact ⟨version, id, method, none, rfl, rfl⟩
          | cons params xs =>
            obtain ⟨_, _, fourth, last, rfl⟩ := positional?_cons_eq_some.mp fromParams
            cases (keep_any (by decide) params).symm.trans fourth
            cases xs with
            | nil =>
              cases last
              exact ⟨version, id, method, some params, rfl, rfl⟩
            | cons more xs => cases last
  · rintro ⟨version, id, method, params, rfl, rfl⟩
    cases params with
    | none => rfl
    | some params => rfl

/-- Every slot reads the values that go to it, as only those of `id` and `params` must not be too
deep. -/
theorem slots_keep {tree : Json} (words : tree.everywhere Json.isWord = true)
    (shallow : ∀ v ∈ stored tree, v.depth ≤ 126) :
    ∀ p ∈ assigned slots tree, p.1.Keeps keep p.2 := by
  intro p member
  cases tree with
  | object ms =>
      have inside := (Json.everywhere_object.mp words).2
      obtain ⟨slot, isSlot, member⟩ := List.mem_flatMap.mp member
      obtain ⟨v, isNamed, rfl⟩ := List.mem_map.mp member
      have words := inside (slot.name, v) (Json.mem_named.mp isNamed)
      simp only [slots_eq, List.mem_cons, List.not_mem_nil, or_false] at isSlot
      rcases isSlot with rfl | rfl | rfl | rfl
      · exact textSlot_keeps (.inl rfl) true 126 words
      · exact anySlot_keeps (by decide) false words (shallow v (List.mem_append_left _ isNamed))
      · exact textSlot_keeps (.inr rfl) true 126 words
      · exact anySlot_keeps (by decide) false words (shallow v (List.mem_append_right _ isNamed))
  | array xs =>
      have inside := (Json.everywhere_array.mp words).2
      obtain ⟨index, found⟩ := List.mem_iff_getElem?.mp member
      obtain ⟨slot, v⟩ := p
      obtain ⟨isSlot, isElement⟩ := List.getElem?_zip_eq_some.mp found
      have words := inside v (List.mem_of_getElem? isElement)
      rw [slots_eq] at isSlot
      match index with
      | 0 =>
          cases isSlot
          exact textSlot_keeps (.inl rfl) true 126 words
      | 1 =>
          cases isSlot
          refine anySlot_keeps (by decide) false words (shallow v ?_)
          exact List.mem_append_left _ (Option.mem_toList.mpr isElement)
      | 2 =>
          cases isSlot
          exact textSlot_keeps (.inr rfl) true 126 words
      | 3 =>
          cases isSlot
          refine anySlot_keeps (by decide) false words (shallow v ?_)
          exact List.mem_append_right _ (Option.mem_toList.mpr isElement)
      | _ + 4 => cases isSlot
  | null => cases member
  | bool b => cases member
  | number n => cases member
  | string s => cases member

-- The message.

theorem ofSlots_values (version : String) (id : Option Json) (method : String)
    (params : Option Json) :
    ofSlots (values version id method params) =
      some (match id with
        | some id => .request id.sorted method (given params)
        | none => .notification method (given params)) := by
  have same : (params.map Json.sorted).filter (· ≠ .null) = given params := by
    cases params with
    | none => rfl
    | some v => cases v <;> rfl
  unfold values ofSlots
  dsimp only
  rw [same]
  cases id with
  | none => rfl
  | some id => rfl

theorem message?_iff (tree : Json) (message : Envelope) :
    message? tree = some message ↔ Means tree message := by
  constructor
  · intro made
    obtain ⟨filled, kept, rfl⟩ := Option.map_eq_some_iff.mp made
    cases tree with
    | object ms =>
        obtain ⟨version, id, method, params, rfl, hasVersion, hasId, hasMethod, hasParams⟩ :=
          kept?_object.mp kept
        rw [ofSlots_values]
        cases id with
        | none => exact .notification hasVersion hasId hasMethod hasParams
        | some id => exact .request hasVersion hasId hasMethod hasParams
    | array xs =>
        obtain ⟨version, id, method, params, rfl, rfl⟩ := kept?_array.mp kept
        rw [ofSlots_values]
        exact .positional
    | null => cases kept
    | bool b => cases kept
    | number n => cases kept
    | string s => cases kept
  · intro meant
    cases meant with
    | request hasVersion hasId hasMethod hasParams =>
        have kept := kept?_object.mpr
          ⟨_, some _, _, _, rfl, hasVersion, hasId, hasMethod, hasParams⟩
        rw [message?, kept, Option.map_some, ofSlots_values]
        rfl
    | notification hasVersion noId hasMethod hasParams =>
        have kept := kept?_object.mpr
          ⟨_, none, _, _, rfl, hasVersion, noId, hasMethod, hasParams⟩
        rw [message?, kept, Option.map_some, ofSlots_values]
        rfl
    | positional =>
        rw [message?, kept?_array.mpr ⟨_, _, _, _, rfl, rfl⟩, Option.map_some, ofSlots_values]
        rfl

theorem decode_chars {tree : Json} (words : tree.everywhere Json.isWord = true)
    (shallow : ∀ v ∈ stored tree, v.depth ≤ 126) :
    (decode tree.chars).toOption = message? tree := by
  have distinct : (slots.map Slot.name).Nodup := by decide
  have read := Json.Reader.record_chars "RawEnvelope" 126 distinct words
    (slots_keep words shallow) []
  rw [List.append_nil] at read
  have whole := Json.Reader.whole_toOption read
  rw [message?, ← whole, decode, Json.nestingLimit]
  cases Json.Reader.whole _ _ with
  | error refusal => rfl
  | ok filled => rfl

/-- A tree is taken as a message exactly when it means one, and as the one it means; every other is
refused. The values of `id` and `params` are stored in normal form, in which a path leads to what
it leads to in the tree, by the last member of each name. -/
theorem decode_iff_means {tree : Json} (words : tree.everywhere Json.isWord = true)
    (shallow : ∀ v ∈ stored tree, v.depth ≤ 126) :
    (∀ message, Frame.decode (Text.Utf8.encode tree.chars) = .ok message ↔ Means tree message) ∧
      ((∀ message, ¬Means tree message) →
        ∃ refusal, Frame.decode (Text.Utf8.encode tree.chars) = .error (.invalidEnvelope refusal)) ∧
      ∀ v ∈ stored tree, v.sorted.everywhere Json.isOrdered = true ∧
        ∀ path, v.sorted.at? path = (v.at? path).map Json.sorted := by
  have read := decode_chars words shallow
  simp only [Frame.decode, Text.Utf8.decode_encode, ← message?_iff, ← read]
  refine ⟨?_, ?_, fun v _ => ⟨Json.sorted_ordered v, Json.sorted_at? v⟩⟩
  · intro message
    cases decode tree.chars with
    | error refusal => simp [Except.toOption]
    | ok other => simp [Except.toOption]
  · intro silent
    cases decoded : decode tree.chars with
    | error refusal => exact ⟨refusal, rfl⟩
    | ok message =>
        rw [decoded] at silent
        exact absurd rfl (silent message)

/-- A request with a note that nests deeper than any value is read, null parameters, and an id that
names a member twice. -/
theorem decode_iff_means_deep_note :
    let note : Json := (List.replicate 200 ()).foldr (fun _ inside => .array [inside]) .null
    let id : Json := .object [("a", .integer 1), ("b", .null), ("a", .integer 2)]
    let tree : Json := .object [("note", note), ("params", .null), ("method", .string "run"),
      ("id", id), ("jsonrpc", .string "2.0")]
    tree.everywhere Json.isWord = true ∧ (∀ v ∈ stored tree, v.depth ≤ 126) ∧ note.depth = 200 ∧
      Frame.decode (Text.Utf8.encode tree.chars) =
        .ok (.request (.object [("a", .integer 2), ("b", .null)]) "run" none) := by
  intro note id tree
  have words : tree.everywhere Json.isWord = true := by decide +kernel
  have shallow : ∀ v ∈ stored tree, v.depth ≤ 126 := by decide +kernel
  have meant : Means tree (.request id.sorted "run" (given (some .null))) :=
    .request rfl rfl rfl rfl
  exact ⟨words, shallow, by decide +kernel, ((decode_iff_means words shallow).1 _).mpr meant⟩

end BuildPeer.Envelope
