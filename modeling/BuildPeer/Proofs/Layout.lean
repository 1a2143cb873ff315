import BuildPeer.Proofs.Json.Path
import BuildPeer.Proofs.Response

/-!
Responses in any layout. An object says a response when it has the three members of the response in
any order, and between them any others of other names; an error may be laid out as freely inside its
member. `Mixed` is this freedom, and of mixed members only what stands under a name matters
(`Mixed.named_eq`). Reading takes the members one after another, so each step is told by what has
been read and what is still to come: together these are always the one value under the name.
-/

namespace BuildPeer.Response

open Json (isWord named named_cons nestingLimit)
open Json.Reader (asText? eq_ok_of_toOption)

/-- Members in any order, and mixed with others that have none of the given names. -/
def Mixed (names : List String) (own ms : List (String × Json)) : Prop :=
  ∃ others, ms.Perm (own ++ others) ∧ ∀ m ∈ others, m.1 ∉ names

/-- The objects that say a response. What stands under a name is stored in normal form. -/
inductive Layout : Response → List (String × Json) → Prop where
  | result {version : String} {id value : Json} {ms : List (String × Json)}
      (mixed : Mixed ["jsonrpc", "id", "result", "error"]
        [("jsonrpc", .string version), ("id", id), ("result", value)] ms) :
      Layout ⟨version, id.sorted, .result value.sorted⟩ ms
  | error {version : String} {id : Json} {e : ResponseError} {ms inside : List (String × Json)}
      (code : -Nat.pow 2 63 ≤ e.code ∧ e.code < Nat.pow 2 63)
      (mixed : Mixed ["jsonrpc", "id", "result", "error"]
        [("jsonrpc", .string version), ("id", id), ("error", .object inside)] ms)
      (mixedInside : Mixed ["code", "message"]
        [("code", .integer e.code), ("message", .string e.message)] inside) :
      Layout ⟨version, id.sorted, .error e⟩ ms

variable {names : List String} {name : String} {own ms : List (String × Json)}

-- Mixed members.

/-- Of mixed members a choice by their names takes what it takes of the members themselves. -/
theorem Mixed.filter (mixed : Mixed names own ms) (choose : String → Bool)
    (known : ∀ name, choose name = true → name ∈ names) :
    (ms.filter fun m => choose m.1).Perm (own.filter fun m => choose m.1) := by
  obtain ⟨others, perm, foreign⟩ := mixed
  have none_ : (others.filter fun m => choose m.1) = [] := by
    rw [List.filter_eq_nil_iff]
    exact fun m member chosen => foreign m member (known m.1 chosen)
  have chosen := perm.filter fun m => choose m.1
  rwa [List.filter_append, none_, List.append_nil] at chosen

theorem Mixed.named_eq (mixed : Mixed names own ms) (known : name ∈ names) {v : Json}
    (alone : named name own = [v]) : named name ms = [v] := by
  have chosen := mixed.filter (fun other => decide (other = name))
    fun other same => of_decide_eq_true same ▸ known
  have values := chosen.map Prod.snd
  change (named name ms).Perm (named name own) at values
  rw [alone] at values
  exact List.perm_singleton.mp values

theorem Mixed.mem_iff (mixed : Mixed names own ms) (known : name ∈ names) :
    name ∈ ms.map Prod.fst ↔ name ∈ own.map Prod.fst := by
  obtain ⟨others, perm, foreign⟩ := mixed
  have unknown : name ∉ others.map Prod.fst := by
    intro member
    obtain ⟨m, isOther, rfl⟩ := List.mem_map.mp member
    exact foreign m isOther known
  have same := (perm.map Prod.fst).mem_iff (a := name)
  rwa [List.map_append, List.mem_append, or_iff_left unknown] at same

-- The members of a response.

def isOther (m : String × Json) : Bool :=
  m.1 ≠ "jsonrpc" && m.1 ≠ "id"

theorem append_cons_eq_singleton {α : Type} {read later : List α} {v w : α} :
    read ++ v :: later = [w] ↔ read = [] ∧ v = w ∧ later = [] := by
  simp [List.append_eq_singleton_iff]

/-- Version and id are each read once; what has been read of them and what is to come is that one
value. All other members are kept, the last one first. -/
theorem foldlM_add {version : String} {id : Json} {readVersion : Option String}
    {readId : Option Json} {others : List (String × Json)}
    (versions : readVersion.toList.map Json.string ++ named "jsonrpc" ms = [.string version])
    (ids : readId.toList ++ (named "id" ms).map Json.sorted = [id]) :
    ms.foldlM Draft.add ⟨readVersion, readId, others⟩ =
      some ⟨some version, some id, (ms.filter isOther).reverse ++ others⟩ := by
  induction ms generalizing readVersion readId others with
  | nil =>
      cases readVersion with
      | none => cases versions
      | some s =>
          cases readId with
          | none => cases ids
          | some v =>
              cases versions
              cases ids
              rfl
  | cons m ms ih =>
      obtain ⟨name, v⟩ := m
      rw [named_cons] at versions ids
      rw [List.foldlM_cons, Draft.add]
      by_cases isVersion : name = "jsonrpc"
      · subst isVersion
        rw [if_pos rfl, append_cons_eq_singleton] at versions
        obtain ⟨unread, rfl, last⟩ := versions
        obtain rfl : readVersion = none := by simpa using unread
        change ms.foldlM Draft.add ⟨some version, readId, others⟩ = _
        exact ih (by rw [last]; rfl) ids
      · rw [if_neg isVersion] at versions ⊢
        by_cases isId : name = "id"
        · subst isId
          rw [if_pos rfl, List.map_cons, append_cons_eq_singleton] at ids
          obtain ⟨unread, rfl, last⟩ := ids
          obtain rfl : readId = none := by simpa using unread
          change ms.foldlM Draft.add ⟨readVersion, some v.sorted, others⟩ = _
          exact ih versions (by rw [last]; rfl)
        · rw [if_neg isId] at ids ⊢
          have other : isOther (name, v) = true := by simp [isOther, isVersion, isId]
          rw [List.filter_cons, if_pos other, List.reverse_cons, List.append_assoc]
          change ms.foldlM Draft.add ⟨readVersion, readId, (name, v) :: others⟩ = _
          exact ih versions ids

-- The payload.

def isPayload (m : String × Json) : Bool :=
  m.1 = "result" || m.1 = "error"

theorem asReply_filter (ms : List (String × Json)) :
    asReply (ms.filter isPayload) = asReply ms := by
  induction ms with
  | nil => rfl
  | cons m ms ih =>
      obtain ⟨name, v⟩ := m
      rw [List.filter_cons]
      by_cases isResult : name = "result"
      · simp [isPayload, asReply, isResult]
      · by_cases isError : name = "error"
        · simp [isPayload, asReply, isError]
        · simp [isPayload, asReply, isResult, isError, ih]

theorem filter_isOther_isPayload (ms : List (String × Json)) :
    (ms.filter isOther).filter isPayload = ms.filter isPayload := by
  rw [List.filter_filter]
  congr 1
  funext m
  by_cases isResult : m.1 = "result"
  · simp [isOther, isPayload, isResult]
  · by_cases isError : m.1 = "error" <;> simp [isOther, isPayload, isResult, isError]

theorem errorMembers_eq_ok {e : ResponseError} {code : Option Int} {message : Option String}
    (fits : -Nat.pow 2 63 ≤ e.code ∧ e.code < Nat.pow 2 63)
    (codes : code.toList.map Json.integer ++ named "code" ms = [.integer e.code])
    (messages : message.toList.map Json.string ++ named "message" ms = [.string e.message]) :
    errorMembers code message ms = .ok e := by
  induction ms generalizing code message with
  | nil =>
      cases code with
      | none => cases codes
      | some n =>
          cases message with
          | none => cases messages
          | some s =>
              cases codes
              cases messages
              rfl
  | cons m ms ih =>
      obtain ⟨name, v⟩ := m
      rw [named_cons] at codes messages
      rw [errorMembers]
      by_cases isCode : name = "code"
      · subst isCode
        rw [if_pos rfl, append_cons_eq_singleton] at codes
        obtain ⟨unread, rfl, last⟩ := codes
        obtain rfl : code = none := by simpa using unread
        have taken : asCode (.integer e.code) = .ok e.code := by
          rw [Json.integer, asCode, if_pos fits]
        rw [if_pos rfl, taken]
        change errorMembers (some e.code) message ms = _
        exact ih (by rw [last]; rfl) messages
      · rw [if_neg isCode] at codes ⊢
        by_cases isMessage : name = "message"
        · subst isMessage
          rw [if_pos rfl, append_cons_eq_singleton] at messages
          obtain ⟨unread, rfl, last⟩ := messages
          obtain rfl : message = none := by simpa using unread
          change errorMembers code (some e.message) ms = _
          exact ih codes (by rw [last]; rfl)
        · rw [if_neg isMessage] at messages ⊢
          exact ih codes messages

/-- A version, an id and one payload, among further members, are the response. -/
theorem decode_mixed {version : String} {id : Json} {payload : String × Json} {reply : Reply}
    (mixed : Mixed ["jsonrpc", "id", "result", "error"]
      [("jsonrpc", .string version), ("id", id), payload] ms)
    (isOne : isPayload payload = true) (reads : asReply [payload] = .ok reply)
    (words : (Json.object ms).everywhere isWord = true)
    (nests : (Json.object ms).depth ≤ nestingLimit) :
    decode (Json.object ms).chars = .ok ⟨version, id.sorted, reply⟩ := by
  have differs : payload.1 ≠ "jsonrpc" ∧ payload.1 ≠ "id" := by
    rcases payload with ⟨name, v⟩
    constructor
    all_goals
      rintro rfl
      cases isOne
  have versions : named "jsonrpc" ms = [.string version] :=
    mixed.named_eq (by simp) (by simp [named, differs.1])
  have ids : named "id" ms = [id] :=
    mixed.named_eq (by simp) (by simp [named, differs.2])
  have drafted : ms.foldlM Draft.add {} =
      some ⟨some version, some id.sorted, (ms.filter isOther).reverse⟩ := by
    rw [foldlM_add (by rw [versions]; rfl) (by rw [ids]; rfl), List.append_nil]
  -- The payload is the only member that can be one, wherever it stands.
  have payloads : ms.filter isPayload = [payload] := by
    have chosen := mixed.filter (fun name => name = "result" || name = "error")
      (by simp +contextual)
    have own : [("jsonrpc", Json.string version), ("id", id), payload].filter isPayload =
        [payload] := by
      rw [List.filter_cons_of_neg (by simp [isPayload]),
        List.filter_cons_of_neg (by simp [isPayload]), List.filter_cons_of_pos isOne,
        List.filter_nil]
    exact List.perm_singleton.mp (own ▸ chosen)
  have replied : asReply (ms.filter isOther) = .ok reply := by
    rw [← asReply_filter, filter_isOther_isPayload, payloads, reads]
  apply eq_ok_of_toOption
  rw [decode_object words nests, drafted, Option.bind_some, Draft.finish, List.reverse_reverse,
    replied]
  rfl

/-- Whatever the order of its members, and whatever stands between them, an object that says a
response is decoded to it; which member the payload was stands in the response. -/
theorem decode_ignores_layout {r : Response} {ms : List (String × Json)} (layout : Layout r ms)
    (words : (Json.object ms).everywhere isWord = true)
    (nests : (Json.object ms).depth ≤ nestingLimit) :
    decode (Json.object ms).chars = .ok r ∧
      (r.isError = true ↔ "error" ∈ ms.map Prod.fst) ∧
      (r.isError = false ↔ "result" ∈ ms.map Prod.fst) := by
  cases layout with
  | result mixed =>
      refine ⟨decode_mixed mixed rfl rfl words nests, ?_, ?_⟩
      · rw [mixed.mem_iff (by simp)]
        simp [isError]
      · rw [mixed.mem_iff (by simp)]
        simp [isError]
  | @error version id e _ inside code mixed mixedInside =>
      have codes : named "code" inside = [.integer e.code] :=
        mixedInside.named_eq (by simp) rfl
      have messages : named "message" inside = [.string e.message] :=
        mixedInside.named_eq (by simp) rfl
      have reads : errorMembers none none inside = .ok e :=
        errorMembers_eq_ok code codes messages
      refine ⟨decode_mixed mixed rfl ?_ words nests, ?_, ?_⟩
      · rw [asReply, if_neg (by decide), if_pos rfl, asError, reads]
        rfl
      · rw [mixed.mem_iff (by simp)]
        simp [isError]
      · rw [mixed.mem_iff (by simp)]
        simp [isError]

/-- An error response backwards, among members that repeat, that nest the name of another, and that
the error has too. -/
def backwards : List (String × Json) := [
  ("data", .null),
  ("error", .object [
    ("data", .array []), ("message", .string "no"), ("id", .null), ("data", .bool true),
    ("code", .integer (-9223372036854775808))]),
  ("data", .string "again"),
  ("id", .object [("b", .integer 1), ("a", .integer 2), ("b", .integer 18446744073709551615)]),
  ("code", .object [("result", .bool false)]),
  ("jsonrpc", .string "1.5")]

theorem decode_backwards :
    decode (Json.object backwards).chars =
        .ok ⟨"1.5", .object [("a", .integer 2), ("b", .integer 18446744073709551615)],
          .error ⟨-9223372036854775808, "no"⟩⟩ ∧
      "error" ∈ backwards.map Prod.fst ∧ "result" ∉ backwards.map Prod.fst := by
  have inside : Mixed ["code", "message"]
      [("code", .integer (-9223372036854775808)), ("message", .string "no")]
      [("data", .array []), ("message", .string "no"), ("id", .null), ("data", .bool true),
        ("code", .integer (-9223372036854775808))] :=
    ⟨[("data", .array []), ("id", .null), ("data", .bool true)], by decide, by decide⟩
  have outside : Mixed ["jsonrpc", "id", "result", "error"]
      [("jsonrpc", .string "1.5"), ("id", backwards[3].2), ("error", backwards[1].2)] backwards :=
    ⟨[backwards[0], backwards[2], backwards[4]], by decide, by decide⟩
  obtain ⟨read, isError, isResult⟩ := decode_ignores_layout
    (.error (e := ⟨-9223372036854775808, "no"⟩) (by decide) outside inside)
    (by decide) (by decide)
  exact ⟨read, isError.mp rfl, fun member => nomatch isResult.mpr member⟩

end BuildPeer.Response
