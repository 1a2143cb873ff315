import BuildPeer.Proofs.Json.Shape
import BuildPeer.Response

/-!
Responses read back from compact objects. What decoding makes of an object depends on its members
alone: they are taken one after another by `Draft.add`, and the draft is finished. A response whose
values are such as are stored and sent is read back from its own text.
-/

namespace BuildPeer

namespace Response

open Json (isWord isOrdered nestingLimit)
open Json.Reader

def Draft.add (draft : Draft) (m : String × Json) : Option Draft :=
  if m.1 = "jsonrpc" then
    if draft.version.isSome then none
    else (asText? m.2).map fun s => { draft with version := some s }
  else if m.1 = "id" then
    if draft.id.isSome then none else some { draft with id := some m.2.sorted }
  else some { draft with others := m :: draft.others }

theorem readMember_chars {m : String × Json} (words : m.2.everywhere isWord = true)
    (fits : m.2.depth ≤ nestingLimit - 1) (draft : Draft) {rest : List Char} (ends : Ends rest) :
    (readMember draft m.1 (':' :: (m.2.chars ++ rest))).toOption = (draft.add m).map (·, rest) := by
  have text := text_chars words rest
  have value := value_chars words fits ends
  unfold readMember Draft.add
  split
  · split
    · rfl
    · rw [afterColon_chars]
      generalize Json.Reader.text (m.2.chars ++ rest) = given at text
      cases given with
      | error fault =>
          cases said : asText? m.2 with
          | none => rfl
          | some s =>
              rw [said] at text
              cases text
      | ok read =>
          cases said : asText? m.2 with
          | none =>
              rw [said] at text
              cases text
          | some s =>
              rw [said] at text
              cases text
              rfl
  · split
    · split
      · rfl
      · rw [afterColon_chars, value]
        rfl
    · rw [afterColon_chars, value]
      rfl

theorem readMembers_chars {ms : List (String × Json)}
    (words : ∀ m ∈ ms, m.2.everywhere isWord = true)
    (fits : ∀ m ∈ ms, m.2.depth ≤ nestingLimit - 1) (rest : List Char) :
    (readMembers (Json.memberChars true ms ++ rest)).toOption =
      ((ms.foldlM Draft.add {}).bind fun draft => draft.finish.toOption).map (·, '}' :: rest) := by
  have taken := members_chars (fun m member draft rest ends =>
    readMember_chars (words m member) (fits m member) draft ends) {} rest
  unfold readMembers
  generalize members readMember {} (Json.memberChars true ms ++ rest) = given at taken
  cases drafted : ms.foldlM Draft.add {} with
  | none =>
      rw [drafted] at taken
      cases given with
      | error fault => rfl
      | ok read => cases taken
  | some draft =>
      rw [drafted] at taken
      cases given with
      | error fault => cases taken
      | ok read =>
          cases taken
          dsimp only [Option.bind]
          cases draft.finish <;> rfl

/-- Decoding a compact object: its members, added to a draft in their order. -/
theorem decode_object {ms : List (String × Json)}
    (words : (Json.object ms).everywhere isWord = true)
    (fits : (Json.object ms).depth ≤ nestingLimit) :
    (decode (Json.object ms).chars).toOption =
      (ms.foldlM Draft.add {}).bind fun draft => draft.finish.toOption := by
  have inside := (Json.everywhere_object.mp words).2
  have shallow : ∀ m ∈ ms, m.2.depth ≤ nestingLimit - 1 := Json.depth_object_le.mp fits
  have members := closeObject_toOption (readMembers_chars inside shallow [])
  apply whole_toOption
  rw [List.append_nil] at members
  rw [Json.chars]
  exact members

/-- Whether a payload can be stored: the names in a result ascend, the code of an error is a
signed word. -/
def isStored : Reply → Bool
  | .result value => value.everywhere isOrdered
  | .error e => -Nat.pow 2 63 ≤ e.code && e.code < Nat.pow 2 63

/-- A response as it is stored and sent, whose numbers are words and which is not too deep to be
read. -/
structure Stored (r : Response) : Prop where
  words : r.toJson.everywhere isWord = true
  nests : r.toJson.depth ≤ nestingLimit
  id : r.id.everywhere isOrdered = true
  reply : isStored r.reply = true

theorem asError_errorJson {e : ResponseError}
    (code : -Nat.pow 2 63 ≤ e.code ∧ e.code < Nat.pow 2 63) :
    asError (errorJson e) = .ok e := by
  have taken : asCode (.integer e.code) = .ok e.code := by
    rw [Json.integer, asCode, if_pos code]
  simp [errorJson, asError, errorMembers, taken, asText, Except.bind]

theorem decode_toJson {r : Response} (stored : r.Stored) : decode r.toJson.chars = .ok r := by
  have id : r.id.sorted = r.id := Json.sorted_of_ordered _ stored.id
  have drafted (last : String × Json) (other : last.1 ≠ "jsonrpc" ∧ last.1 ≠ "id") :
      [("jsonrpc", .string r.version), ("id", r.id), last].foldlM Draft.add {} =
        some ⟨some r.version, some r.id, [last]⟩ := by
    simp [Draft.add, asText?, other, id]
  have reply := stored.reply
  have decoded := decode_object stored.words stored.nests
  apply eq_ok_of_toOption
  rw [toJson, decoded]
  obtain ⟨version, _, payload⟩ := r
  cases payload with
  | result value =>
      have result : value.sorted = value := Json.sorted_of_ordered _ reply
      rw [drafted ("result", value) (by simp)]
      simp [Draft.finish, asReply, result, Except.map, Except.toOption]
  | error e =>
      have error := asError_errorJson (e := e) (by simpa [isStored] using reply)
      rw [drafted ("error", errorJson e) (by simp)]
      simp [Draft.finish, asReply, error, Except.map, Except.toOption]

end Response
end BuildPeer
