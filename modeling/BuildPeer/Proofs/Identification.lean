import BuildPeer.Frame
import BuildPeer.Proofs.Envelope
import BuildPeer.Proofs.Exchanges
import BuildPeer.Proofs.Json.Alike
import BuildPeer.Proofs.Json.Number

/-!
What a reply shows of the id of its request. The id is kept as the value it was read as and written
again from that value, so an integer literal comes back as it was if it is a word. Beyond words it
comes back as the floating-point number it was read as, and two requests get replies with the same id
if theirs were read as the same number.
-/

namespace BuildPeer

open Json (nestingLimit)
open Json.Reader

namespace Envelope

/-- The slot of the id, with the text from the id on in place of its value; other slots as they are. -/
def locating (slot : Slot) : Slot :=
  if slot.name = "id" then
    { slot with
      value := fun text => (slot.value text).map fun (_, rest) =>
        (.string (String.ofList (skipSpace text)), rest) }
  else slot

/-- The body of a message from its id on, spaces in front of that left out. -/
def fromId? (body : List Char) : Option (List Char) :=
  match whole (record nestingLimit "RawEnvelope" (slots.map locating)) body with
  | .ok [_, some (.string text), _, _] => some text.toList
  | _ => none

def Located (name : String) (v w : Json) : Prop :=
  if name = "id" then
    ∃ text rest, shape (nestingLimit - 1) .any text = .ok (v, rest) ∧
      w = .string (String.ofList (skipSpace text))
  else v = w

theorem slots_beside : List.Forall₂ (Slot.Beside Located) slots (slots.map locating) := by
  rw [List.forall₂_map_right_iff, List.forall₂_same]
  intro slot member
  by_cases isId : slot.name = "id"
  · have any : slot.value = shape (nestingLimit - 1) .any := by
      rw [slots_eq] at member
      simp only [List.mem_cons, List.not_mem_nil, or_false] at member
      rcases member with rfl | rfl | rfl | rfl
      · exact absurd isId (by decide)
      · rfl
      · exact absurd isId (by decide)
      · exact absurd isId (by decide)
    rw [locating, if_pos isId, any]
    refine ⟨rfl, rfl, fun text => ?_⟩
    rw [any]
    dsimp only
    cases read : shape (nestingLimit - 1) .any text with
    | error fault => exact .error fault
    | ok pair =>
        refine .ok ?_ pair.2
        rw [Located, if_pos isId]
        exact ⟨text, pair.2, read, rfl⟩
  · rw [locating, if_neg isId]
    refine ⟨rfl, rfl, fun text => ?_⟩
    have same : Located slot.name = Eq := by
      funext v w
      rw [Located, if_neg isId]
    rw [same]
    exact .refl _

theorem id_ofSlots {version id method params : Option Json} {v : Json}
    (asks : ((ofSlots [version, id, method, params]).getD (.notification "" none)).id? = some v) :
    id = some v := by
  unfold ofSlots at asks
  split at asks
  · rename_i filled
    cases filled
    cases id with
    | none => cases asks
    | some w => exact asks
  · cases asks

/-- The id of a request is the value that is read where the body is located. -/
theorem fromId?_of_decode {body : List Char} {message : Envelope} {id : Json}
    (accepted : decode body = .ok message) (asks : message.id? = some id) :
    ∃ before rest, fromId? body = some (skipSpace before) ∧
      shape (nestingLimit - 1) .any before = .ok (id, rest) := by
  unfold decode at accepted
  cases read : whole (record nestingLimit "RawEnvelope" slots) body with
  | error refusal =>
      rw [read] at accepted
      cases accepted
  | ok values =>
      obtain ⟨located, again, abreast⟩ := Alike.whole (alike_record slots_beside _ _ body) read
      rw [read] at accepted
      -- The values are those of the four fields, and the second is that of the id.
      rw [slots_eq] at abreast
      rcases abreast with _ | ⟨-, _ | ⟨atId, _ | ⟨-, _ | ⟨-, _ | _⟩⟩⟩⟩
      cases accepted
      obtain rfl := id_ofSlots asks
      cases atId with
      | some both =>
          rw [Located, if_pos rfl] at both
          obtain ⟨before, rest, stands, rfl⟩ := both
          refine ⟨before, rest, ?_, stands⟩
          rw [fromId?, again]
          exact congrArg some String.toList_ofList

theorem id_of_literal {body behind : List Char} {n : ℤ} {message : Envelope} {id : Json}
    (accepted : decode body = .ok message) (asks : message.id? = some id)
    (here : fromId? body = some (integerChars n ++ behind)) (ends : Ends behind) :
    ∃ x, ofInteger? n = some x ∧ id = .number x := by
  obtain ⟨before, rest, located, read⟩ := fromId?_of_decode accepted asks
  have stands : skipSpace before = integerChars n ++ behind :=
    Option.some.inj (located.symm.trans here)
  have literal := value_literal (nestingLimit - 1) (n := n) ends
  rw [← stands, value_skipSpace] at literal
  rw [shape] at read
  dsimp only at read
  cases given : value (nestingLimit - 1) before with
  | error fault =>
      rw [given] at read
      cases read
  | ok pair =>
      rw [given] at literal read
      obtain ⟨x, found, same⟩ := Option.map_eq_some_iff.mp literal.symm
      refine ⟨x, found, ?_⟩
      cases same
      cases read
      rfl

end Envelope

namespace Response

def front : List Char :=
  "\x7b\"jsonrpc\":\"2.0\",\"id\":".toList

theorem object_front (id : Json) (last : String × Json) :
    (Json.object [("jsonrpc", .string "2.0"), ("id", id), last]).chars =
      front ++ id.chars ++ ',' :: Json.memberChars true [last] := by
  have version : Json.stringChars "jsonrpc" ++ ':' :: (Json.string "2.0").chars ++
      ',' :: Json.stringChars "id" = "\"jsonrpc\":\"2.0\",\"id\"".toList := rfl
  have opens : front = '{' :: "\"jsonrpc\":\"2.0\",\"id\"".toList ++ [':'] := rfl
  rw [opens, ← version]
  simp [Json.chars, Json.memberChars]

theorem chars_front {response : Response} (version : response.version = "2.0") :
    ∃ payload, response.toJson.chars = front ++ response.id.chars ++ ',' :: payload := by
  rw [toJson, version]
  exact ⟨_, object_front _ _⟩

end Response

/-- A body that has an integer literal as its id, is accepted, and draws a reply. -/
structure Answered (body : List Char) (n : ℤ) (response : Response) : Prop where
  literal : ∃ behind, Ends behind ∧ Envelope.fromId? body = some (integerChars n ++ behind)
  replied : ∃ message identity lifecycle after, Envelope.decode body = .ok message ∧
    dispatch identity lifecycle message = (.reply response, after)

theorem Answered.id {body : List Char} {n : ℤ} {response : Response}
    (answered : Answered body n response) :
    ∃ x, ofInteger? n = some x ∧ response.id = .number x := by
  obtain ⟨behind, ends, here⟩ := answered.literal
  obtain ⟨message, identity, lifecycle, after, accepted, replied⟩ := answered.replied
  exact Envelope.id_of_literal accepted (dispatch_reply replied).1 here ends

theorem Answered.front {body : List Char} {n : ℤ} {response : Response}
    (answered : Answered body n response) :
    ∃ payload, Frame.encode response =
      Frame.wrap (Text.Utf8.encode (Response.front ++ response.id.chars ++ ',' :: payload)) := by
  obtain ⟨message, identity, lifecycle, after, -, replied⟩ := answered.replied
  obtain ⟨payload, written⟩ := Response.chars_front (dispatch_reply replied).2
  exact ⟨payload, by rw [Frame.encode, written]⟩

theorem Answered.unknown {body behind : List Char} {n : ℤ} {id : Json} {method : String}
    (params : Option Json) (ends : Ends behind)
    (here : Envelope.fromId? body = some (integerChars n ++ behind))
    (accepted : (Envelope.decode body).toOption = some (.request id method params))
    (unknown : Route.find? method = none) : Answered body n (.unhandledMethod id method) := by
  refine ⟨⟨behind, ends, here⟩, _, {}, .start false, .start false, eq_ok_of_toOption accepted, ?_⟩
  have judged : judge (.start false) method = .unknown := by rw [judge, unknown]
  simp [dispatch, Envelope.method, judged, Outcome.toRequest, Envelope.id?]

theorem ends_beforeMethod : Ends ",\"method\":\"x\"\x7d".toList :=
  ends_cons (by decide) _

/-- The number after the greatest word is read and answered as a floating-point number. -/
theorem answered_beyond_words :
    Answered (Response.front ++ "18446744073709551616".toList ++ ",\"method\":\"x\"\x7d".toList)
      (2 ^ 64) (.unhandledMethod (.number (.real ⟨false, 2 ^ 52, 12⟩)) "x") :=
  .unknown none ends_beforeMethod (by decide +kernel) (by decide +kernel) rfl

/-- What the ids of two replies to different integer literals say. Each stands in front of the payload.
That of a word is the literal itself, so it differs from that of any other literal. Beyond words the
two are the same exactly if both literals are read as one floating-point number. -/
theorem replies_tell_ids_apart {m n : ℤ} (different : m ≠ n) {body other : List Char}
    {response reply : Response} (first : Answered body m response) (second : Answered other n reply) :
    (∃ payload more,
      Frame.encode response =
        Frame.wrap (Text.Utf8.encode (Response.front ++ response.id.chars ++ ',' :: payload)) ∧
      Frame.encode reply =
        Frame.wrap (Text.Utf8.encode (Response.front ++ reply.id.chars ++ ',' :: more))) ∧
    (-2 ^ 63 ≤ m ∧ m < 2 ^ 64 → response.id.chars = integerChars m) ∧
    (-2 ^ 63 ≤ m ∧ m < 2 ^ 64 ∨ -2 ^ 63 ≤ n ∧ n < 2 ^ 64 → response.id.chars ≠ reply.id.chars) ∧
    (response.id.chars = reply.id.chars ↔ ∃ x : Binary64,
      Json.parse (integerChars m) = .ok (.number (.real x)) ∧
        Json.parse (integerChars n) = .ok (.number (.real x))) := by
  obtain ⟨a, readFirst, isFirst⟩ := first.id
  obtain ⟨b, readSecond, isSecond⟩ := second.id
  obtain ⟨payload, written⟩ := first.front
  obtain ⟨more, otherWritten⟩ := second.front
  have same : response.id.chars = reply.id.chars ↔ ∃ x : Binary64, a = .real x ∧ b = .real x := by
    rw [isFirst, isSecond, Json.chars, Json.chars]
    exact sameText_iff different readFirst readSecond
  refine ⟨⟨payload, more, written, otherWritten⟩, ?_, ?_, ?_⟩
  · intro word
    rw [ofInteger?_word word] at readFirst
    cases readFirst
    rw [isFirst, Json.chars, Number.chars]
  · rintro (word | word) confused
    · obtain ⟨x, rfl, -⟩ := same.mp confused
      rw [ofInteger?_word word] at readFirst
      cases readFirst
    · obtain ⟨x, -, rfl⟩ := same.mp confused
      rw [ofInteger?_word word] at readSecond
      cases readSecond
  · rw [same, parse_literal readFirst, parse_literal readSecond]
    simp

/-- The greatest word and the number after it. -/
theorem replies_tell_ids_apart_at_the_limit :
    let body (id : List Char) := Response.front ++ id ++ ",\"method\":\"x\"\x7d".toList
    ∃ response reply, (2 ^ 64 - 1 : ℤ) ≠ 2 ^ 64 ∧
      Answered (body "18446744073709551615".toList) (2 ^ 64 - 1) response ∧
      Answered (body "18446744073709551616".toList) (2 ^ 64) reply ∧
      response.id.chars ≠ reply.id.chars := by
  intro body
  have word : Answered (body "18446744073709551615".toList) (2 ^ 64 - 1)
      (.unhandledMethod (.number (.integer (2 ^ 64 - 1))) "x") :=
    .unknown none ends_beforeMethod (by decide +kernel) (by decide +kernel) rfl
  have apart := replies_tell_ids_apart (by decide) word answered_beyond_words
  exact ⟨_, _, by decide, word, answered_beyond_words, apart.2.2.1 (.inl (by decide))⟩

/-- The first two numbers beyond words come back as one. -/
theorem replies_confuse_ids :
    let body (id : List Char) := Response.front ++ id ++ ",\"method\":\"x\"\x7d".toList
    ∃ response reply, Answered (body "18446744073709551616".toList) (2 ^ 64) response ∧
      Answered (body "18446744073709551617".toList) (2 ^ 64 + 1) reply ∧
      response.id.chars = reply.id.chars := by
  intro body
  have second : Answered (body "18446744073709551617".toList) (2 ^ 64 + 1)
      (.unhandledMethod (.number (.real ⟨false, 2 ^ 52, 12⟩)) "x") :=
    .unknown none ends_beforeMethod (by decide +kernel) (by decide +kernel) rfl
  exact ⟨_, _, answered_beyond_words, second, rfl⟩

end BuildPeer
