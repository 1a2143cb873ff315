import BuildPeer.Proofs.Framing
import BuildPeer.Proofs.Response

/-!
A stream of responses as its receiver takes it apart: up to the first two line breaks in a row, the
header before them, and as many bytes behind them as it declares. What a list of responses is
written as falls apart into their bodies, and each body says its response.
-/

namespace BuildPeer.Frame

/-- The bytes before the first two line breaks in a row, and those behind them. -/
def cutHeader : Bytes → Option (Bytes × Bytes)
  | 13 :: 10 :: 13 :: 10 :: rest => some ([], rest)
  | b :: rest => (cutHeader rest).map fun (head, rest) => (b :: head, rest)
  | [] => none

def firstFrame? (stream : Bytes) : Option ((Nat × Bytes) × Bytes) :=
  match cutHeader stream with
  | none => none
  | some (head, rest) =>
      match Text.Utf8.decode head with
      | .error _ => none
      | .ok line =>
          match Header.parse line with
          | .error _ => none
          | .ok length =>
              if length ≤ rest.length then some ((length, rest.take length), rest.drop length)
              else none

theorem cutHeader_shorter {stream head rest : Bytes} (cut : cutHeader stream = some (head, rest)) :
    rest.length < stream.length := by
  induction stream using cutHeader.induct generalizing head with
  | case1 rest' =>
      cases cut
      simp only [List.length_cons]
      omega
  | case2 b more other ih =>
      rw [cutHeader] at cut
      · obtain ⟨⟨head', rest'⟩, inner, same⟩ := Option.map_eq_some_iff.mp cut
        cases same
        have shorter := ih inner
        rw [List.length_cons]
        omega
      · exact other
  | case3 => cases cut

theorem firstFrame?_shorter {stream rest : Bytes} {frame : Nat × Bytes}
    (first : firstFrame? stream = some (frame, rest)) : rest.length < stream.length := by
  unfold firstFrame? at first
  split at first
  · cases first
  · rename_i head behind cut
    have shorter := cutHeader_shorter cut
    split at first
    · cases first
    · split at first
      · cases first
      · split at first
        · cases first
          rw [List.length_drop]
          omega
        · cases first

def frames? (stream : Bytes) : Option (List (Nat × Bytes)) :=
  if stream = [] then some []
  else
    match _first : firstFrame? stream with
    | none => none
    | some (frame, rest) => (frames? rest).map (frame :: ·)
termination_by stream.length
decreasing_by exact firstFrame?_shorter _first

theorem cutHeader_line {line : Bytes} (plain : (13 : UInt8) ∉ line) (rest : Bytes) :
    cutHeader (line ++ 13 :: 10 :: 13 :: 10 :: rest) = some (line, rest) := by
  induction line with
  | nil => rfl
  | cons b line ih =>
      have other : b ≠ 13 := fun same => plain (same ▸ List.mem_cons_self)
      have more := ih fun member => plain (List.mem_cons_of_mem _ member)
      rw [List.cons_append, cutHeader, more]
      · rfl
      · exact fun _ same _ => other same

theorem firstFrame?_wrap {body : Bytes} (small : body.length < Text.wordLimit) (rest : Bytes) :
    firstFrame? (wrap body ++ rest) = some ((body.length, body), rest) := by
  have breaks : Text.Utf8.encode ['\r', '\n', '\r', '\n'] = [13, 10, 13, 10] := rfl
  have split : wrap body ++ rest =
      Text.Utf8.encode (Header.line body.length) ++ 13 :: 10 :: 13 :: 10 :: (body ++ rest) := by
    simp [wrap, Header.render_line, breaks]
  have plain : (13 : UInt8) ∉ Text.Utf8.encode (Header.line body.length) :=
    fun member => absurd (line_byte member) (by decide)
  have declared := Header.parse_line small [] (by simp)
  rw [List.append_nil] at declared
  have enough : body.length ≤ (body ++ rest).length := by
    rw [List.length_append]
    omega
  simp only [firstFrame?, split, cutHeader_line plain, Text.Utf8.decode_encode, declared,
    if_pos enough, List.take_left, List.drop_left]

theorem frames?_wraps {bodies : List Bytes} (small : ∀ body ∈ bodies, body.length < Text.wordLimit) :
    frames? (bodies.flatMap wrap) = some (bodies.map fun body => (body.length, body)) := by
  induction bodies with
  | nil =>
      rw [List.flatMap_nil, frames?]
      rfl
  | cons body bodies ih =>
      have first := firstFrame?_wrap (small body List.mem_cons_self) (bodies.flatMap wrap)
      have more := ih fun body member => small body (List.mem_cons_of_mem _ member)
      have some_ : wrap body ++ bodies.flatMap wrap ≠ [] := by
        intro none_
        rw [none_] at first
        cases first
      rw [List.flatMap_cons, frames?, if_neg some_]
      split
      · rename_i refused
        rw [first] at refused
        cases refused
      · rename_i frame rest again
        rw [first] at again
        cases again
        rw [more]
        rfl

def body (response : Response) : Bytes :=
  Text.Utf8.encode response.toJson.chars

/-- What a list of responses is written as falls apart into one frame for each of them, and
nothing else. A frame declares the length of its body, and its body is the text of an object that
has one payload and says the response. -/
theorem frames?_encode (responses : List Response)
    (stored : ∀ response ∈ responses, response.Stored)
    (small : ∀ response ∈ responses, (body response).length < Text.wordLimit) :
    frames? (responses.flatMap encode) =
        some (responses.map fun response => ((body response).length, body response)) ∧
      ∀ response ∈ responses, ∃ text members,
        Text.Utf8.decode (body response) = .ok text ∧
        Json.parse text = .ok (.object members) ∧
        (members.filter fun m => m.1 = "result" ∨ m.1 = "error").length = 1 ∧
        Response.decode text = .ok response := by
  constructor
  · have smallBodies : ∀ bytes ∈ responses.map body, bytes.length < Text.wordLimit := by
      intro bytes member
      obtain ⟨response, isResponse, rfl⟩ := List.mem_map.mp member
      exact small response isResponse
    have apart := frames?_wraps smallBodies
    rw [List.flatMap_map, List.map_map] at apart
    exact apart
  · intro response member
    have isStored := stored response member
    refine ⟨response.toJson.chars, _, Text.Utf8.decode_encode _,
      Json.parse_chars isStored.words isStored.nests, ?_, Response.decode_toJson isStored⟩
    cases response.reply <;> rfl

/-- A result with a nested object under an id with a quote in it, and an error that echoes a
method with a character of four bytes. -/
theorem frames?_encode_two :
    let responses : List Response :=
      [.result (.string "a\"\n") (.object [("k", .array [.integer (-5), .null]), ("l", .object [])]),
        .unhandledMethod (.integer 18446744073709551615) "😀"]
    frames? (responses.flatMap encode) =
        some (responses.map fun response => ((body response).length, body response)) ∧
      ∀ response ∈ responses, ∃ text, Text.Utf8.decode (body response) = .ok text ∧
        Response.decode text = .ok response := by
  intro responses
  have stored : ∀ response ∈ responses, response.Stored := by
    intro response member
    rcases List.mem_pair.mp member with rfl | rfl
    · exact ⟨by decide, by decide, by decide, by decide⟩
    · exact ⟨by decide, by decide, by decide, by decide⟩
  have small : ∀ response ∈ responses, (body response).length < Text.wordLimit := by
    intro response member
    rcases List.mem_pair.mp member with rfl | rfl
    · decide
    · decide
  obtain ⟨apart, readBack⟩ := frames?_encode responses stored small
  refine ⟨apart, fun response member => ?_⟩
  obtain ⟨text, members, decoded, -, -, read⟩ := readBack response member
  exact ⟨text, decoded, read⟩

end BuildPeer.Frame
