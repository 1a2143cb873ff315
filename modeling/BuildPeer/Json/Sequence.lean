import BuildPeer.Json.Scalar

/-!
The frame that arrays and objects share: `nextElement` and `nextName` step over separators,
`elements` and `members` repeat them, and `closeList` and `closeObject` look for the closing
bracket and give a pending fault its place.

A round of `elements` or `members` reads at least one character, so the number of characters left
at the start bounds the rounds.
-/

namespace BuildPeer.Json.Reader

/-- The next element, or none in front of the closing bracket. -/
def nextElement (first : Bool) (element : Reader α) : Reader (Option α) := fun text =>
  match skipSpace text with
  | [] => .error (.upon .endInList [])
  | ']' :: rest => .ok (none, ']' :: rest)
  | text =>
      if first then (element text).map fun (a, rest) => (some a, rest)
      else
        match text with
        | ',' :: rest =>
            match skipSpace rest with
            | [] => .error (.upon .endInValue [])
            | ']' :: rest => .error (.upon .trailingComma (']' :: rest))
            | text => (element text).map fun (a, rest) => (some a, rest)
        | text => .error (.upon .listSeparatorExpected text)

def nextName (first : Bool) : Reader (Option String) := fun text =>
  match skipSpace text with
  | [] => .error (.upon .endInObject [])
  | '}' :: rest => .ok (none, '}' :: rest)
  | text =>
      if first then
        match text with
        | '"' :: rest => (string rest).map fun (name, rest) => (some name, rest)
        | text => .error (.upon .nameExpected text)
      else
        match text with
        | ',' :: rest =>
            match skipSpace rest with
            | '"' :: rest => (string rest).map fun (name, rest) => (some name, rest)
            | [] => .error (.upon .endInValue [])
            | '}' :: rest => .error (.upon .trailingComma ('}' :: rest))
            | text => .error (.upon .nameExpected text)
        | text => .error (.upon .objectSeparatorExpected text)

def afterColon (value : Reader α) : Reader α := fun text =>
  match skipSpace text with
  | ':' :: rest => value rest
  | [] => .error (.upon .endInObject [])
  | text => .error (.upon .colonExpected text)

def elementsFrom (element : Reader α) (done : List α) (first : Bool) :
    Nat → Reader (List α)
  | 0, _ => .error (.upon .endInList [])
  | rounds + 1, text =>
      match nextElement first element text with
      | .error fault => .error fault
      | .ok (none, rest) => .ok (done.reverse, rest)
      | .ok (some a, rest) => elementsFrom element (a :: done) false rounds rest

def elements (element : Reader α) : Reader (List α) := fun text =>
  elementsFrom element [] true (text.length + 1) text

def membersFrom (step : σ → String → Reader σ) (state : σ) (first : Bool) : Nat → Reader σ
  | 0, _ => .error (.upon .endInObject [])
  | rounds + 1, text =>
      match nextName first text with
      | .error fault => .error fault
      | .ok (none, rest) => .ok (state, rest)
      | .ok (some name, rest) =>
          match step state name rest with
          | .error fault => .error fault
          | .ok (state, rest) => membersFrom step state false rounds rest

/-- Folds `step` over all members up to the closing bracket. `step` starts after the name. -/
def members (step : σ → String → Reader σ) (state : σ) : Reader σ := fun text =>
  membersFrom step state true (text.length + 1) text

-- Closing brackets.

def listEnd : Reader Unit := fun text =>
  match skipSpace text with
  | ']' :: rest => .ok ((), rest)
  | ',' :: rest =>
      match skipSpace rest with
      | ']' :: rest => .error (.upon .trailingComma (']' :: rest))
      | text => .error (.upon .trailingCharacters text)
  | [] => .error (.upon .endInList [])
  | text => .error (.upon .trailingCharacters text)

def objectEnd : Reader Unit := fun text =>
  match skipSpace text with
  | '}' :: rest => .ok ((), rest)
  | ',' :: rest => .error (.upon .trailingComma (',' :: rest))
  | [] => .error (.upon .endInObject [])
  | text => .error (.upon .trailingCharacters text)

/-- How far the search for the end of a list gets: over the bracket, or over a comma. -/
def listEndReached (text : List Char) : List Char :=
  match skipSpace text with
  | ']' :: rest => rest
  | ',' :: rest => skipSpace rest
  | text => text

def objectEndReached (text : List Char) : List Char :=
  match skipSpace text with
  | '}' :: rest => rest
  | text => text

def closeList (body : Reader α) : Reader α := fun text =>
  match body text with
  | .ok (a, rest) => (listEnd rest).map fun ((), rest) => (a, rest)
  | .error (.pending cause rest) => .error (.here cause (listEndReached rest))
  | .error fault => .error fault

def closeObject (body : Reader α) : Reader α := fun text =>
  match body text with
  | .ok (a, rest) => (objectEnd rest).map fun ((), rest) => (a, rest)
  | .error (.pending cause rest) => .error (.here cause (objectEndReached rest))
  | .error fault => .error fault

def whole (value : Reader α) (text : List Char) : Except Refusal α :=
  match value text with
  | .error fault => .error (fault.locate text)
  | .ok (a, rest) =>
      match skipSpace rest with
      | [] => .ok a
      | rest => .error ((Fault.upon .trailingCharacters rest).locate text)

end BuildPeer.Json.Reader
