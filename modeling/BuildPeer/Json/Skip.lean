import BuildPeer.Json.Sequence

/-!
Stepping over a value without reading it. The step checks grammar, escapes and control characters,
but neither surrogates nor the size of numbers, and follows any depth: the arrays and objects it is
in stand on a list. It never speaks of a trailing comma; after one it wants a value or a name.
-/

namespace BuildPeer.Json.Reader

inductive Open where
  | list
  | object
  deriving DecidableEq, Repr

def skipEscape : Reader Unit := fun text =>
  match text with
  | [] => .error (.here .endInString [])
  | 'u' :: rest => (hexDigits rest).map fun (_, rest) => ((), rest)
  | c :: rest =>
      match plainEscape? c with
      | some _ => .ok ((), rest)
      | none => .error (.upon .invalidEscape text)

theorem skipEscape_rest {text rest : List Char}
    (read : skipEscape text = .ok ((), rest)) : rest.length < text.length := by
  unfold skipEscape at read
  split at read
  · simp at read
  · rename_i digits
    cases found : hexDigits digits with
    | error fault => simp [found, Except.map] at read
    | ok pair =>
        obtain ⟨unit, left⟩ := pair
        simp only [found, Except.map, Except.ok.injEq, Prod.mk.injEq, true_and] at read
        have := hexDigits_rest found
        simp only [List.length_cons, ← read]
        omega
  · split at read
    · simp only [Except.ok.injEq, Prod.mk.injEq, true_and] at read
      simp [← read]
    · simp at read

def skipString (text : List Char) : Except Fault (Unit × List Char) :=
  match text with
  | [] => .error (.here .endInString [])
  | '"' :: rest => .ok ((), rest)
  | '\\' :: rest =>
      match _read : skipEscape rest with
      | .error fault => .error fault
      | .ok ((), rest') => skipString rest'
  | c :: rest =>
      if c.toNat < 0x20 then .error (.here .controlCharacter (c :: rest))
      else skipString rest
termination_by text.length
decreasing_by
  · have := skipEscape_rest _read
    simp only [List.length_cons]
    omega
  · simp

-- Numbers: at the end of the data, too, a missing digit makes the number invalid.

def skipExponent : Reader Unit := fun text =>
  let text :=
    match text with
    | '+' :: rest => rest
    | '-' :: rest => rest
    | text => text
  if startsWithDigit text then .ok ((), text.dropWhile Text.isDigit)
  else .error (.upon .invalidNumber text)

def skipRealTail : Reader Unit := fun text =>
  match text with
  | 'e' :: rest => skipExponent rest
  | 'E' :: rest => skipExponent rest
  | text => .ok ((), text)

def skipNumberTail : Reader Unit := fun text =>
  match text with
  | '.' :: rest =>
      if startsWithDigit rest then skipRealTail (rest.dropWhile Text.isDigit)
      else .error (.upon .invalidNumber rest)
  | text => skipRealTail text

def skipMagnitude : Reader Unit := fun text =>
  match text with
  | '0' :: rest =>
      if startsWithDigit rest then .error (.upon .invalidNumber rest) else skipNumberTail rest
  | text =>
      if startsWithDigit text then skipNumberTail (text.dropWhile Text.isDigit)
      else .error (.upon .invalidNumber text)

def skipScalar : Reader Unit := fun text =>
  match text with
  | [] => .error (.upon .endInValue [])
  | 'n' :: rest => literal "ull".toList rest
  | 't' :: rest => literal "rue".toList rest
  | 'f' :: rest => literal "alse".toList rest
  | '"' :: rest => skipString rest
  | '-' :: rest => skipMagnitude rest
  | c :: rest =>
      if Text.isDigit c then skipMagnitude (c :: rest)
      else .error (.upon .valueExpected (c :: rest))

def skipName : Reader Unit := fun text =>
  match skipSpace text with
  | '"' :: rest =>
      match skipString rest with
      | .error fault => .error fault
      | .ok ((), rest) => afterColon (fun text => .ok ((), text)) rest
  | [] => .error (.upon .endInObject [])
  | text => .error (.upon .nameExpected text)

inductive Wanted where
  | value
  | separator
  deriving DecidableEq, Repr

/-- One part of the text: an opening bracket with what must follow it, a scalar, a separator with a
name if one must follow, or a closing bracket. None when the outermost value is over. -/
def skipPart (wanted : Wanted) (opened : List Open) :
    Reader (Option (Wanted × List Open)) := fun text =>
  match wanted with
  | .value =>
      match skipSpace text with
      | '[' :: rest =>
          match skipSpace rest with
          | [] => .error (.upon .endInList [])
          | ']' :: rest => .ok (some (.separator, opened), rest)
          | rest => .ok (some (.value, .list :: opened), rest)
      | '{' :: rest =>
          match skipSpace rest with
          | '}' :: rest => .ok (some (.separator, opened), rest)
          | rest => (skipName rest).map fun ((), rest) => (some (.value, .object :: opened), rest)
      | text => (skipScalar text).map fun ((), rest) => (some (.separator, opened), rest)
  | .separator =>
      match opened with
      | [] => .ok (none, text)
      | .list :: outer =>
          match skipSpace text with
          | ',' :: rest => .ok (some (.value, opened), rest)
          | ']' :: rest => .ok (some (.separator, outer), rest)
          | [] => .error (.upon .endInList [])
          | text => .error (.upon .listSeparatorExpected text)
      | .object :: outer =>
          match skipSpace text with
          | ',' :: rest => (skipName rest).map fun ((), rest) => (some (.value, opened), rest)
          | '}' :: rest => .ok (some (.separator, outer), rest)
          | [] => .error (.upon .endInObject [])
          | text => .error (.upon .objectSeparatorExpected text)

def skipFrom (wanted : Wanted) (opened : List Open) : Nat → Reader Unit
  | 0, _ => .error (.upon .endInValue [])
  | parts + 1, text =>
      match skipPart wanted opened text with
      | .error fault => .error fault
      | .ok (none, rest) => .ok ((), rest)
      | .ok (some (wanted, opened), rest) => skipFrom wanted opened parts rest

/-- Every part but the last reads at least one character, so they are at most one more than the
characters. -/
def skip : Reader Unit := fun text =>
  skipFrom .value [] (text.length + 1) text

end BuildPeer.Json.Reader
