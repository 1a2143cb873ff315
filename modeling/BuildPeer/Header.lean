import BuildPeer.Failure
import BuildPeer.Text.Blank

/-!
The header line of a frame: the tag `Content-Length:` and the number of bytes in the body, with
blanks around the number. The number may have a plus sign and leading zeros and is below 2^64.
-/

namespace BuildPeer.Header

def tag : List Char :=
  "Content-Length:".toList

/-- The number of bytes that a header line declares. The line may still have its line break. -/
def parse (line : List Char) : Except Violation Nat :=
  match tag.isPrefixOf? line with
  | none => .error (.missingContentLength (String.ofList (Text.trimEnd line)))
  | some rest =>
      let value := Text.trim rest
      match Text.word? value with
      | some n => .ok n
      | none => .error (.invalidContentLength (String.ofList value))

def render (length : Nat) : List Char :=
  tag ++ ' ' :: Nat.toDigits 10 length ++ ['\r', '\n', '\r', '\n']

end BuildPeer.Header
