import BuildPeer.Json.Sequence

/-!
Reading any value into a tree. `room` is the number of arrays and objects that may still be opened
inside one another; a text may nest 127 of them.
-/

namespace BuildPeer.Json

namespace Reader

def member (value : Reader Json) (done : List (String × Json)) (name : String) :
    Reader (List (String × Json)) := fun text =>
  (afterColon value text).map fun (v, rest) => ((name, v) :: done, rest)

def scalar : Reader Json := fun text =>
  match text with
  | [] => .error (.upon .endInValue [])
  | 'n' :: rest => (literal "ull".toList rest).map fun ((), rest) => (.null, rest)
  | 't' :: rest => (literal "rue".toList rest).map fun ((), rest) => (.bool true, rest)
  | 'f' :: rest => (literal "alse".toList rest).map fun ((), rest) => (.bool false, rest)
  | '"' :: rest => (string rest).map fun (s, rest) => (.string s, rest)
  | c :: rest =>
      if c = '-' ∨ Text.isDigit c then
        (number (c :: rest)).map fun (n, rest) => (.number n, rest)
      else .error (.upon .valueExpected (c :: rest))

def value : Nat → Reader Json
  | 0, text =>
      match skipSpace text with
      | '[' :: rest => .error (.upon .tooDeep ('[' :: rest))
      | '{' :: rest => .error (.upon .tooDeep ('{' :: rest))
      | text => scalar text
  | room + 1, text =>
      match skipSpace text with
      | '[' :: rest =>
          (closeList (elements (value room)) rest).map fun (xs, rest) => (.array xs, rest)
      | '{' :: rest =>
          (closeObject (members (member (value room)) []) rest).map fun (ms, rest) =>
            (.object ms.reverse, rest)
      | text => scalar text

end Reader

def nestingLimit : Nat := 127

def parse (text : List Char) : Except Refusal Json :=
  Reader.whole (Reader.value nestingLimit) text

end BuildPeer.Json
