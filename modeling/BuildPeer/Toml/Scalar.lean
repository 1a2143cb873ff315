import BuildPeer.Binary64.Text
import BuildPeer.Text.Numeral

/-!
The values of a TOML text that hold no others: strings in their four forms, integers in four bases,
floating-point numbers and dates. A reader gives none when the text is not TOML; what is wrong with
it is not told apart. Of a date only that it is one is kept.
-/

namespace BuildPeer.Toml

abbrev Reader (α : Type) := List Char → Option (α × List Char)

inductive Real where
  | finite (value : Binary64)
  | infinite (negative : Bool)
  | nan
  deriving DecidableEq, Repr

inductive Scalar where
  | string (value : String)
  | integer (value : Int)
  | real (value : Real)
  | bool (value : Bool)
  | date
  deriving DecidableEq, Repr

-- Characters.

def isSpace (c : Char) : Bool :=
  c == ' ' || c == '\t'

def skipSpace (text : List Char) : List Char :=
  text.dropWhile isSpace

/-- What may stand in a line: no control character but the tab. -/
def isInLine (c : Char) : Bool :=
  c == '\t' || (0x20 ≤ c.toNat && c.toNat ≤ 0x7E) || 0x80 ≤ c.toNat

def lineBreak? : List Char → Option (List Char)
  | '\n' :: rest => some rest
  | '\r' :: '\n' :: rest => some rest
  | _ => none

/-- The rest of a line: spaces and perhaps a comment up to a line break or the end. -/
def lineEnd? (text : List Char) : Option (List Char) :=
  let rest :=
    match skipSpace text with
    | '#' :: comment => comment.dropWhile isInLine
    | rest => rest
  if rest.isEmpty then some [] else lineBreak? rest

-- Strings.

def plainEscape? : Char → Option Char
  | 'b' => some '\x08'
  | 't' => some '\t'
  | 'n' => some '\n'
  | 'f' => some '\x0c'
  | 'r' => some '\r'
  | '"' => some '"'
  | '\\' => some '\\'
  | _ => none

def namedChar? (digits : List Char) : Option Char :=
  (digits.mapM Text.hexValue?).bind fun digits =>
    let n := Text.valueOf 16 digits
    if n.isValidChar then some (.ofNat n) else none

/-- A string over several lines ends at three quotes; one or two more in front of them belong to
it. Gives the number of those and what is left. -/
def closing? (quote : Char) (text : List Char) : Option (Nat × List Char) :=
  let count := (text.takeWhile (· = quote)).length
  if 3 ≤ count ∧ count ≤ 5 then some (count - 3, text.drop count) else none

/-- How a string with escapes goes on: within one line, over several, or over several while the
blanks after a backslash at the end of a line are left out. -/
inductive Extent where
  | line
  | lines
  | indent
  deriving DecidableEq, Repr

def Extent.resumed : Extent → Extent
  | .line => .line
  | _ => .lines

/-- A string with escapes after its opening quotes; `done` holds what was read, last first. -/
def basicFrom (extent : Extent) (done : List Char) : List Char → Option (String × List Char)
  | [] => none
  | '\r' :: '\n' :: rest =>
      match extent with
      | .line => none
      | .lines => basicFrom .lines ('\n' :: done) rest
      | .indent => basicFrom .indent done rest
  | '\\' :: 'u' :: a :: b :: c :: d :: rest =>
      (namedChar? [a, b, c, d]).bind fun named => basicFrom extent.resumed (named :: done) rest
  | '\\' :: 'U' :: a :: b :: c :: d :: e :: f :: g :: h :: rest =>
      (namedChar? [a, b, c, d, e, f, g, h]).bind fun named =>
        basicFrom extent.resumed (named :: done) rest
  | '\\' :: c :: rest =>
      match plainEscape? c with
      | some e => basicFrom extent.resumed (e :: done) rest
      | none =>
          if extent ≠ .line ∧ (lineBreak? (skipSpace (c :: rest))).isSome then
            basicFrom .indent done (c :: rest)
          else none
  | c :: rest =>
      if extent = .indent ∧ (isSpace c ∨ c = '\n') then basicFrom .indent done rest
      else if c = '"' then
        if extent = .line then some (String.ofList done.reverse, rest)
        else if (rest.takeWhile (· = '"')).length < 2 then basicFrom .lines ('"' :: done) rest
        else
          (closing? '"' (c :: rest)).map fun (more, rest) =>
            (String.ofList (done.reverse ++ List.replicate more '"'), rest)
      else if isInLine c ∧ c ≠ '\\' then basicFrom extent.resumed (c :: done) rest
      else if c = '\n' ∧ extent ≠ .line then basicFrom .lines ('\n' :: done) rest
      else none

def literalFrom (lines : Bool) (done : List Char) : List Char → Option (String × List Char)
  | [] => none
  | '\r' :: '\n' :: rest => if lines then literalFrom lines ('\n' :: done) rest else none
  | c :: rest =>
      if c = '\'' then
        if !lines then some (String.ofList done.reverse, rest)
        else if (rest.takeWhile (· = '\'')).length < 2 then literalFrom lines ('\'' :: done) rest
        else
          (closing? '\'' (c :: rest)).map fun (more, rest) =>
            (String.ofList (done.reverse ++ List.replicate more '\''), rest)
      else if isInLine c then literalFrom lines (c :: done) rest
      else if c = '\n' ∧ lines then literalFrom lines ('\n' :: done) rest
      else none

/-- A line break right after the opening quotes is not part of the string. -/
def skipFirstBreak (text : List Char) : List Char :=
  (lineBreak? text).getD text

def string : Reader String := fun text =>
  match text with
  | '"' :: '"' :: '"' :: rest => basicFrom .lines [] (skipFirstBreak rest)
  | '"' :: rest => basicFrom .line [] rest
  | '\'' :: '\'' :: '\'' :: rest => literalFrom true [] (skipFirstBreak rest)
  | '\'' :: rest => literalFrom false [] rest
  | _ => none

-- Numbers.

/-- Digits after the first, which may have single underscores between them. -/
def moreDigits (isDigit : Char → Bool) : List Char → Option (List Char × List Char)
  | '_' :: c :: rest =>
      if isDigit c then (moreDigits isDigit rest).map fun (ds, rest) => (c :: ds, rest) else none
  | '_' :: [] => none
  | c :: rest =>
      if isDigit c then (moreDigits isDigit rest).map fun (ds, rest) => (c :: ds, rest)
      else some ([], c :: rest)
  | [] => some ([], [])

def digitRun (isDigit : Char → Bool) : List Char → Option (List Char × List Char)
  | c :: rest =>
      if isDigit c then (moreDigits isDigit rest).map fun (ds, rest) => (c :: ds, rest) else none
  | [] => none

/-- Decimal digits without a leading zero, or a single zero. -/
def wholeDigits : List Char → Option (List Char × List Char)
  | '0' :: rest => some (['0'], rest)
  | text => digitRun Text.isDigit text

def sign : List Char → Bool × List Char
  | '+' :: rest => (false, rest)
  | '-' :: rest => (true, rest)
  | text => (false, text)

def fitsInteger (n : Int) : Bool :=
  -Nat.pow 2 63 ≤ n && n < Nat.pow 2 63

def ofDigits (base : Nat) (digits : List Char) : Nat :=
  Text.valueOf base (digits.filterMap Text.hexValue?)

def marked (base : Nat) (isDigit : Char → Bool) : Reader Scalar := fun text =>
  (digitRun isDigit text).bind fun (digits, rest) =>
    let n : Int := ofDigits base digits
    if fitsInteger n then some (.integer n, rest) else none

/-- The number nearest to `digits * 10 ^ exponent`; none when it is too great. -/
def nearest? (digits : List Char) (exponent : Int) : Option Binary64 :=
  let n := ofDigits 10 digits
  let leading : Int := (Nat.toDigits 10 n).length + exponent
  if n = 0 ∨ leading < -400 then some .zero
  else if 400 < leading then none
  else Binary64.ofQuotient? (n * Nat.pow 10 exponent.toNat) (Nat.pow 10 (-exponent).toNat)

/-- A number that is too great is infinite below zero and no number above it. -/
def real? (negative : Bool) (digits : List Char) (exponent : Int) : Option Real :=
  match nearest? digits exponent with
  | some x => some (.finite (if negative then x.neg else x))
  | none => if negative then some (.infinite true) else none

def exponentOf : Reader Int := fun text =>
  let (negative, text) := sign text
  (digitRun Text.isDigit text).map fun (digits, rest) =>
    (if negative then -(ofDigits 10 digits : Int) else ofDigits 10 digits, rest)

def realTail (negative : Bool) (digits : List Char) (exponent : Int) : Reader Scalar := fun text =>
  match text with
  | 'e' :: rest => withExponent rest
  | 'E' :: rest => withExponent rest
  | text => (real? negative digits exponent).map fun x => (.real x, text)
where
  withExponent (text : List Char) : Option (Scalar × List Char) :=
    (exponentOf text).bind fun (e, rest) =>
      (real? negative digits (exponent + e)).map fun x => (.real x, rest)

def decimal : Reader Scalar := fun text =>
  let (negative, unsigned) := sign text
  match unsigned with
  | 'i' :: 'n' :: 'f' :: rest => some (.real (.infinite negative), rest)
  | 'n' :: 'a' :: 'n' :: rest => some (.real .nan, rest)
  | unsigned =>
      (wholeDigits unsigned).bind fun (digits, rest) =>
        match rest with
        | '.' :: rest =>
            (digitRun Text.isDigit rest).bind fun (after, rest) =>
              realTail negative (digits ++ after) (-(after.length : Int)) rest
        | 'e' :: _ => realTail negative digits 0 rest
        | 'E' :: _ => realTail negative digits 0 rest
        | rest =>
            let n : Int := ofDigits 10 digits
            let n := if negative then -n else n
            if fitsInteger n then some (.integer n, rest) else none

def number : Reader Scalar := fun text =>
  match text with
  | '0' :: 'x' :: rest => marked 16 (fun c => (Text.hexValue? c).isSome) rest
  | '0' :: 'o' :: rest => marked 8 (fun c => '0' ≤ c && c ≤ '7') rest
  | '0' :: 'b' :: rest => marked 2 (fun c => c == '0' || c == '1') rest
  | text => decimal text

-- Dates and times.

def twoDigits (least greatest : Nat) : Reader Nat := fun text =>
  match text with
  | a :: b :: rest =>
      let n := Text.digitValue a * 10 + Text.digitValue b
      if Text.isDigit a && Text.isDigit b && least ≤ n && n ≤ greatest then some (n, rest)
      else none
  | _ => none

def mark (c : Char) (text : List Char) : Option (List Char) :=
  match text with
  | d :: rest => if d = c then some rest else none
  | [] => none

def isLeapYear (year : Nat) : Bool :=
  year % 4 == 0 && (year % 100 != 0 || year % 400 == 0)

def daysIn (year month : Nat) : Nat :=
  if month = 2 then if isLeapYear year then 29 else 28
  else if month = 4 ∨ month = 6 ∨ month = 9 ∨ month = 11 then 30
  else 31

def day (text : List Char) : Option (List Char) := do
  let (century, text) ← twoDigits 0 99 text
  let (year, text) ← twoDigits 0 99 text
  let text ← mark '-' text
  let (month, text) ← twoDigits 1 12 text
  let text ← mark '-' text
  let (_, text) ← twoDigits 1 (daysIn (century * 100 + year) month) text
  some text

def timeOfDay (text : List Char) : Option (List Char) := do
  let (_, text) ← twoDigits 0 23 text
  let text ← mark ':' text
  let (_, text) ← twoDigits 0 59 text
  let text ← mark ':' text
  let (_, text) ← twoDigits 0 60 text
  match text with
  | '.' :: c :: rest => if Text.isDigit c then some (rest.dropWhile Text.isDigit) else some text
  | text => some text

def offset (text : List Char) : Option (List Char) :=
  match text with
  | 'Z' :: rest => some rest
  | 'z' :: rest => some rest
  | c :: rest =>
      if c = '+' ∨ c = '-' then do
        let (_, text) ← twoDigits 0 23 rest
        let text ← mark ':' text
        let (_, text) ← twoDigits 0 59 text
        some text
      else none
  | [] => none

/-- A time after a day, with or without an offset. -/
def timeAfterDay (text : List Char) : Option (List Char) :=
  match text with
  | c :: rest =>
      if c = 'T' ∨ c = 't' ∨ c = ' ' then
        (timeOfDay rest).map fun rest => (offset rest).getD rest
      else none
  | [] => none

def date (text : List Char) : Option (List Char) :=
  match day text with
  | some rest => some ((timeAfterDay rest).getD rest)
  | none => timeOfDay text

def word (name : List Char) (value : Scalar) : Reader Scalar := fun text =>
  (name.isPrefixOf? text).map fun rest => (value, rest)

def scalar : Reader Scalar := fun text =>
  match text with
  | '"' :: _ => (string text).map fun (s, rest) => (.string s, rest)
  | '\'' :: _ => (string text).map fun (s, rest) => (.string s, rest)
  | 't' :: _ => word "true".toList (.bool true) text
  | 'f' :: _ => word "false".toList (.bool false) text
  | text =>
      match date text with
      | some rest => some (.date, rest)
      | none => number text

end BuildPeer.Toml
