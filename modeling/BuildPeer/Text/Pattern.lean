import BuildPeer.Text.Alphanumeric
import BuildPeer.Text.Numeral

/-!
Whether a text is a search pattern: characters, escapes, classes in brackets, groups, alternatives
and repetitions. A pattern knows no character tables. So letters in either case, and digits, blanks
and words with the edges of words, can be asked for only where the pattern is about bytes, which
the flag `u` turns off and on; a part about bytes must not match half a character.

A braced repetition is never read: the texts that are patterns here hold no closing brace.
-/

namespace BuildPeer.Text.Pattern

structure Mode where
  ignoresCase : Bool := false
  /-- Whether the pattern is about bytes, not characters. -/
  bytes : Bool := false
  deriving DecidableEq, Repr

-- Escapes.

inductive Atom where
  | character (value : Char)
  | byte (value : Char)
  | kind (negated : Bool)
  | edge
  | wordEdge
  deriving DecidableEq, Repr

def isSyntax (c : Char) : Bool :=
  "\\.+*?()|[]\x7b\x7d^$#&-~".toList.contains c

/-- What a backslash takes the meaning from: characters of the syntax and all other ASCII
characters but letters, digits and angle brackets. -/
def isEscapable (c : Char) : Bool :=
  isSyntax c || (c.toNat < 0x80 && !c.isAlphanum && c != '<' && c != '>')

def coded (digits : Nat) (text : List Char) : Option (Char × List Char) :=
  if text.length < digits then none
  else
    ((text.take digits).mapM hexValue?).bind fun values =>
      let n := valueOf 16 values
      if n.isValidChar then some (.ofNat n, text.drop digits) else none

/-- An escape after its backslash. Properties of characters are not known. -/
def escape : List Char → Option (Atom × List Char)
  | [] => none
  | 'x' :: rest => (coded 2 rest).map fun (c, rest) => (.byte c, rest)
  | 'u' :: rest => (coded 4 rest).map fun (c, rest) => (.character c, rest)
  | 'U' :: rest => (coded 8 rest).map fun (c, rest) => (.character c, rest)
  | c :: rest =>
      if c = 'd' ∨ c = 's' ∨ c = 'w' then some (.kind false, rest)
      else if c = 'D' ∨ c = 'S' ∨ c = 'W' then some (.kind true, rest)
      else if c = 'a' ∨ c = 'f' ∨ c = 't' ∨ c = 'n' ∨ c = 'r' ∨ c = 'v' then
        some (.character c, rest)
      else if c = 'A' ∨ c = 'z' then some (.edge, rest)
      else if c = 'b' ∨ c = 'B' ∨ c = '<' ∨ c = '>' then some (.wordEdge, rest)
      else if isEscapable c then some (.character c, rest)
      else none

def Mode.allows (mode : Mode) : Atom → Bool
  | .character _ => mode.bytes || !mode.ignoresCase
  | .byte c => if mode.bytes then c.toNat < 0x80 else !mode.ignoresCase
  | .kind negated => mode.bytes && !negated
  | .edge => true
  | .wordEdge => mode.bytes

-- Classes.

def Atom.character? : Atom → Option Char
  | .character c => some c
  | .byte c => some c
  | _ => none

def Mode.allowsMember (mode : Mode) : Atom → Bool
  | .character c => !mode.bytes || c.toNat < 0x80
  | .byte c => !mode.bytes || c.toNat < 0x80
  | .kind negated => mode.bytes && !negated
  | _ => false

def classAtom : List Char → Option (Atom × List Char)
  | '\\' :: rest => escape rest
  | c :: rest => some (.character c, rest)
  | [] => none

/-- A member of a class: one atom, or a range. A dash in front of the closing bracket or of another
dash makes no range. -/
def classMember (mode : Mode) (text : List Char) : Option (List Char) :=
  (classAtom text).bind fun (first, rest) =>
    let alone := if mode.allowsMember first then some rest else none
    match rest with
    | '-' :: ']' :: _ => alone
    | '-' :: '-' :: _ => alone
    | '-' :: rest =>
        (classAtom rest).bind fun (last, rest) =>
          match first.character?, last.character? with
          | some a, some b =>
              if a.toNat ≤ b.toNat && mode.allowsMember first && mode.allowsMember last then
                some rest
              else none
          | _, _ => none
    | _ => alone

def classNames : List String :=
  ["alnum", "alpha", "ascii", "blank", "cntrl", "digit", "graph", "lower", "print", "punct",
    "space", "upper", "word", "xdigit"]

/-- A named class after its opening bracket: whether it is negated, and what follows. -/
def namedClass (text : List Char) : Option (Bool × List Char) :=
  match text with
  | ':' :: rest =>
      let (negated, rest) :=
        match rest with
        | '^' :: rest => (true, rest)
        | rest => (false, rest)
      let name := String.ofList (rest.takeWhile (· ≠ ':'))
      match rest.dropWhile (· ≠ ':') with
      | ':' :: ']' :: rest => if classNames.contains name then some (negated, rest) else none
      | _ => none
  | _ => none

/-- The start of a class after its bracket: a negation, then dashes, or else a closing bracket that
is a member. -/
def classStart (mode : Mode) (text : List Char) : Option (List Char) :=
  let (negated, text) :=
    match text with
    | '^' :: rest => (true, rest)
    | text => (false, text)
  if mode.bytes && negated then none
  else
    match text with
    | '-' :: rest => some (rest.dropWhile (· = '-'))
    | ']' :: rest => some rest
    | text => some text

/-- The members of a class and of the classes inside it, `depth` of which are open, up to the
closing bracket. -/
def classMembers (mode : Mode) (depth : Nat) : Nat → List Char → Option (List Char)
  | 0, _ => none
  | rounds + 1, text =>
      match text with
      | [] => none
      | '[' :: rest =>
          match namedClass rest with
          | some (negated, rest) =>
              if mode.bytes && negated then none else classMembers mode depth rounds rest
          | none => (classStart mode rest).bind (classMembers mode (depth + 1) rounds)
      | ']' :: rest => if depth = 0 then some rest else classMembers mode (depth - 1) rounds rest
      | '&' :: '&' :: rest => classMembers mode depth rounds rest
      | '-' :: '-' :: rest => classMembers mode depth rounds rest
      | '~' :: '~' :: rest => classMembers mode depth rounds rest
      | text => (classMember mode text).bind (classMembers mode depth rounds)

def bracketed (mode : Mode) (text : List Char) : Option (List Char) :=
  if mode.ignoresCase && !mode.bytes then none
  else (classStart mode text).bind fun rest => classMembers mode 0 rest.length rest

-- Groups.

/-- Flags up to the colon or the closing parenthesis, each at most once and one dash at most, not
the last; everything after the dash is turned off. -/
def flags (seen : List Char) (mode : Mode) : List Char → Option (Mode × Char × List Char)
  | [] => none
  | c :: rest =>
      if c = ':' ∨ c = ')' then
        if seen.head? = some '-' then none else some (mode, c, rest)
      else if seen.contains c then none
      else if c = '-' then flags ('-' :: seen) mode rest
      else
        let on := !seen.contains '-'
        if c = 'i' then flags (c :: seen) { mode with ignoresCase := on } rest
        else if c = 'u' then flags (c :: seen) { mode with bytes := !on } rest
        else if c = 'm' ∨ c = 's' ∨ c = 'U' ∨ c = 'R' ∨ c = 'x' then flags (c :: seen) mode rest
        else none

def groupName (text : List Char) : Option (List Char × List Char) :=
  match text.takeWhile (· ≠ '>'), text.dropWhile (· ≠ '>') with
  | c :: name, _ :: rest =>
      let starts := c == '_' || isLetter c
      let goesOn := name.all fun c =>
        c == '_' || c == '.' || c == '[' || c == ']' || isAlphanumeric c
      if starts && goesOn then some (c :: name, rest) else none
  | _, _ => none

structure State where
  mode : Mode := {}
  /-- The modes to go back to when the open groups close. -/
  outer : List Mode := []
  repeatable : Bool := false
  names : List (List Char) := []
  deriving DecidableEq, Repr

def State.enter (s : State) (mode : Mode) : State :=
  { s with mode, outer := s.mode :: s.outer, repeatable := false }

/-- A name of a group, each of which is given once. -/
def named (s : State) (text : List Char) : Option (State × List Char) :=
  (groupName text).bind fun (name, rest) =>
    if s.names.contains name then none
    else some ({ s.enter s.mode with names := name :: s.names }, rest)

/-- What follows an opening parenthesis: nothing about the group, its name, flags for it, or flags
for what comes after. Looking ahead or behind is not known. -/
def opening (s : State) (text : List Char) : Option (State × List Char) :=
  match text with
  | '?' :: 'P' :: '<' :: rest => named s rest
  | '?' :: '<' :: '!' :: _ => none
  | '?' :: '<' :: rest => named s rest
  | '?' :: rest =>
      (flags [] s.mode rest).bind fun (mode, last, after) =>
        if last = ':' then some (s.enter mode, after)
        else if rest.head? = some ')' then none
        else some ({ s with mode, repeatable := false }, after)
  | text => some (s.enter s.mode, text)

def part (s : State) : List Char → Option (State × List Char)
  | [] => none
  | '(' :: rest => opening s rest
  | ')' :: rest =>
      match s.outer with
      | [] => none
      | mode :: outer => some ({ s with mode, outer, repeatable := true }, rest)
  | '|' :: rest => some ({ s with repeatable := false }, rest)
  | '[' :: rest => (bracketed s.mode rest).map fun rest => ({ s with repeatable := true }, rest)
  | '\\' :: rest =>
      (escape rest).bind fun (atom, rest) =>
        if s.mode.allows atom then some ({ s with repeatable := true }, rest) else none
  | c :: rest =>
      if c = '*' ∨ c = '+' ∨ c = '?' then
        if s.repeatable then some (s, if rest.head? = some '?' then rest.drop 1 else rest)
        else none
      else if c = '\x7b' then none
      else if c = '.' then
        if s.mode.bytes then none else some ({ s with repeatable := true }, rest)
      else if c = '^' ∨ c = '$' then some ({ s with repeatable := true }, rest)
      else if s.mode.allows (.character c) then some ({ s with repeatable := true }, rest)
      else none

def parts (s : State) : Nat → List Char → Bool
  | _, [] => s.outer.isEmpty
  | 0, _ => false
  | rounds + 1, text =>
      match part s text with
      | none => false
      | some (s, rest) => parts s rounds rest

end Pattern

def isPattern (text : List Char) : Bool :=
  Pattern.parts {} text.length text

end BuildPeer.Text
