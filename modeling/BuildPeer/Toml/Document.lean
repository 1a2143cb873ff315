import BuildPeer.Text.Utf8
import BuildPeer.Toml.Scalar

/-!
A TOML text as a tree of tables. Every value keeps the place it was written at, and every key too,
as the numbers of bytes left unread in front of it and behind it.

A table may be filled in one place only: under its header, by dotted keys in one table, or as an
inline table. A table that only the header of another one named may still get its own header, and
one that dotted keys made may get more dotted keys. The member order of a table is the order in
which its members were first filled; a header takes its table to the end.
-/

namespace BuildPeer.Toml

/-- A piece of the text, by the bytes left unread at its start and behind its end. -/
structure Span where
  start : Nat
  stop : Nat
  deriving DecidableEq, Repr

structure Key where
  name : String
  span : Span
  deriving DecidableEq, Repr

/-- How a table came about: by a header, by being named in the header of another table, by dotted
keys, as an inline table, or by dotted keys in an inline table. -/
inductive Form where
  | header
  | implied
  | dotted
  | inline
  | inlineDotted
  deriving DecidableEq, Repr

inductive Node where
  | scalar (span : Span) (value : Scalar)
  | list (span : Span) (elements : List Node)
  | table (span : Option Span) (form : Form) (members : List (Key × Node))
  | tables (elements : List Node)
  deriving Repr, Inhabited

abbrev Members := List (Key × Node)

/-- The place of a value; tables without a header of their own have none. -/
def Node.span? : Node → Option Span
  | .scalar span _ => some span
  | .list span _ => some span
  | .table span _ _ => span
  | .tables [] => none
  | .tables (first :: rest) =>
      match first, (first :: rest).getLast? with
      | .table (some a) _ _, some (.table (some b) _ _) => some ⟨a.start, b.stop⟩
      | _, _ => none

-- Filling tables.

def update (key : Key) (change : Option Node → Option Node) : Members → Option Members
  | [] => (change none).map fun node => [(key, node)]
  | (k, node) :: rest =>
      if k.name = key.name then (change (some node)).map fun node => (k, node) :: rest
      else (update key change rest).map fun rest => (k, node) :: rest

def updateLast (change : Node → Option Node) : List Node → Option (List Node)
  | [] => none
  | [node] => (change node).map fun node => [node]
  | node :: rest => (updateLast change rest).map fun rest => node :: rest

/-- Whether dotted keys or headers may go on inside a table of the given form; `made` is the form
of the tables they make on their way. -/
def mayEnter (made form : Form) : Bool :=
  match made, form with
  | .inlineDotted, .inlineDotted => true
  | .inlineDotted, _ => false
  | _, .inline => false
  | _, .inlineDotted => false
  | .dotted, .header => false
  | _, _ => true

/-- Changes the members of the table at the end of a path, making the tables on it that are not
there yet. The change is told the form of the table. -/
def within (made : Form) (change : Form → Members → Option Members) :
    List Key → Form → Members → Option Members
  | [], form, members => change form members
  | key :: path, _, members =>
      update key
        (fun node =>
          match node with
          | none => (within made change path made []).map fun inner => .table none made inner
          | some (.table span form inner) =>
              if mayEnter made form then
                (within made change path form inner).map fun inner => .table span form inner
              else none
          | some (.tables elements) =>
              (updateLast
                (fun last =>
                  match last with
                  | .table span form inner =>
                      (within made change path form inner).map fun inner =>
                        .table span form inner
                  | _ => none)
                elements).map .tables
          | some _ => none)
        members

/-- Adds a member that must be new. With dotted keys in front of it, the table must be one that
dotted keys made. -/
def insert (key : Key) (node : Node) (path : List Key) (form : Form) (members : Members) :
    Option Members :=
  let isDotted := form = .dotted ∨ form = .inlineDotted
  if decide isDotted = path.isEmpty then none
  else update key (fun old => if old.isSome then none else some node) members

-- Keys.

def left (text : List Char) : Nat :=
  Text.Utf8.length text

def isBare (c : Char) : Bool :=
  ('a' ≤ c && c ≤ 'z') || ('A' ≤ c && c ≤ 'Z') || Text.isDigit c || c == '-' || c == '_'

def simpleKey : Reader Key := fun text =>
  let named (name : String) (rest : List Char) : Key × List Char :=
    (⟨name, ⟨left text, left rest⟩⟩, rest)
  match text with
  | '"' :: rest => (basicFrom .line [] rest).map fun (name, rest) => named name rest
  | '\'' :: rest => (literalFrom false [] rest).map fun (name, rest) => named name rest
  | text =>
      let name := text.takeWhile isBare
      if name.isEmpty then none else some (named (String.ofList name) (text.dropWhile isBare))

def keysFrom (done : List Key) : Nat → Reader (List Key)
  | 0, _ => none
  | rounds + 1, text =>
      (simpleKey (skipSpace text)).bind fun (key, rest) =>
        match skipSpace rest with
        | '.' :: rest => keysFrom (key :: done) rounds rest
        | rest => some ((key :: done).reverse, rest)

/-- The number of parts a dotted key stays below, and of values open inside one another. -/
def nestingLimit : Nat := 80

def dottedKey : Reader (List Key × Key) := fun text =>
  (keysFrom [] text.length text).bind fun (keys, rest) =>
    if nestingLimit ≤ keys.length then none
    else keys.getLast?.map fun last => ((keys.dropLast, last), rest)

-- Values.

/-- Spaces, line breaks and comments between the elements of a list. -/
def skipTrivia (inComment : Bool) : List Char → Option (List Char)
  | [] => if inComment then none else some []
  | '\r' :: '\n' :: rest => skipTrivia false rest
  | c :: rest =>
      if c = '\n' then skipTrivia false rest
      else if inComment then if isInLine c then skipTrivia true rest else none
      else if isSpace c then skipTrivia false rest
      else if c = '#' then skipTrivia true rest
      else some (c :: rest)

def elementsFrom (value : Reader Node) (done : List Node) : Nat → Reader (List Node)
  | 0, _ => none
  | rounds + 1, text =>
      (skipTrivia false text).bind fun text =>
        match text with
        | ']' :: rest => some (done.reverse, rest)
        | text =>
            (value text).bind fun (node, rest) =>
              (skipTrivia false rest).bind fun rest =>
                match rest with
                | ',' :: rest => elementsFrom value (node :: done) rounds rest
                | ']' :: rest => some ((node :: done).reverse, rest)
                | _ => none

def pair (value : Reader Node) : Reader ((List Key × Key) × Node) := fun text =>
  (dottedKey text).bind fun (key, rest) =>
    match rest with
    | '=' :: rest => (value (skipSpace rest)).map fun (node, rest) => ((key, node), skipSpace rest)
    | _ => none

def pairsFrom (value : Reader Node) (members : Members) : Nat → Reader Members
  | 0, _ => none
  | rounds + 1, text =>
      (pair value text).bind fun (((path, key), node), rest) =>
        (within .inlineDotted (insert key node path) path .inline members).bind fun members =>
          match rest with
          | ',' :: rest => pairsFrom value members rounds rest
          | '}' :: rest => some (members, rest)
          | _ => none

/-- A value; `room` is the number of lists and inline tables that may still be opened inside one
another. -/
def value : Nat → Reader Node
  | 0, text =>
      match text with
      | '[' :: _ => none
      | '{' :: _ => none
      | text => (scalar text).map fun (s, rest) => (.scalar ⟨left text, left rest⟩ s, rest)
  | room + 1, text =>
      match text with
      | '[' :: rest =>
          (elementsFrom (value room) [] text.length rest).map fun (nodes, rest) =>
            (.list ⟨left text, left rest⟩ nodes, rest)
      | '{' :: rest =>
          match skipSpace rest with
          | '}' :: rest => some (.table (some ⟨left text, left rest⟩) .inline [], rest)
          | rest =>
              (pairsFrom (value room) [] text.length rest).map fun (members, rest) =>
                (.table (some ⟨left text, left rest⟩) .inline members, rest)
      | text => (scalar text).map fun (s, rest) => (.scalar ⟨left text, left rest⟩ s, rest)

-- Documents.

/-- A document read in part: the finished tables, and the table being filled with the path of its
header. The path is empty before the first header. -/
structure Draft where
  root : Members := []
  path : List Key := []
  isElement : Bool := false
  span : Option Span := none
  members : Members := []

def Draft.finish (d : Draft) : Option Members :=
  match d.path.getLast? with
  | none => some d.members
  | some key =>
      let table : Node := .table d.span .header d.members
      within .implied
        (fun _ => update key fun old =>
          match old with
          | none => some (if d.isElement then .tables [table] else table)
          | some (.tables elements) =>
              if d.isElement then some (.tables (elements ++ [table])) else none
          | some _ => none)
        d.path.dropLast .header d.root

def find? (name : String) : Members → Option Node
  | [] => none
  | (k, node) :: rest => if k.name = name then some node else find? name rest

def remove (name : String) : Members → Members
  | [] => []
  | (k, node) :: rest => if k.name = name then rest else (k, node) :: remove name rest

def inside? : List Key → Members → Option Members
  | [], members => some members
  | key :: path, members =>
      match find? key.name members with
      | none => some []
      | some (.table _ _ inner) => inside? path inner
      | some (.tables elements) =>
          match elements.getLast? with
          | some (.table _ _ inner) => inside? path inner
          | _ => none
      | some _ => none

/-- Starts a table under a header. One that was only implied so far is taken out of its place and
keeps its members. -/
def Draft.startTable (d : Draft) (path : List Key) (key : Key) (span : Span) : Option Draft :=
  d.finish.bind fun root =>
    (within .implied (fun _ members => some (remove key.name members)) path .header root).bind
      fun without =>
        match (inside? path root).bind (find? key.name) with
        | none => some ⟨without, path ++ [key], false, some span, []⟩
        | some (.table _ .implied members) =>
            some ⟨without, path ++ [key], false, some span, members⟩
        | some _ => none

def Draft.startElement (d : Draft) (path : List Key) (key : Key) (span : Span) : Option Draft :=
  d.finish.bind fun root =>
    (within .implied (fun _ members => some members) path .header root).bind fun root =>
      match (inside? path root).bind (find? key.name) with
      | none => some ⟨root, path ++ [key], true, some span, []⟩
      | some (.tables _) => some ⟨root, path ++ [key], true, some span, []⟩
      | some _ => none

/-- Adds a member to the table being filled, whose place then reaches to the end of the value. -/
def Draft.addMember (d : Draft) (path : List Key) (key : Key) (node : Node) : Option Draft :=
  (within .dotted (insert key node path) path .header d.members).map fun members =>
    { d with
      members
      span := d.span.map fun span => { span with stop := (node.span?.map (·.stop)).getD span.stop } }

def Draft.line (d : Draft) : Reader Draft := fun text =>
  match text with
  | '#' :: _ => (lineEnd? text).map fun rest => (d, rest)
  | '\n' :: rest => some (d, rest)
  | '\r' :: _ => (lineBreak? text).map fun rest => (d, rest)
  | '[' :: '[' :: rest =>
      (dottedKey rest).bind fun ((path, key), rest) =>
        match rest with
        | ']' :: ']' :: rest =>
            (lineEnd? rest).bind fun after =>
              (d.startElement path key ⟨left text, left rest⟩).map fun d => (d, after)
        | _ => none
  | '[' :: rest =>
      (dottedKey rest).bind fun ((path, key), rest) =>
        match rest with
        | ']' :: rest =>
            (lineEnd? rest).bind fun after =>
              (d.startTable path key ⟨left text, left rest⟩).map fun d => (d, after)
        | _ => none
  | text =>
      (pair (value (nestingLimit - 1)) text).bind fun (((path, key), node), rest) =>
        (lineEnd? rest).bind fun after => (d.addMember path key node).map fun d => (d, after)

def linesFrom (d : Draft) : Nat → List Char → Option Members
  | 0, _ => none
  | rounds + 1, text =>
      match skipSpace text with
      | [] => d.finish
      | text => (d.line text).bind fun (d, rest) => linesFrom d rounds rest

/-- The tree of a text; a byte order mark may stand in front of it. -/
def parse (text : List Char) : Option Members :=
  match text with
  | '\ufeff' :: rest => linesFrom {} (rest.length + 1) rest
  | text => linesFrom {} (text.length + 1) text

end BuildPeer.Toml
