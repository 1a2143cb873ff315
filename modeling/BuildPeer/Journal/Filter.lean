import BuildPeer.Journal.Directive

/-!
Which entries of a journal are shown. A filter is a list of directives between commas. Of the
directives that an entry meets, the one with the longest target decides, then one with a field, then
the one whose field comes last in order, and the last of equal ones; without any the entry is not
shown. The program opens no spans, so a directive with a span or with a value is met by no entry.

Directives that cannot be read are left out, and with none left only errors are shown. No filter
comes of a text with a cut inside a character.
-/

namespace BuildPeer.Journal

def Topic.target : Topic → List Char
  | .program => "bsp_fixture_server".toList
  | .session => "bsp_fixture_server::server".toList
  | .frames => "bsp_fixture_server::protocol::codec".toList
  | .dispatch => "bsp_fixture_server::protocol::dispatch".toList

abbrev Filter := List Directive

namespace Filter

def pieces (text : List Char) : List (List Char) :=
  go [] text
where
  go (piece : List Char) : List Char → List (List Char)
    | [] => [piece.reverse]
    | ',' :: rest => piece.reverse :: go [] rest
    | c :: rest => go (c :: piece) rest

/-- The directives that can be read; none if the text is cut inside a character. -/
def directives? : List (List Char) → Option (List Directive)
  | [] => some []
  | piece :: rest =>
      match Directive.read piece with
      | .ok d => (directives? rest).map (d :: ·)
      | .error .malformed => directives? rest
      | .error .broken => none

def parse? (text : String) : Option Filter :=
  (directives? (pieces text.toList)).map fun filter =>
    if filter.isEmpty then [{ threshold := Level.error.rank }] else filter

/-- The names of the fields of an entry; the message is one of them. -/
def fieldNames (e : Entry) : List String :=
  "message" :: e.fields.map (·.1)

def meets (e : Entry) (d : Directive) : Bool :=
  !d.hasSpan &&
    (match d.target with
    | none => true
    | some target => target.isPrefixOf e.topic.target) &&
    match d.field with
    | none => true
    | some test => !test.hasValue && (fieldNames e).contains test.name

def weight (d : Directive) : Nat :=
  match d.target with
  | none => 0
  | some target => target.length + 1

/-- Whether `d` decides about an entry that meets both. -/
def yieldsTo (best d : Directive) : Bool :=
  weight best < weight d ||
    (weight best == weight d &&
      match best.field, d.field with
      | none, _ => true
      | some _, none => false
      | some a, some b => !(b.name < a.name))

def deciding? (filter : Filter) (e : Entry) : Option Directive :=
  (filter.filter (meets e)).foldl
    (fun best d =>
      match best with
      | none => some d
      | some b => if yieldsTo b d then some d else some b)
    none

def admits (filter : Filter) (e : Entry) : Bool :=
  match deciding? filter e with
  | none => false
  | some d => e.level.rank ≤ d.threshold

/-- A line read backwards, without the carriage return it may end in and the spaces it starts
with. -/
def lineOf (backwards : List Char) : List Char :=
  let line :=
    match backwards with
    | '\r' :: line => line
    | line => line
  line.reverse.dropWhile (· = ' ')

def textLines (text : List Char) : List (List Char) :=
  go [] text
where
  go (line : List Char) : List Char → List (List Char)
    | [] => [lineOf line]
    | '\n' :: rest => lineOf line :: go [] rest
    | c :: rest => go (c :: line) rest

def shown (filter : Filter) (entries : List Entry) : List Entry :=
  entries.filter filter.admits

def lines (filter : Filter) (entries : List Entry) : List String :=
  (filter.shown entries).flatMap fun e => (textLines e.text.toList).map String.ofList

/-- The lines that entries begin with, without those that go on with a text. -/
def firstLines (filter : Filter) (entries : List Entry) : List String :=
  (filter.shown entries).map fun e =>
    String.ofList ((textLines e.text.toList).headD [])

end Filter
end BuildPeer.Journal
