import BuildPeer.Text.Quoted
import BuildPeer.Toml.Document

/-!
Reading typed values off a TOML tree, and the report of a value of the wrong type: its line with
carets under it, and what was found and wanted.

A record is filled from a table, whose members may come in any order and may be unknown, or from a
list of its fields in their order, which may be shorter or longer. A date counts as a table with no
member that anyone knows.
-/

namespace BuildPeer.Toml

inductive Found where
  | scalar (value : Scalar)
  | sequence
  | map
  deriving DecidableEq, Repr

def Real.text : Real → String
  | .finite x => String.ofList x.plainChars
  | .infinite false => "inf"
  | .infinite true => "-inf"
  | .nan => "NaN"

def Found.text : Found → String
  | .scalar (.string s) => "string " ++ Text.quoted s
  | .scalar (.integer n) => "integer `" ++ toString n ++ "`"
  | .scalar (.real x) => "floating point `" ++ x.text ++ "`"
  | .scalar (.bool true) => "boolean `true`"
  | .scalar (.bool false) => "boolean `false`"
  | .scalar .date => "map"
  | .sequence => "sequence"
  | .map => "map"

def found : Node → Found
  | .scalar _ s => .scalar s
  | .list .. => .sequence
  | .table .. => .map
  | .tables _ => .sequence

inductive Cause where
  | wrongType (found : Found) (wanted : String)
  | wrongValue (found : Found) (wanted : String)
  deriving DecidableEq, Repr

def Cause.message : Cause → String
  | .wrongType found wanted => "invalid type: " ++ found.text ++ ", expected " ++ wanted
  | .wrongValue found wanted => "invalid value: " ++ found.text ++ ", expected " ++ wanted

structure Mistake where
  cause : Cause
  span : Option Span
  deriving DecidableEq, Repr

abbrev Decoder (α : Type) := Node → Except Mistake α

namespace Decoder

def wrongType (wanted : String) : Decoder α := fun node =>
  .error ⟨.wrongType (found node) wanted, node.span?⟩

def bool : Decoder Bool
  | .scalar _ (.bool b) => .ok b
  | node => wrongType "a boolean" node

def string : Decoder String
  | .scalar _ (.string s) => .ok s
  | node => wrongType "a string" node

def natural (wanted : String) : Decoder Nat
  | .scalar span (.integer n) =>
      if 0 ≤ n then .ok n.toNat
      else .error ⟨.wrongValue (.scalar (.integer n)) wanted, some span⟩
  | node => wrongType wanted node

def strings : Decoder (List String)
  | .list _ nodes => nodes.mapM string
  | .tables nodes => nodes.mapM string
  | node => wrongType "a sequence" node

structure RecordField (σ : Type) where
  name : String
  set : σ → Decoder σ

/-- A member without a place of its own is at the place of its key. -/
def atKey (key : Key) : Except Mistake α → Except Mistake α
  | .error m => .error { m with span := m.span.or (some key.span) }
  | .ok a => .ok a

def fromMembers (fields : List (RecordField σ)) (state : σ) : Members → Except Mistake σ
  | [] => .ok state
  | (key, node) :: rest =>
      match fields.find? fun field => field.name = key.name with
      | none => fromMembers fields state rest
      | some field =>
          match atKey key (field.set state node) with
          | .error m => .error m
          | .ok state => fromMembers fields state rest

def fromElements (state : σ) : List (RecordField σ) → List Node → Except Mistake σ
  | field :: fields, node :: nodes =>
      match field.set state node with
      | .error m => .error m
      | .ok state => fromElements state fields nodes
  | _, _ => .ok state

def record (name : String) (fields : List (RecordField σ)) (state : σ) : Decoder σ
  | .table _ _ members => fromMembers fields state members
  | .list _ nodes => fromElements state fields nodes
  | .tables nodes => fromElements state fields nodes
  | .scalar _ .date => .ok state
  | node => wrongType ("struct " ++ name) node

end Decoder

-- The report.

structure Report where
  line : Nat
  /-- In characters, from one. -/
  column : Nat
  content : String
  carets : Nat
  message : String
  deriving DecidableEq, Repr

def before (text : List Char) (left : Nat) : List Char :=
  go [] (Text.Utf8.length text) text
where
  go (done : List Char) (size : Nat) : List Char → List Char
    | [] => done.reverse
    | c :: rest =>
        if size ≤ left then done.reverse
        else go (c :: done) (size - Text.Utf8.size c) rest

def report (text : List Char) (m : Mistake) : Report :=
  let span := m.span.getD ⟨0, 0⟩
  let read := before text span.start
  let start := read.reverse.takeWhile (· ≠ '\n')
  let content := start.reverse ++ (text.drop read.length).takeWhile (· ≠ '\n')
  { line := read.count '\n' + 1
    column := start.length + 1
    content := String.ofList content
    carets := max 1 (min (span.start - span.stop) (Text.Utf8.length content - start.length))
    message := m.cause.message }

def Report.text (r : Report) : String :=
  let number := toString r.line
  let gutter := String.ofList (List.replicate (number.length + 1) ' ') ++ "|"
  "TOML parse error at line " ++ number ++ ", column " ++ toString r.column ++ "\n" ++
    gutter ++ "\n" ++
    number ++ " | " ++ r.content ++ "\n" ++
    gutter ++ String.ofList (List.replicate r.column ' ' ++ List.replicate r.carets '^') ++ "\n" ++
    r.message ++ "\n"

end BuildPeer.Toml
