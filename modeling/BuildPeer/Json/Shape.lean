import BuildPeer.Json.Skip
import BuildPeer.Json.Value

/-!
Reading a value of a known shape. A record may be written as an object, its members in any order
and mixed with members it does not know, or as an array of its fields in their order. What is read
is a tree in the order of the shape: the fields of a record as it lists them, the members of any
other object sorted.
-/

namespace BuildPeer.Json

inductive Shape where
  | any
  | text
  | flag
  /-- One of the codes of a source item, 1 or 2. -/
  | kind
  | list (element : Shape)
  | record (name : String) (fields : List (String × Bool × Shape))

namespace Reader

/-- Refuses a value of another type, after reading it if it is a scalar. -/
def mismatch (wanted : String) : Reader α := fun text =>
  match skipSpace text with
  | '[' :: rest => .error (.here (.wrongType .sequence wanted) ('[' :: rest))
  | '{' :: rest => .error (.here (.wrongType .map wanted) ('{' :: rest))
  | text =>
      match scalar text with
      | .error fault => .error fault
      | .ok (v, rest) => .error (.here (.wrongType (found v) wanted) rest)

def text : Reader String := fun text =>
  match skipSpace text with
  | '"' :: rest => string rest
  | text => mismatch "a string" text

def flag : Reader Bool := fun text =>
  match skipSpace text with
  | 't' :: rest => (literal "rue".toList rest).map fun ((), rest) => (true, rest)
  | 'f' :: rest => (literal "alse".toList rest).map fun ((), rest) => (false, rest)
  | text => mismatch "a boolean" text

def byte : Reader Nat := fun text =>
  match skipSpace text with
  | [] => mismatch "u8" []
  | c :: rest =>
      if c = '-' ∨ Text.isDigit c then
        match number (c :: rest) with
        | .error fault => .error fault
        | .ok (.integer n, rest) =>
            if 0 ≤ n ∧ n < 256 then .ok (n.toNat, rest)
            else .error (.here (.wrongValue (.number (.integer n)) "u8") rest)
        | .ok (n, rest) => .error (.here (.wrongType (.number n) "u8") rest)
      else mismatch "u8" (c :: rest)

def kind : Reader Nat := fun text =>
  match byte text with
  | .error fault => .error fault
  | .ok (code, rest) =>
      if code = 1 ∨ code = 2 then .ok (code, rest)
      else .error (.pending (.unknownKind code) rest)

def list (room : Nat) (element : Reader α) : Reader (List α) := fun text =>
  match skipSpace text with
  | '[' :: rest =>
      if room = 0 then .error (.upon .tooDeep ('[' :: rest))
      else closeList (elements element) rest
  | text => mismatch "a sequence" text

-- Records.

structure Slot where
  name : String
  required : Bool
  value : Reader Json

/-- Reads the member of the given name into its slot, or steps over one without a slot. -/
def fillSlot (slots : List Slot) (values : List (Option Json)) (name : String) :
    Reader (List (Option Json)) := fun text =>
  match slots, values with
  | slot :: slots, value :: values =>
      if slot.name = name then
        if value.isSome then .error (.pending (.duplicate name) text)
        else
          (afterColon slot.value text).map fun (v, rest) => (some v :: values, rest)
      else
        (fillSlot slots values name text).map fun (values, rest) => (value :: values, rest)
  | _, values => (afterColon skip text).map fun ((), rest) => (values, rest)

def missing? : List Slot → List (Option Json) → Option String
  | slot :: slots, value :: values =>
      if slot.required && value.isNone then some slot.name else missing? slots values
  | _, _ => none

def slotMembers (slots : List Slot) : Reader (List (Option Json)) := fun text =>
  match members (fillSlot slots) (slots.map fun _ => none) text with
  | .error fault => .error fault
  | .ok (values, rest) =>
      match missing? slots values with
      | some name => .error (.pending (.missing name) rest)
      | none => .ok (values, rest)

/-- One element for each slot; slots that are not required may be left out at the end. -/
def slotElements (wanted : String) (first : Bool) (index : Nat) :
    List Slot → Reader (List (Option Json))
  | [], text => .ok ([], text)
  | slot :: slots, text =>
      match nextElement first slot.value text with
      | .error fault => .error fault
      | .ok (none, rest) =>
          if slot.required then .error (.pending (.wrongLength index wanted) rest)
          else
            (slotElements wanted first (index + 1) slots rest).map fun (values, rest) =>
              (none :: values, rest)
      | .ok (some v, rest) =>
          (slotElements wanted false (index + 1) slots rest).map fun (values, rest) =>
            (some v :: values, rest)

def recordLength (name : String) (n : Nat) : String :=
  "struct " ++ name ++ " with " ++ toString n ++ (if n = 1 then " element" else " elements")

def record (room : Nat) (name : String) (slots : List Slot) :
    Reader (List (Option Json)) := fun text =>
  match skipSpace text with
  | '[' :: rest =>
      if room = 0 then .error (.upon .tooDeep ('[' :: rest))
      else closeList (slotElements (recordLength name slots.length) true 0 slots) rest
  | '{' :: rest =>
      if room = 0 then .error (.upon .tooDeep ('{' :: rest))
      else closeObject (slotMembers slots) rest
  | text => mismatch ("struct " ++ name) text

def filled : List Slot → List (Option Json) → List (String × Json)
  | slot :: slots, some v :: values => (slot.name, v) :: filled slots values
  | _ :: slots, none :: values => filled slots values
  | _, _ => []

mutual
def shape (room : Nat) : Shape → Reader Json
  | .any => fun cs => (value room cs).map fun (v, rest) => (v.sorted, rest)
  | .text => fun cs => (text cs).map fun (s, rest) => (.string s, rest)
  | .flag => fun cs => (flag cs).map fun (b, rest) => (.bool b, rest)
  | .kind => fun cs => (kind cs).map fun (n, rest) => (.integer n, rest)
  | .list element => fun cs =>
      (list room (shape (room - 1) element) cs).map fun (vs, rest) => (.array vs, rest)
  | .record name fields => fun cs =>
      let slots := fieldSlots (room - 1) fields
      (record room name slots cs).map fun (values, rest) => (.object (filled slots values), rest)
def fieldSlots (room : Nat) : List (String × Bool × Shape) → List Slot
  | [] => []
  | (name, required, field) :: fields =>
      ⟨name, required, shape room field⟩ :: fieldSlots room fields
end

end Reader

def Shape.parse (s : Shape) (text : List Char) : Except Refusal Json :=
  Reader.whole (Reader.shape nestingLimit s) text

end BuildPeer.Json
