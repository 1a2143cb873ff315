import BuildPeer.Binary64

/-!
Trees of JSON. An object keeps its members in the order written, repeated names included, so that
a tree is what a text says. `sorted` gives the normal form in which values are stored and sent: the
members of every object in the order of their names, the last of repeated names only.
-/

namespace BuildPeer

/-- A number is an exact integer or a floating-point number; `1` and `1.0` differ. -/
inductive Number where
  | integer (value : Int)
  | real (value : Binary64)
  deriving DecidableEq, Repr, Inhabited

inductive Json where
  | null
  | bool (value : Bool)
  | number (value : Number)
  | string (value : String)
  | array (elements : List Json)
  | object (members : List (String × Json))
  deriving Repr, Inhabited

namespace Json

def integer (n : Int) : Json :=
  .number (.integer n)

-- Equality of trees, member order and repetitions included.

mutual
def same : Json → Json → Bool
  | .null, .null => true
  | .bool a, .bool b => a == b
  | .number a, .number b => a == b
  | .string a, .string b => a == b
  | .array xs, .array ys => sameElements xs ys
  | .object ms, .object ns => sameMembers ms ns
  | _, _ => false
def sameElements : List Json → List Json → Bool
  | [], [] => true
  | x :: xs, y :: ys => same x y && sameElements xs ys
  | _, _ => false
def sameMembers : List (String × Json) → List (String × Json) → Bool
  | [], [] => true
  | (j, x) :: ms, (k, y) :: ns => j == k && same x y && sameMembers ms ns
  | _, _ => false
end

mutual
theorem same_iff : ∀ a b : Json, same a b = true ↔ a = b
  | .null, b => by cases b <;> simp [same]
  | .bool x, b => by cases b <;> simp [same]
  | .number x, b => by cases b <;> simp [same]
  | .string x, b => by cases b <;> simp [same]
  | .array xs, b => by
      cases b with
      | array ys => simp [same, sameElements_iff xs ys]
      | _ => simp [same]
  | .object ms, b => by
      cases b with
      | object ns => simp [same, sameMembers_iff ms ns]
      | _ => simp [same]
theorem sameElements_iff : ∀ xs ys : List Json, sameElements xs ys = true ↔ xs = ys
  | [], ys => by cases ys <;> simp [sameElements]
  | x :: xs, ys => by
      cases ys with
      | nil => simp [sameElements]
      | cons y ys => simp [sameElements, same_iff x y, sameElements_iff xs ys]
theorem sameMembers_iff :
    ∀ ms ns : List (String × Json), sameMembers ms ns = true ↔ ms = ns
  | [], ns => by cases ns <;> simp [sameMembers]
  | (j, x) :: ms, ns => by
      cases ns with
      | nil => simp [sameMembers]
      | cons n ns =>
          obtain ⟨k, y⟩ := n
          simp [sameMembers, same_iff x y, sameMembers_iff ms ns, and_assoc]
end

instance : DecidableEq Json := fun a b => decidable_of_iff _ (same_iff a b)

-- The normal form.

/-- Puts a member at its place in the order of names, over an older one of the same name. -/
def put (name : String) (value : Json) : List (String × Json) → List (String × Json)
  | [] => [(name, value)]
  | (k, v) :: rest =>
      if name < k then (name, value) :: (k, v) :: rest
      else if name = k then (name, value) :: rest
      else (k, v) :: put name value rest

mutual
def sorted : Json → Json
  | .array xs => .array (sortedElements xs)
  | .object ms => .object (sortedMembers [] ms)
  | .null => .null
  | .bool b => .bool b
  | .number n => .number n
  | .string s => .string s
def sortedElements : List Json → List Json
  | [] => []
  | x :: xs => sorted x :: sortedElements xs
def sortedMembers (done : List (String × Json)) : List (String × Json) → List (String × Json)
  | [] => done
  | (k, v) :: rest => sortedMembers (put k (sorted v) done) rest
end

def depth : Json → Nat
  | .array xs => depthElements xs + 1
  | .object ms => depthMembers ms + 1
  | _ => 0
where
  depthElements : List Json → Nat
    | [] => 0
    | x :: xs => max (depth x) (depthElements xs)
  depthMembers : List (String × Json) → Nat
    | [] => 0
    | (_, v) :: ms => max (depth v) (depthMembers ms)

end Json
end BuildPeer
