import RestRoutes.Binary64
import RestRoutes.Dict

/-!
JSON values. Objects keep their members as written; `Value.settled` is the value that they stand
for, with members by ascending name and the last of those with one name.
-/
namespace RestRoutes.Json

/-- Whole numbers are exact as far as 64 bits go. -/
inductive Number where
  | natural (n : Nat)
  /-- The negative of a number above zero. -/
  | negative (n : Nat)
  | double (x : Binary64)
deriving DecidableEq, Repr

/-- Equality of numbers. Whole numbers and doubles are never the same. -/
def Number.same : Number → Number → Bool
  | .double x, .double y => x.same y
  | m, n => m == n

inductive Value where
  | null
  | bool (b : Bool)
  | number (n : Number)
  | string (s : String)
  | array (items : List Value)
  | object (members : List (String × Value))
deriving Inhabited

namespace Value

mutual

/-- Values with equal numbers at the same places. -/
def same : Value → Value → Bool
  | .null, .null => true
  | .bool a, .bool b => a == b
  | .number m, .number n => m.same n
  | .string s, .string t => s == t
  | .array xs, .array ys => sameItems xs ys
  | .object ms, .object ns => sameMembers ms ns
  | _, _ => false

def sameItems : List Value → List Value → Bool
  | [], [] => true
  | x :: xs, y :: ys => x.same y && sameItems xs ys
  | _, _ => false

def sameMembers : List (String × Value) → List (String × Value) → Bool
  | [], [] => true
  | (k, x) :: ms, (l, y) :: ns => k == l && x.same y && sameMembers ms ns
  | _, _ => false

end

instance : BEq Value := ⟨same⟩

mutual

def settled : Value → Value
  | .array items => .array (settledItems items)
  | .object members => .object (Dict.ofList (settledMembers members)).entries
  | v => v

def settledItems : List Value → List Value
  | [] => []
  | v :: vs => v.settled :: settledItems vs

def settledMembers : List (String × Value) → List (String × Value)
  | [] => []
  | (k, v) :: ms => (k, v.settled) :: settledMembers ms

end

/-- The value of the last member with a name. -/
def member? (v : Value) (name : String) : Option Value :=
  match v with
  | .object members => (members.reverse.find? (·.1 == name)).map (·.2)
  | _ => none

def string? : Value → Option String
  | .string s => some s
  | _ => none

def bool? : Value → Option Bool
  | .bool b => some b
  | _ => none

def natural? : Value → Option Nat
  | .number (.natural n) => some n
  | _ => none

def items? : Value → Option (List Value)
  | .array items => some items
  | _ => none

def natural (n : Nat) : Value := .number (.natural n)

end Value
end RestRoutes.Json
