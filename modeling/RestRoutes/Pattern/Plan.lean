import RestRoutes.Pattern.Regex

/-!
Simplified expressions, from which automata are built. Neighbouring characters are joined to one
literal, alternatives that are single characters or sets to one set, and what all alternatives begin
with is taken out of them.
-/
namespace RestRoutes.Pattern

inductive Plan where
  | empty
  | literal (codes : List Nat)
  | set (s : CodeSet)
  | look (l : Look)
  | rep (p : Plan) (min : Nat) (max : Option Nat) (greedy : Bool)
  | group (number : Nat) (p : Plan)
  | concat (ps : List Plan)
  | choice (ps : List Plan)
deriving Inhabited

namespace Plan

mutual

/-- Decides equality (`same_iff`). -/
def same : Plan → Plan → Bool
  | .empty, .empty => true
  | .literal a, .literal b => a == b
  | .set s, .set t => s == t
  | .look l, .look m => l == m
  | .rep p min max greedy, .rep q min' max' greedy' =>
    p.same q && min == min' && max == max' && greedy == greedy'
  | .group m p, .group n q => m == n && p.same q
  | .concat ps, .concat qs => allSame ps qs
  | .choice ps, .choice qs => allSame ps qs
  | _, _ => false

def allSame : List Plan → List Plan → Bool
  | [], [] => true
  | p :: ps, q :: qs => p.same q && allSame ps qs
  | _, _ => false

end

mutual

theorem same_iff : (p q : Plan) → (p.same q = true ↔ p = q)
  | .empty, q | .literal _, q | .set _, q | .look _, q => by cases q <;> simp [same]
  | .rep p _ _ _, q => by cases q <;> simp [same, same_iff p, and_assoc]
  | .group _ p, q => by cases q <;> simp [same, same_iff p]
  | .concat ps, q | .choice ps, q => by cases q <;> simp [same, allSame_iff ps]

theorem allSame_iff : (ps qs : List Plan) → (allSame ps qs = true ↔ ps = qs)
  | [], qs => by cases qs <;> simp [allSame]
  | p :: ps, qs => by cases qs <;> simp [allSame, same_iff p, allSame_iff ps]

end

instance : DecidableEq Plan := fun p q => decidable_of_iff _ (same_iff p q)

mutual

def size : Plan → Nat
  | .rep p _ _ _ | .group _ p => p.size + 1
  | .concat ps | .choice ps => sizes ps + 1
  | _ => 1

def sizes : List Plan → Nat
  | [] => 0
  | p :: ps => p.size + sizes ps

end

mutual

/-- Whether everything that matches is empty. -/
def takesNothing : Plan → Bool
  | .empty | .look _ => true
  | .literal codes => codes.isEmpty
  | .set _ => false
  | .rep p _ max _ => max.isSome && p.takesNothing
  | .group _ p => p.takesNothing
  | .concat ps | .choice ps => allTakeNothing ps

def allTakeNothing : List Plan → Bool
  | [] => true
  | p :: ps => p.takesNothing && allTakeNothing ps

end

mutual

/-- The least number of characters that match, if it is known that some do. -/
def least? : Plan → Option Nat
  | .empty | .look _ => some 0
  | .literal codes => some codes.length
  | .set s => if s.ranges.isEmpty then none else some 1
  | .rep p min _ _ => p.least?.map (· * min)
  | .group _ p => p.least?
  | .concat ps => sumOfLeast? ps
  | .choice ps => leastOfLeast? ps

def sumOfLeast? : List Plan → Option Nat
  | [] => some 0
  | p :: ps => do return (← p.least?) + (← sumOfLeast? ps)

def leastOfLeast? : List Plan → Option Nat
  | [] => none
  | [p] => p.least?
  | p :: ps => do return Nat.min (← p.least?) (← leastOfLeast? ps)

end

mutual

/-- Whether every match begins with a condition; from the other side, whether it ends with it. -/
def begins (backward : Bool) (l : Look) : Plan → Bool
  | .look l' => l == l'
  | .rep p min _ _ => min > 0 && p.begins backward l
  | .group _ p => p.begins backward l
  | .concat ps => if backward then lastBegins l ps else firstBegins l ps
  | .choice ps => allBegin backward l ps
  | _ => false

/-- Only parts that match nothing but the empty text may come first. -/
def firstBegins (l : Look) : List Plan → Bool
  | [] => false
  | p :: ps => p.begins false l || (p.takesNothing && firstBegins l ps)

def lastBegins (l : Look) : List Plan → Bool
  | [] => false
  | p :: ps => (allTakeNothing ps && p.begins true l) || lastBegins l ps

def allBegin (backward : Bool) (l : Look) : List Plan → Bool
  | [] => true
  | p :: ps => p.begins backward l && allBegin backward l ps

end

/-- A set of one character is that character. -/
def ofSet (s : CodeSet) : Plan :=
  match s.ranges with
  | [(lo, hi)] => if lo == hi then .literal [lo] else .set s
  | _ => .set s

/-- What matches only the empty text is not repeated. -/
def repeated (p : Plan) (min : Nat) (max : Option Nat) (greedy : Bool) : Plan :=
  let (min, max) :=
    if p.takesNothing then (Nat.min min 1, some (Nat.min (max.getD 1) 1)) else (min, max)
  if min == 0 && max == some 0 then .empty
  else if min == 1 && max == some 1 then p
  else .rep p min max greedy

/-- The parts of a sequence. -/
def parts : Plan → List Plan
  | .empty => []
  | .concat ps => ps
  | p => [p]

def joinLiterals : List Plan → List Plan
  | [] => []
  | .literal a :: ps =>
    match joinLiterals ps with
    | .literal b :: rest => .literal (a ++ b) :: rest
    | rest => .literal a :: rest
  | p :: ps => p :: joinLiterals ps

def sequence (ps : List Plan) : Plan :=
  match joinLiterals (ps.flatMap parts) with
  | [] => .empty
  | [p] => p
  | ps => .concat ps

def alternatives : Plan → List Plan
  | .choice ps => ps
  | p => [p]

def code? : Plan → Option Nat
  | .literal [c] => some c
  | _ => none

def set? : Plan → Option CodeSet
  | .set s => some s
  | _ => none

def concat? : Plan → Option (List Plan)
  | .concat ps => some ps
  | _ => none

/-- What two sequences begin with. -/
def common : List Plan → List Plan → List Plan
  | p :: ps, q :: qs => if p == q then p :: common ps qs else []
  | _, _ => []

/-- What all alternatives begin with, and what is left of each. -/
def takeCommon? (ps : List Plan) : Option (List Plan × List Plan) := do
  let first :: rest ← ps.mapM concat? | none
  match rest.foldl common first with
  | [] => none
  | shared => some (shared, (first :: rest).map fun p => sequence (p.drop shared.length))

/-- Taking out what alternatives have in common makes them smaller, so their size bounds how often
that is done. -/
def choose : Nat → List Plan → Plan
  | 0, ps => .choice ps
  | fuel + 1, ps =>
    match ps.flatMap alternatives with
    | [] => .set .empty
    | [p] => p
    | ps =>
      match ps.mapM code?, ps.mapM set?, takeCommon? ps with
      | some codes, _, _ => ofSet (.ofCodes codes)
      | _, some sets, _ => ofSet (.unionAll sets)
      | _, _, some (shared, rest) => sequence (shared ++ [choose fuel rest])
      | _, _, _ => .choice ps

def ofBranches : List Plan → Plan
  | [p] => p
  | ps => choose (sizes ps + 1) ps

end Plan

/-- The branches of an expression. -/
def Regex.branches : Regex → List Plan
  | .empty => [.empty]
  | .set s => [.ofSet s]
  | .look l => [.look l]
  | .seq a b => [.sequence [.ofBranches a.branches, .ofBranches b.branches]]
  | .alt a b => .ofBranches a.branches :: b.branches
  | .rep r min max greedy => [.repeated (.ofBranches r.branches) min max greedy]
  | .group none r => [.ofBranches r.branches]
  | .group (some number) r => [.group number (.ofBranches r.branches)]

def Regex.plan (r : Regex) : Plan := .ofBranches r.branches

end RestRoutes.Pattern
