/-!
Sets of code points, held as increasing lists of ranges that neither meet nor overlap.
Membership reads the list from the left and stops at the first range above the code point.
-/
namespace RestRoutes

/-- A set of code points: each pair is a first and a last member. -/
structure CodeSet where
  ranges : List (Nat × Nat)
deriving DecidableEq, Repr, Inhabited

namespace CodeSet

/-- The last code point there is. -/
def lastCode : Nat := 0x10FFFF

def empty : CodeSet := ⟨[]⟩

/-- Every code point. -/
def full : CodeSet := ⟨[(0, lastCode)]⟩

def singleton (c : Nat) : CodeSet := ⟨[(c, c)]⟩

/-- The ranges ascend, so a code point below the head is in none of them. -/
def memRanges (c : Nat) : List (Nat × Nat) → Bool
  | [] => false
  | (lo, hi) :: rest => if c < lo then false else if c ≤ hi then true else memRanges c rest

def contains (s : CodeSet) (c : Nat) : Bool := memRanges c s.ranges

/-- Puts one range in its place and joins it with the ranges it touches. What comes after it is left
to `rest`. -/
def place (rest : List (Nat × Nat) → List (Nat × Nat)) (lo hi : Nat) :
    List (Nat × Nat) → List (Nat × Nat)
  | [] => (lo, hi) :: rest []
  | (a, b) :: rs =>
    if hi + 1 < a then (lo, hi) :: rest ((a, b) :: rs)
    else if b + 1 < lo then (a, b) :: place rest lo hi rs
    else if b ≤ hi then place rest (min lo a) hi rs
    else rest ((min lo a, b) :: rs)

def insert (s : CodeSet) (lo hi : Nat) : CodeSet := ⟨place id lo hi s.ranges⟩

def ofCodes (cs : List Nat) : CodeSet :=
  cs.foldl (fun s c => s.insert c c) empty

/-- Each range finds its place after the one before it. -/
def unionRanges : List (Nat × Nat) → List (Nat × Nat) → List (Nat × Nat)
  | [] => id
  | (lo, hi) :: rs => place (unionRanges rs) lo hi

def union (s t : CodeSet) : CodeSet := ⟨unionRanges s.ranges t.ranges⟩

def unionAll (ss : List CodeSet) : CodeSet := ss.foldl union empty

/-- What lies between the ranges, from `start` to the last code point. -/
def gaps (start : Nat) : List (Nat × Nat) → List (Nat × Nat)
  | [] => if start ≤ lastCode then [(start, lastCode)] else []
  | (a, b) :: rest => if start < a then (start, a - 1) :: gaps (b + 1) rest else gaps (b + 1) rest

def compl (s : CodeSet) : CodeSet := ⟨gaps 0 s.ranges⟩

def inter (s t : CodeSet) : CodeSet := (s.compl.union t.compl).compl

def diff (s t : CodeSet) : CodeSet := s.inter t.compl

/-- Members of exactly one of the two sets. -/
def symmDiff (s t : CodeSet) : CodeSet := (s.diff t).union (t.diff s)

/-- Everything from `lo` to `hi` is a member. Ranges do not meet, so one of them has it all. -/
def covers (s : CodeSet) (lo hi : Nat) : Bool := s.ranges.any fun r => r.1 ≤ lo && hi ≤ r.2

/-- No member above `bound`. -/
def allBelow (s : CodeSet) (bound : Nat) : Bool := s.ranges.all fun r => r.2 < bound

end CodeSet
end RestRoutes
