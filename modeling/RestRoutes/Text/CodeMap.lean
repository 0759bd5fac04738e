/-!
Partial maps on code points, given as runs. A run sends every `step`-th code point from `first` to
`last` to the code point as far from `target` as it is from `first`.
-/
namespace RestRoutes

structure CodeRun where
  first : Nat
  last : Nat
  step : Nat
  target : Nat
deriving DecidableEq, Repr

namespace CodeRun

/-- The image of `c`, when the run has it. -/
def image? (r : CodeRun) (c : Nat) : Option Nat :=
  if r.first ≤ c ∧ c ≤ r.last ∧ (c - r.first) % r.step = 0 then some (r.target + (c - r.first))
  else none

/-- The code point that the run sends to `d`. -/
def preimage? (r : CodeRun) (d : Nat) : Option Nat :=
  if r.target ≤ d ∧ d - r.target ≤ r.last - r.first ∧ (d - r.target) % r.step = 0 then
    some (r.first + (d - r.target))
  else none

def domain (r : CodeRun) : List Nat :=
  (List.range ((r.last - r.first) / r.step + 1)).map fun i => r.first + i * r.step

end CodeRun

/-- The first run that has a code point maps it. -/
abbrev CodeMap := List CodeRun

namespace CodeMap

def image? (m : CodeMap) (c : Nat) : Option Nat := m.findSome? (·.image? c)

/-- Everything that is sent to `d`. -/
def preimage (m : CodeMap) (d : Nat) : List Nat := m.filterMap (·.preimage? d)

def domain (m : CodeMap) : List Nat := m.flatMap (·.domain)

/-- Every code point of the runs, with its image. -/
def pairs (m : CodeMap) : List (Nat × Nat) :=
  m.flatMap fun r => r.domain.map fun c => (c, r.target + (c - r.first))

end CodeMap
end RestRoutes
