/-!
Numbered slots that each hold at most one item, as a binary tree. The bits of a number, lowest
first, lead to its slot; all slots lie at one depth.
-/
namespace RestRoutes

inductive Slots (α : Type) where
  | empty
  | item (a : α)
  | fork (even odd : Slots α)

namespace Slots

variable {α : Type}

def find? : Slots α → Nat → Option α
  | .empty, _ => none
  | .item a, _ => some a
  | .fork even odd, n => if n % 2 == 0 then even.find? (n / 2) else odd.find? (n / 2)

/-- The two trees under a fork. -/
def halves : Slots α → Slots α × Slots α
  | .fork even odd => (even, odd)
  | _ => (.empty, .empty)

/-- Puts an item into a slot of a tree of a depth, in place of what it holds. -/
def put (a : α) : (depth : Nat) → Slots α → Nat → Slots α
  | 0, _, _ => .item a
  | depth + 1, t, n =>
    if n % 2 == 0 then .fork (put a depth t.halves.1 (n / 2)) t.halves.2
    else .fork t.halves.1 (put a depth t.halves.2 (n / 2))

end Slots
end RestRoutes
