import RestRoutes.Tree.Node

/-!
Setters: what is filled in when a position of a path is chosen by name, and which methods a path
that ends there allows.
-/
namespace RestRoutes

/-- Where a value goes that is given to a literal position. -/
structure Promotion where
  level : Nat
  methods : Option MethodSet
deriving DecidableEq

inductive Setter where
  /-- Fills in the value given. -/
  | dynamic (level : Nat) (methods : Option MethodSet)
  /-- Fills in a fixed text. -/
  | static (level : Nat) (component : String) (methods : Option MethodSet)
      (promotion : Option Promotion)
deriving DecidableEq

namespace Setter

def level : Setter → Nat
  | .dynamic level _ => level
  | .static level _ _ _ => level

/-- Whether a value given fills a second slot. -/
def promotes : Setter → Bool
  | .static _ _ _ (some _) => true
  | _ => false

/-- A value has one place to go only if there is one dynamic position below. -/
def promotion? (n : Node) : Option Promotion :=
  match n.dynamicChildren with
  | [child] => some ⟨child.level, child.methods⟩
  | _ => none

/-- The setter of a position. -/
def ofNode (options : Options) (n : Node) : Setter :=
  if n.isDynamic then .dynamic n.level n.methods
  else
    .static n.level (n.names.head?.getD n.component) n.methods
      (if options.childPromotion then promotion? n else none)

end Setter
end RestRoutes
