/-!
Conflicts between setters: two positions of one resource whose names come out the same.
-/
namespace RestRoutes

/-- A position of a route tree. -/
structure Place where
  component : String
  level : Nat
deriving DecidableEq, Repr

def Place.text (p : Place) : String := s!"`{p.component}` at level {p.level}"

/-- A name that one position keeps and another one is not given. -/
structure AliasConflict where
  ns : String
  resource : String
  label : String
  kept : Place
  dropped : Place
deriving DecidableEq, Repr

def AliasConflict.text (c : AliasConflict) : String :=
  s!"setter `{c.label}` on {c.ns}/{c.resource} kept for {c.kept.text} and dropped for " ++
    c.dropped.text

end RestRoutes
