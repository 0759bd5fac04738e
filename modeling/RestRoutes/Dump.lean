import RestRoutes.Catalog
import RestRoutes.Json.Writer

/-!
Catalogs as JSON texts: the shapes of each level, the names of setters and query operations, and the
conflicts.
-/
namespace RestRoutes

open Json

namespace Dump

def strings (ss : List String) : Value := .array (ss.map .string)

def shape (level : Nat) (s : Shape) : Value :=
  .object [
    ("level", .natural level),
    ("component", .string s.component),
    ("validator", .string s.validator.source),
    ("methods", (s.methods.map (strings ·.names)).getD .null)]

def levels (ls : Levels) : Value :=
  .array (ls.entries.flatMap fun (level, shapes) => shapes.map (shape level))

/-- The names of the capabilities of one kind. -/
def names (e : Endpoint) (kind : String) : List String :=
  (e.capabilities.entries.filter (·.2.kind == kind)).map (·.1)

def endpoint (e : Endpoint) : Value :=
  .object [
    ("name", .string e.resource),
    ("levels", levels e.levels),
    ("setters", strings (names e "path")),
    ("mixins", strings (names e "mixin")),
    ("alias_conflicts", strings (e.conflicts.map (·.text)))]

def catalog (c : Catalog) : Value :=
  .object [("namespaces", .array (c.namespaces.entries.map fun (ns, resources) =>
    .object [("name", .string ns), ("resources", .array (resources.values.map endpoint))]))]

end Dump

/-- A catalog as indented text. -/
def Catalog.dump (c : Catalog) : String := (Dump.catalog c).prettyText

end RestRoutes
