import RestRoutes.Blueprint
import RestRoutes.Mixin

/-!
Endpoints: all that a request to a resource needs to know. Setters and query operations share their
names; of two under one name the first one stays, and setters come first.
-/
namespace RestRoutes

inductive Capability where
  | path (setter : Setter)
  | mixin (mixin : Mixin)

def Capability.kind : Capability → String
  | .path _ => "path"
  | .mixin _ => "mixin"

structure Endpoint where
  ns : String
  resource : String
  levels : Levels
  capabilities : Dict String Capability
  conflicts : List AliasConflict

namespace Endpoint

/-- Names that requests use for operations of their own. -/
def reservedNames : List String := ["param", "setPathPart", "validatePath"]

/-- Offers a capability under a name that is not taken. -/
def attach (e : Endpoint) (name : String) (c : Capability) : Logged Endpoint := do
  if reservedNames.contains name then
    Logged.note (.reservedName e.ns e.resource c.kind name)
    return e
  match e.capabilities.get? name with
  | some existing =>
    Logged.note (.shadowed e.ns e.resource c.kind name existing.kind)
    return e
  | none => return { e with capabilities := e.capabilities.insert name c }

def attachMixin (e : Endpoint) (m : Mixin) : Logged Endpoint := e.attach m.method (.mixin m)

/-- The setters of a blueprint, then the query operations that its arguments call for. -/
def ofBlueprint (b : Blueprint) (mixins : MixinTable) : Logged Endpoint := do
  let bare : Endpoint := ⟨b.ns, b.resource, b.levels, .empty, b.conflicts⟩
  let e ← b.setters.entries.entries.foldlM (fun e (label, entry) =>
    e.attach label (.path entry.setter)) bare
  (b.getArgs.keys.filterMap mixins.get?).foldlM attachMixin e

end Endpoint
end RestRoutes
