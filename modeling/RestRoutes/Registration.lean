import RestRoutes.Endpoint

/-!
Endpoints for single routes that no document lists.
-/
namespace RestRoutes

/-- What is asked for along with a route. -/
structure Registration where
  /-- All methods that write are allowed if none are given. -/
  methods : Option (List Method) := none
  /-- Parameters to offer an operation for. -/
  params : List String := []
  mixins : MixinTable := .standard
  options : Options := {}

namespace Registration

/-- The route that a namespace and a path below it make. -/
def route (ns base : String) : String := "/" ++ ns ++ "/" ++ Path.dropLeading base

/-- The operation on a parameter: the one known for it, or one that sets it. -/
def mixin (r : Registration) (param : String) : Mixin :=
  (r.mixins.get? param).getD ⟨camelCase param, ParamSetter.op ⟨param, .replace⟩⟩

/-- The endpoint of a route below a namespace. -/
def endpoint (r : Registration) (ns base : String) : Build Endpoint := do
  let ns := Path.dropTrailing (Path.dropLeading ns)
  let route := route ns base
  let methods := (r.methods.map MethodSet.ofList).getD .allWritable
  let definition : RouteDefinition := ⟨ns, methods.toList, []⟩
  let tree ← RouteTree.ofRoutes r.options (Dict.empty.insert route definition)
  let some resource := (tree.resources ns).head? | throw (.emptyRoute route)
  let blueprint ← Blueprint.ofTree r.options ns resource
  if r.options.failOnAliasConflict && !blueprint.conflicts.isEmpty then
    throw (.aliasConflicts blueprint.conflicts)
  let e ← Endpoint.ofBlueprint blueprint r.mixins
  let e ← ((r.params.map r.mixin).foldlM Endpoint.attachMixin e : Logged Endpoint)
  Logged.note (.registered route)
  return e

end Registration
end RestRoutes
