import RestRoutes.Path
import RestRoutes.Route
import RestRoutes.Tree.Node

/-!
Route trees: for each namespace the resources that its routes name first, and for each resource the
positions below it. Routes that name no resource leave the tree as it is.
-/
namespace RestRoutes

/-- The positions of a resource, and the arguments of `get` that its routes take. -/
structure ResourceTree where
  name : String
  root : Node
  getArgs : Dict String Unit
deriving DecidableEq

namespace ResourceTree

/-- A resource that no route has named yet. -/
def vacant (c : Component) : ResourceTree := ⟨c.text, .vacant c 0, .empty⟩

def absorb (t : ResourceTree) (c : Component) (rest : List Component) (d : RouteDefinition) :
    ResourceTree where
  name := c.text
  root := t.root.absorb (.ofList d.methods) rest c
  getArgs := t.getArgs.addAll d.getArgs

end ResourceTree

structure RouteTree where
  namespaces : Dict String (Dict String ResourceTree)
deriving DecidableEq

namespace RouteTree

def empty : RouteTree := ⟨.empty⟩

/-- The route without its namespace and an optional slash at its end. The namespace is taken out
wherever it first stands between slashes; a route that is nothing else names no resource. -/
def relative? (route ns : String) : Option String :=
  let path := dropEnding ['/', '?'] route.toList
  if ns.isEmpty || path == '/' :: ns.toList then none
  else match cutAt? ('/' :: ns.toList ++ ['/']) path with
    | some (before, after) => some (String.ofList (before ++ after))
    | none => some (String.ofList path)

/-- Puts the components of a route into the tree. The first one names the resource. -/
def insert (t : RouteTree) (d : RouteDefinition) (c : Component) (rest : List Component) :
    RouteTree :=
  let resources := (t.namespaces.get? d.ns).getD .empty
  let resource := (resources.get? c.text).getD (.vacant c)
  ⟨t.namespaces.insert d.ns (resources.insert c.text (resource.absorb c rest d))⟩

/-- Adds one route. -/
def withRoute (t : RouteTree) (options : Options) (route : String) (d : RouteDefinition) :
    Build RouteTree := do
  match relative? route d.ns with
  | none =>
    Logged.note (.noResource route d.ns)
    return t
  | some path =>
    match ← (Path.split path).mapM (Component.ofText options route) with
    | [] =>
      Logged.note (.noComponents route)
      return t
    | c :: rest => return t.insert d c rest

/-- Adds routes by ascending text. -/
def ofRoutes (options : Options) (routes : RouteMap) : Build RouteTree :=
  routes.entries.foldlM (fun t entry => t.withRoute options entry.1 entry.2) empty

def resources (t : RouteTree) (ns : String) : List ResourceTree :=
  ((t.namespaces.get? ns).getD .empty).values

end RouteTree
end RestRoutes
