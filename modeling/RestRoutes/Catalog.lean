import RestRoutes.Endpoint

/-!
Catalogs: the endpoints of all resources by namespace and name.
-/
namespace RestRoutes

structure Catalog where
  namespaces : Dict String (Dict String Endpoint)

namespace Catalog

def empty : Catalog := ⟨.empty⟩

/-- Adds an endpoint in place of one with the same namespace and name. -/
def insert (c : Catalog) (e : Endpoint) : Catalog :=
  let resources := (c.namespaces.get? e.ns).getD .empty
  ⟨c.namespaces.insert e.ns (resources.insert e.resource e)⟩

def resources (c : Catalog) (ns : String) : Except Error (Dict String Endpoint) :=
  match c.namespaces.get? ns with
  | some resources => .ok resources
  | none => .error (.unknownNamespace ns)

def resource (c : Catalog) (ns name : String) : Except Error Endpoint := do
  match (← c.resources ns).get? name with
  | some e => return e
  | none => throw (.unknownResource ns name)

/-- All endpoints, by namespace and name. -/
def endpoints (c : Catalog) : List Endpoint := c.namespaces.values.flatMap (·.values)

def conflicts (c : Catalog) : List AliasConflict := c.endpoints.flatMap (·.conflicts)

/-- Adds the endpoint of one resource of a tree. -/
def addTree (options : Options) (mixins : MixinTable) (c : Catalog)
    (entry : String × ResourceTree) : Logged Catalog := do
  let blueprint ← Blueprint.ofTree options entry.1 entry.2
  return c.insert (← Endpoint.ofBlueprint blueprint mixins)

/-- The resources of a tree, each with its namespace. -/
def treeEntries (t : RouteTree) : List (String × ResourceTree) :=
  t.namespaces.entries.flatMap fun (ns, resources) => resources.values.map (ns, ·)

/-- The catalog of all routes of a map. -/
def bootstrap (options : Options) (mixins : MixinTable) (routes : RouteMap) : Build Catalog := do
  let tree ← RouteTree.ofRoutes options routes
  let catalog ← ((treeEntries tree).foldlM (addTree options mixins) empty : Logged Catalog)
  Logged.note (.bootstrapped catalog.namespaces.size routes.size)
  if options.failOnAliasConflict && !catalog.conflicts.isEmpty then
    throw (.aliasConflicts catalog.conflicts)
  return catalog

end Catalog
end RestRoutes
