import RestRoutes.Json.Value
import RestRoutes.Method

/-!
Routes as an API lists them: the namespace that owns a route, the methods that its full path
accepts, and the endpoints on it with their arguments.
-/
namespace RestRoutes

/-- What serves some methods of a route, and the arguments it takes with what is said about each. -/
structure RouteEndpoint where
  methods : List Method
  args : Dict String Json.Value

/-- Everything that is known about one route. `ns` is its namespace. -/
structure RouteDefinition where
  ns : String
  methods : List Method
  endpoints : List RouteEndpoint

namespace RouteEndpoint

instance : BEq RouteEndpoint := ⟨fun a b =>
  a.methods == b.methods && a.args.entries == b.args.entries⟩

/-- An endpoint whose arguments are only named. -/
def named (methods : List Method) (names : List String) : RouteEndpoint :=
  ⟨methods, .ofList (names.map fun name => (name, .object []))⟩

end RouteEndpoint

namespace RouteDefinition

instance : BEq RouteDefinition := ⟨fun a b =>
  a.ns == b.ns && a.methods == b.methods && a.endpoints == b.endpoints⟩

/-- The arguments of the endpoints that serve `get`. -/
def getArgs (d : RouteDefinition) : List String :=
  (d.endpoints.filter (·.methods.contains .get)).flatMap (·.args.keys)

end RouteDefinition

/-- Routes by their text. -/
abbrev RouteMap := Dict String RouteDefinition

instance : BEq RouteMap := ⟨fun a b => a.entries == b.entries⟩

end RestRoutes
