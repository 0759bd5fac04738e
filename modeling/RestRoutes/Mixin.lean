import RestRoutes.Dict
import RestRoutes.Error
import RestRoutes.Text.CamelCase

/-!
Query parameters, and the named operations on them that a resource offers for the arguments it
takes.
-/
namespace RestRoutes

/-- The values of each parameter, in the order in which they were given. -/
abbrev Query := Dict String (List String)

/-- Operations on a query, for a value or without one. What is left of the query where one fails is
part of its outcome. -/
abbrev QueryOp := Option String → EStateM Error Query Unit

/-- A named operation on the query. -/
structure Mixin where
  method : String
  op : QueryOp

/-- The query that an operation leaves behind, also where it fails. -/
def Mixin.apply (m : Mixin) (q : Query) (value : Option String) : Query :=
  match (m.op value).run q with
  | .ok _ q => q
  | .error _ q => q

inductive ParamMode where
  /-- Each value takes the place of those before it. -/
  | replace
  | append
deriving DecidableEq, Repr

/-- Keeps the values it is given under one parameter. -/
structure ParamSetter where
  param : String
  mode : ParamMode
deriving DecidableEq, Repr

namespace ParamSetter

/-- Adds a value. Without one the parameter is removed. -/
def apply (s : ParamSetter) (q : Query) : Option String → Query
  | none => q.erase s.param
  | some value =>
    let before := match s.mode with
      | .replace => []
      | .append => (q.get? s.param).getD []
    q.insert s.param (before ++ [value])

def op (s : ParamSetter) : QueryOp := fun value => modify (s.apply · value)

end ParamSetter

/-- Operations by the argument that calls for them. -/
abbrev MixinTable := Dict String Mixin

namespace MixinTable

/-- An operation for an argument, named after the argument unless it has a name. -/
def add (t : MixinTable) (arg : String) (op : QueryOp) (method : Option String) : MixinTable :=
  t.insert arg ⟨method.getD (camelCase arg), op⟩

/-- An operation that keeps values under a parameter. -/
def register (t : MixinTable) (arg param : String) (mode : ParamMode)
    (method : Option String) : MixinTable :=
  t.add arg (ParamSetter.op ⟨param, mode⟩) method

/-- Arguments that have one value. -/
def single : List String :=
  ["page", "per_page", "offset", "search", "slug", "status", "order", "orderby", "parent",
   "context", "before", "after", "author"]

/-- Arguments that have a list of values. -/
def listed : List String := ["include", "exclude", "categories", "tags"]

/-- Operations for the arguments that most collections take. -/
def standard : MixinTable :=
  let add (mode : ParamMode) (t : MixinTable) (arg : String) := register t arg arg mode none
  listed.foldl (add .append) (single.foldl (add .replace) .empty)

end MixinTable
end RestRoutes
