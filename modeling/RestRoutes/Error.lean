import RestRoutes.Conflict
import RestRoutes.Method
import RestRoutes.Validator

/-!
What can go wrong with routes and requests.
-/
namespace RestRoutes

inductive Error where
  | invalidRoute (route : String) (cause : InvalidPattern)
  | emptyRoute (route : String)
  | aliasConflicts (conflicts : List AliasConflict)
  | unknownNamespace (ns : String)
  | unknownResource (ns resource : String)
  | unknownCapability (resource name : String)
  | missingValue (name : String)
  | slotOccupied (level : Nat) (existing : String)
  /-- A value that none of the components of its level accepts. -/
  | invalidSlot (value : String) (components : List String)
  /-- A path with gaps, as far as it goes. -/
  | incompletePath (path : String)
  | unsupportedMethod (method : Method) (supported : MethodSet)
deriving DecidableEq

def Error.message : Error → String
  | .invalidRoute route cause => s!"invalid route `{route}`: {cause.message}"
  | .emptyRoute route => s!"route `{route}` has no resource component"
  | .aliasConflicts conflicts =>
    let first := (conflicts.head?.map AliasConflict.text).getD ""
    s!"{conflicts.length} setter alias conflict(s); first: {first}"
  | .unknownNamespace ns => s!"namespace `{ns}` was not bootstrapped"
  | .unknownResource ns resource => s!"namespace `{ns}` has no resource `{resource}`"
  | .unknownCapability resource name => s!"`{resource}` requests have no method `{name}`"
  | .missingValue name => s!"`{name}` requires a value"
  | .slotOccupied _ existing => s!"Cannot overwrite value {existing}"
  | .invalidSlot value components =>
    let several := if components.length > 1 then " any of" else ""
    let list := ", ".intercalate components
    s!"Invalid path component: {value} does not match{several} {list}"
  | .incompletePath path => s!"Incomplete URL! Missing component: /{path}"
  | .unsupportedMethod method supported =>
    s!"Unsupported method {method.name}; supported methods are: {supported.text}"

end RestRoutes
