import RestRoutes.Json.Reader
import RestRoutes.Route

/-!
Routes documents. A document is an object with one definition for each route, or an index with that
object as its one member `routes`. Definitions may leave fields out, hold unknown fields, or be
lists of their fields in order; a field that is known may not come twice.
-/
namespace RestRoutes

inductive DocumentError where
  /-- There is no text to read. -/
  | unreadable
  | malformed
  | notRoutes
deriving DecidableEq, Repr

def DocumentError.message : DocumentError → String
  | .unreadable => "failed to read routes"
  | .malformed => "failed to parse routes: the text is not JSON"
  | .notRoutes =>
    "failed to parse routes: data did not match any variant of untagged enum RouteDocument"

namespace Document

open Json

/-- The values of fields, given by name or in order. -/
def fields? (names : List String) : Value → Option (List (Option Value))
  | .array items =>
    if items.length ≤ names.length then
      some (items.map some ++ List.replicate (names.length - items.length) none)
    else none
  | .object members =>
    names.mapM fun name =>
      match members.filter (·.1 == name) with
      | [] => some none
      | [(_, v)] => some (some v)
      | _ => none
  | _ => none

/-- A field that is left out has the value that every field has at first. -/
def orDefault {α : Type} (decode? : Value → Option α) (first : α) : Option Value → Option α
  | none => some first
  | some v => decode? v

def method? (v : Value) : Option Method := do (Method.parse (← v.string?)).toOption

def methods? (v : Value) : Option (List Method) := do (← v.items?).mapM method?

/-- Arguments by name. A list stands for no arguments. -/
def args? : Value → Option (Dict String Value)
  | .object members => some (.ofList (Value.settledMembers members))
  | .array _ => some .empty
  | _ => none

def endpoint? (v : Value) : Option RouteEndpoint := do
  let [methods, args] ← fields? ["methods", "args"] v | none
  return ⟨← orDefault methods? [] methods, ← orDefault args? .empty args⟩

def endpoints? (v : Value) : Option (List RouteEndpoint) := do (← v.items?).mapM endpoint?

def definition? (v : Value) : Option RouteDefinition := do
  let [ns, methods, endpoints] ← fields? ["namespace", "methods", "endpoints"] v | none
  return {
    ns := ← orDefault Value.string? "" ns
    methods := ← orDefault methods? [] methods
    endpoints := ← orDefault endpoints? [] endpoints }

/-- Every member as a route. The last of those with one name counts, but all have to be
definitions. -/
def routes? (members : List (String × Value)) : Option RouteMap := do
  return .ofList (← members.mapM fun (route, v) => (definition? v).map (route, ·))

/-- The routes of an index. -/
def index? (members : List (String × Value)) : Option RouteMap :=
  match members.filter (·.1 == "routes") with
  | [(_, .object routes)] => routes? routes
  | _ => none

/-- An object that is no index may still hold routes itself. -/
def ofValue? : Value → Option RouteMap
  | .object members => (index? members).or (routes? members)
  | _ => none

end Document

/-- The routes of a document. What its value is counts before what comes after it. -/
def RouteMap.ofText (text : String) : Except DocumentError RouteMap :=
  match Json.Value.readPrefix? Json.levelLimit text.toList with
  | none => .error .malformed
  | some (v, rest) =>
    match Document.ofValue? v with
    | none => .error .notRoutes
    | some routes => if (Json.skipSpace rest).isEmpty then .ok routes else .error .malformed

/-- The routes of a file, which may be missing or hold no text. -/
def RouteMap.ofFile (content : Option ByteArray) : Except DocumentError RouteMap :=
  match content.bind String.fromUTF8? with
  | some text => RouteMap.ofText text
  | none => .error .unreadable

end RestRoutes
