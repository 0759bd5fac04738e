import RestRoutes.Notice
import RestRoutes.Segment
import RestRoutes.Settings
import RestRoutes.Text.Cut

/-!
Components of a route, ready to be put into a tree: the text of each and what it accepts.
-/
namespace RestRoutes

structure Component where
  text : String
  validator : Validator
deriving DecidableEq

namespace Component

def segment (c : Component) : Segment := .classify c.text

/-- Whether the text opens a group somewhere. -/
def opensGroup (text : String) : Bool := (cutAt? ['(', '?'] text.toList).isSome

/-- A pattern that cannot be used accepts any value, unless patterns are taken strictly. -/
def ofText (options : Options) (route text : String) : Build Component := do
  let segment := Segment.classify text
  if !segment.isDynamic && opensGroup text then Logged.note (.mixedComponent route text)
  match segment.validator with
  | .ok validator => return ⟨text, validator⟩
  | .error cause =>
    if options.strictPatterns then throw (.invalidRoute route cause)
    Logged.note (.unusablePattern route text cause)
    return ⟨text, .any⟩

end Component
end RestRoutes
