import RestRoutes.Group
import RestRoutes.Validator

/-!
What a component of a route stands for: its own text, or a value that is filled in. Components of
different routes share a position when their keys agree.
-/
namespace RestRoutes

inductive Segment where
  | literal (text : String)
  | dynamic (group : Group)
deriving DecidableEq, Repr

/-- What components that share a position have in common. The name of a group counts only when its
pattern says nothing. -/
inductive MergeKey where
  | literal (text : String)
  | pattern (text : String)
  | name (text : String)
deriving DecidableEq, Repr

namespace Segment

/-- A component is dynamic when a named group takes up all of it. -/
def classify (component : String) : Segment :=
  match Group.extract? component with
  | some found => if found.spans component then .dynamic found.group else .literal component
  | none => .literal component

def isDynamic : Segment → Bool
  | .literal _ => false
  | .dynamic _ => true

/-- The name under which values are given. -/
def label : Segment → String
  | .literal text => text
  | .dynamic group => group.name

def key : Segment → MergeKey
  | .literal text => .literal text
  | .dynamic group => if group.pattern.isEmpty then .name group.name else .pattern group.pattern

def validator : Segment → Except InvalidPattern Validator
  | .literal text => .ok (.literal text)
  | .dynamic group => Validator.ofPattern group.pattern

example : (classify "(?P<id>[0-9]+)").key = .pattern "[0-9]+" := by decide +kernel

end Segment
end RestRoutes
