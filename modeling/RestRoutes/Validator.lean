import RestRoutes.Pattern
import RestRoutes.Text.Case

/-!
What a slot of a path accepts: any value, values in which a pattern is found, or one text in either
case. Equal validators accept the same values, as a validator is fixed by its kind and its source.
-/
namespace RestRoutes

/-- A pattern that cannot be used, and what is wrong with it. -/
structure InvalidPattern where
  pattern : String
  flaw : Pattern.Flaw
deriving DecidableEq, Repr

def InvalidPattern.message (e : InvalidPattern) : String :=
  s!"invalid pattern `{e.pattern}` in path component: {e.flaw.message}"

inductive Validator where
  | any
  | pattern (p : Pattern)
  | literal (text : String)
deriving DecidableEq

namespace Validator

/-- An empty pattern accepts any value. -/
def ofPattern (source : String) : Except InvalidPattern Validator :=
  if source.isEmpty then .ok .any
  else match Pattern.ofSource source with
    | .ok p => .ok (.pattern p)
    | .error flaw => .error ⟨source, flaw⟩

def accepts : Validator → String → Bool
  | .any, _ => true
  | .pattern p, value => p.accepts value
  | .literal text, value => toLower text == toLower value

/-- The pattern or text that is accepted. -/
def source : Validator → String
  | .any => ""
  | .pattern p => p.source
  | .literal text => text

def display : Validator → String
  | .any => "<any>"
  | .pattern p => s!"/{p.source}/"
  | .literal text => text

theorem literal_accepts_self (text : String) : (literal text).accepts text = true := by
  simp [accepts]

end Validator
end RestRoutes
