import RestRoutes.Pattern.Footprint
import RestRoutes.Pattern.Meaning
import RestRoutes.Pattern.Reader
import RestRoutes.Pattern.Search

/-!
Patterns: a text together with the expression that it means. A pattern is made for whole values: its
text is read between a start and an end of text, in parentheses.
-/
namespace RestRoutes

namespace Pattern

/-- The text that is read for a pattern. -/
def anchored (source : String) : String := "^(?:" ++ source ++ ")$"

/-- The expression that a pattern means, unless it is no pattern or is too large. -/
def compile (source : String) : Except Flaw Regex := do
  let written ← Expr.read (anchored source).toList
  let (regex, _) ← written.regex .start
  if regex.fits then return regex
  throw .tooLarge

end Pattern

structure Pattern where
  source : String
  regex : Pattern.Regex
  compiled : Pattern.compile source = .ok regex

namespace Pattern

def ofSource (source : String) : Except Flaw Pattern :=
  match h : compile source with
  | .ok regex => .ok ⟨source, regex, h⟩
  | .error flaw => .error flaw

/-- Whether the pattern is found in a value. -/
def accepts (p : Pattern) (value : String) : Bool := p.regex.search value

theorem ext_source {p q : Pattern} (h : p.source = q.source) : p = q := by
  obtain ⟨s, r, hr⟩ := p
  obtain ⟨t, r', hr'⟩ := q
  cases h
  rw [hr] at hr'
  cases hr'
  rfl

/-- Patterns are the same if their texts are. -/
instance : DecidableEq Pattern := fun p q =>
  if h : p.source = q.source then .isTrue (ext_source h) else .isFalse fun e => h (e ▸ rfl)

theorem ofSource_eq_ok_iff {source : String} {p : Pattern} :
    ofSource source = .ok p ↔ p.source = source := by
  constructor
  · intro h
    unfold ofSource at h
    split at h
    · cases h; rfl
    · cases h
  · rintro rfl
    unfold ofSource
    split
    · exact congrArg Except.ok (ext_source rfl)
    · next h => rw [p.compiled] at h; cases h

theorem ofSource_eq_error_iff {source : String} {flaw : Flaw} :
    ofSource source = .error flaw ↔ compile source = .error flaw := by
  unfold ofSource
  split <;> next h => simp [h]

end Pattern
end RestRoutes
