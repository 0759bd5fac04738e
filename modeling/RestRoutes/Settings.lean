import RestRoutes.Text.Blank

/-!
Choices that govern how routes are built. Each has a value that may be overridden, may come from the
surroundings as text, and has a default; they count in this order (`Switch.value`).
-/
namespace RestRoutes

structure Options where
  /-- A value given to a literal position also fills its only dynamic child. -/
  childPromotion : Bool := true
  failOnAliasConflict : Bool := false
  /-- Patterns that cannot be used are errors. -/
  strictPatterns : Bool := false
deriving DecidableEq, Repr

/-- A choice between yes and no, and what has been said about it. -/
structure Switch where
  override : Option Bool := none
  ambient : Option String := none
  fallback : Bool
deriving DecidableEq, Repr

namespace Switch

/-- What a text says, in either case and with blanks around it. -/
def parse? (text : String) : Option Bool :=
  let word := trim text
  if ["1", "true", "yes", "on"].any (equalAsciiCase word) then some true
  else if ["0", "false", "no", "off"].any (equalAsciiCase word) then some false
  else none

def value (s : Switch) : Bool := (s.override.or (s.ambient.bind parse?)).getD s.fallback

end Switch

inductive Setting where
  | childPromotion
  | failOnAliasConflict
  | strictPatterns
deriving DecidableEq, Repr

/-- A switch for each choice. -/
structure Settings where
  childPromotion : Switch := ⟨none, none, true⟩
  failOnAliasConflict : Switch := ⟨none, none, false⟩
  strictPatterns : Switch := ⟨none, none, false⟩
deriving DecidableEq, Repr

namespace Settings

def modify (s : Settings) (f : Switch → Switch) : Setting → Settings
  | .childPromotion => { s with childPromotion := f s.childPromotion }
  | .failOnAliasConflict => { s with failOnAliasConflict := f s.failOnAliasConflict }
  | .strictPatterns => { s with strictPatterns := f s.strictPatterns }

def setAmbient (s : Settings) (setting : Setting) (text : Option String) : Settings :=
  s.modify (fun switch => { switch with ambient := text }) setting

def setOverride (s : Settings) (setting : Setting) (value : Option Bool) : Settings :=
  s.modify (fun switch => { switch with override := value }) setting

/-- The choices as they stand. -/
def options (s : Settings) : Options where
  childPromotion := s.childPromotion.value
  failOnAliasConflict := s.failOnAliasConflict.value
  strictPatterns := s.strictPatterns.value

example : ({} : Settings).options = {} := rfl

end Settings
end RestRoutes
