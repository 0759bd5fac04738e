import RestRoutes.Text.CaseMap
import RestRoutes.Text.Recent

/-!
Case conversion of whole texts. Upper-casing maps each character on its own. Lower-casing does too,
but for the capital sigma, whose small form depends on whether it ends a word.
-/
namespace RestRoutes

/-- The nearest character that is not case-ignorable is a cased one. -/
def reachesCased (cs : List Char) : Bool :=
  match cs.dropWhile fun c => Recent.isCaseIgnorable c.toNat with
  | [] => false
  | c :: _ => Recent.isCased c.toNat

/-- Sigma ends a word when a cased character comes before it and none after. -/
def lowerSigma (before after : List Char) : Char :=
  if reachesCased before && !reachesCased after then 'ς' else 'σ'

/-- `before` holds the characters passed, last first. -/
def lowerFrom (before : List Char) : List Char → List Char
  | [] => []
  | c :: cs =>
    (if c = 'Σ' then [lowerSigma before cs] else CaseMap.lower c) ++ lowerFrom (c :: before) cs

def lowerChars (cs : List Char) : List Char := lowerFrom [] cs

def toLower (s : String) : String := String.ofList (lowerChars s.toList)

end RestRoutes
