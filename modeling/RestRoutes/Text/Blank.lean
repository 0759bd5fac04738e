import RestRoutes.Text.Property

/-!
Blank characters and trimming. `trim` drops the blanks at both ends of a text and no others.
-/
namespace RestRoutes

/-- Space characters and the controls that move to a new place or line. -/
def isBlank (c : Char) : Bool := Property.whiteSpace.contains c.toNat

def trimChars (cs : List Char) : List Char :=
  ((cs.dropWhile isBlank).reverse.dropWhile isBlank).reverse

def trim (s : String) : String := String.ofList (trimChars s.toList)

/-- Letters of the Latin alphabet without marks count as equal in both cases; nothing else does. -/
def equalAsciiCase (s t : String) : Bool :=
  s.toList.map Char.toLower == t.toList.map Char.toLower

example : trim "\u0085 a b \u3000" = "a b" := by decide +kernel

end RestRoutes
