import RestRoutes.Text.Case

/-!
Joined names. Underscores and hyphens separate words; the first word is written in lower case and
each further word begins with a capital. A text without a separator is left as it is.
-/
namespace RestRoutes

def isSeparator (c : Char) : Bool := c = '_' || c = '-'

/-- A separator counts only where a reader sees it on its own: no sign before it and no mark after
it makes one cluster with it. -/
def separates (before : Option Char) (c : Char) (after : Option Char) : Bool :=
  isSeparator c && !before.any (Recent.leads ·.toNat)
    && !after.any (Recent.attaches ·.toNat)

/-- The runs of characters between separators. `word` holds the unfinished one, last first. -/
def runsFrom (before : Option Char) (word : List Char) : List Char → List (List Char)
  | [] => [word.reverse]
  | c :: cs =>
    if separates before c cs.head? then word.reverse :: runsFrom (some c) [] cs
    else runsFrom (some c) (c :: word) cs

/-- The runs that are not empty. -/
def words (cs : List Char) : List (List Char) := (runsFrom none [] cs).filter (!·.isEmpty)

/-- The first characters in upper case, as many as `extent` says, and the rest in lower case. -/
def capitalizedBy (extent : List Char → Nat) (word : List Char) : List Char :=
  (word.take (extent word)).flatMap CaseMap.upper ++ lowerChars (word.drop (extent word))

def joinWords (extent : List Char → Nat) : List (List Char) → List Char
  | [] => []
  | first :: rest => lowerChars first ++ rest.flatMap (capitalizedBy extent)

/-- How far the capital of a word reaches is left open: to its first character, or to all that makes
one cluster with it. -/
def camelCaseBy (extent : List Char → Nat) (name : String) : String :=
  if name.toList.any isSeparator then String.ofList (joinWords extent (words name.toList))
  else name

/-- The capital is the first character of a word. -/
def camelCase (name : String) : String := camelCaseBy (fun _ => 1) name

theorem camelCaseBy_of_no_separator {extent : List Char → Nat} {name : String}
    (h : name.toList.any isSeparator = false) : camelCaseBy extent name = name := by
  simp [camelCaseBy, h]

example : camelCase "per_page" = "perPage" := by decide +kernel

end RestRoutes
