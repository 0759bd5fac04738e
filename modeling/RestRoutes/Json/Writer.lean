import RestRoutes.Json.Value

/-!
Writing JSON: `Value.compact` without any space, and `Value.pretty` with a line for each item and
member, two spaces for each level. Strings escape quotes, backslashes and control characters only.
-/
namespace RestRoutes.Json

def hexDigit (n : Nat) : Char := if n < 10 then Char.ofNat (48 + n) else Char.ofNat (87 + n)

def escape (c : Char) : List Char :=
  if c = '"' then ['\\', '"']
  else if c = '\\' then ['\\', '\\']
  else if c = '\x08' then ['\\', 'b']
  else if c = '\x0C' then ['\\', 'f']
  else if c = '\n' then ['\\', 'n']
  else if c = '\r' then ['\\', 'r']
  else if c = '\t' then ['\\', 't']
  else if c.toNat < 0x20 then
    ['\\', 'u', '0', '0', hexDigit (c.toNat / 16), hexDigit (c.toNat % 16)]
  else [c]

def quoted (s : String) : List Char := '"' :: s.toList.flatMap escape ++ ['"']

def Number.text : Number → List Char
  | .natural n => Nat.toDigits 10 n
  | .negative n => '-' :: Nat.toDigits 10 n
  | .double x => x.text

def boolText (b : Bool) : List Char := if b then "true".toList else "false".toList

namespace Value

mutual

def compact : Value → List Char
  | .null => "null".toList
  | .bool b => boolText b
  | .number n => n.text
  | .string s => quoted s
  | .array [] => ['[', ']']
  | .array (v :: vs) => '[' :: v.compact ++ compactItems vs
  | .object [] => ['{', '}']
  | .object ((k, v) :: ms) => '{' :: quoted k ++ ':' :: v.compact ++ compactMembers ms

/-- The items after the first one, and the closing bracket. -/
def compactItems : List Value → List Char
  | [] => [']']
  | v :: vs => ',' :: v.compact ++ compactItems vs

/-- The members after the first one, and the closing brace. -/
def compactMembers : List (String × Value) → List Char
  | [] => ['}']
  | (k, v) :: ms => ',' :: quoted k ++ ':' :: v.compact ++ compactMembers ms

end

/-- A new line, indented. -/
def newLine (level : Nat) : List Char := '\n' :: List.replicate (2 * level) ' '

mutual

/-- The text at a level of indentation. -/
def prettyAt (level : Nat) : Value → List Char
  | .null => "null".toList
  | .bool b => boolText b
  | .number n => n.text
  | .string s => quoted s
  | .array [] => ['[', ']']
  | .array (v :: vs) =>
    '[' :: newLine (level + 1) ++ v.prettyAt (level + 1) ++ prettyItems level vs
  | .object [] => ['{', '}']
  | .object ((k, v) :: ms) =>
    '{' :: newLine (level + 1) ++ quoted k ++ ':' :: ' ' :: v.prettyAt (level + 1) ++
      prettyMembers level ms

/-- The items after the first one, and the closing bracket. -/
def prettyItems (level : Nat) : List Value → List Char
  | [] => newLine level ++ [']']
  | v :: vs => ',' :: newLine (level + 1) ++ v.prettyAt (level + 1) ++ prettyItems level vs

/-- The members after the first one, and the closing brace. -/
def prettyMembers (level : Nat) : List (String × Value) → List Char
  | [] => newLine level ++ ['}']
  | (k, v) :: ms =>
    ',' :: newLine (level + 1) ++ quoted k ++ ':' :: ' ' :: v.prettyAt (level + 1) ++
      prettyMembers level ms

end

def compactText (v : Value) : String := String.ofList v.compact

def prettyText (v : Value) : String := String.ofList (v.prettyAt 0)

end Value
end RestRoutes.Json
