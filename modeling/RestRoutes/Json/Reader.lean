import RestRoutes.Json.Value

/-!
Reading JSON texts. Every reader takes the characters that remain and gives those after what it
read, or nothing if the text is not JSON. Numbers too large for a double are refused, and so are
halves of surrogate pairs and arrays and objects nested beyond a limit.
-/
namespace RestRoutes.Json

def isSpace (c : Char) : Bool := c == ' ' || c == '\n' || c == '\t' || c == '\r'

def skipSpace (cs : List Char) : List Char := cs.dropWhile isSpace

/-! Numbers -/

def digit? (c : Char) : Option Nat :=
  if '0' ≤ c ∧ c ≤ '9' then some (c.toNat - '0'.toNat) else none

def takeDigits : List Char → List Nat × List Char
  | [] => ([], [])
  | c :: cs =>
    match digit? c with
    | some d =>
      let (ds, rest) := takeDigits cs
      (d :: ds, rest)
    | none => ([], c :: cs)

/-- Appends digits to a number as long as it stays below 2 ^ 64, and counts those that are left. -/
def appendDigits (n : Nat) : List Nat → Nat × Nat
  | [] => (n, 0)
  | d :: ds => if 10 * n + d < 1 <<< 64 then appendDigits (10 * n + d) ds else (n, ds.length + 1)

/-- The digits after a point, if there is one. -/
def readFraction : List Char → Option (Option (List Nat) × List Char)
  | '.' :: cs =>
    match takeDigits cs with
    | ([], _) => none
    | (ds, rest) => some (some ds, rest)
  | cs => some (none, cs)

def readExponentDigits (negative : Bool) (cs : List Char) : Option (Option Int × List Char) :=
  match takeDigits cs with
  | ([], _) => none
  | (ds, rest) =>
    let e : Nat := ds.foldl (fun n d => 10 * n + d) 0
    some (some (if negative then -(e : Int) else e), rest)

def readExponent : List Char → Option (Option Int × List Char)
  | 'e' :: '-' :: cs | 'E' :: '-' :: cs => readExponentDigits true cs
  | 'e' :: '+' :: cs | 'E' :: '+' :: cs => readExponentDigits false cs
  | 'e' :: cs | 'E' :: cs => readExponentDigits false cs
  | cs => some (none, cs)

/-- A whole number of 64 bits. Negative zero is none. -/
def wholeNumber? (negative : Bool) (n : Nat) : Option Number :=
  if !negative then some (.natural n)
  else if 0 < n ∧ n ≤ 1 <<< 63 then some (.negative n)
  else none

/-- The value of a number's digits. Digits beyond 64 bits only move the point. -/
def numberOf (negative : Bool) (whole : List Nat) (fraction : Option (List Nat))
    (exponent : Option Int) : Option Number :=
  let (n, dropped) := appendDigits 0 whole
  let exact := if fraction.isNone && exponent.isNone && dropped == 0 then wholeNumber? negative n
    else none
  match exact with
  | some number => some number
  | none =>
    let places := fraction.getD []
    let (n, unread) := appendDigits n places
    let shift : Int := dropped - (places.length - unread : Nat) + exponent.getD 0
    (Binary64.ofDecimal? negative n shift).map .double

/-- The digits before the point. A zero stands alone. -/
def readWhole (cs : List Char) : Option (List Nat × List Char) :=
  match takeDigits cs with
  | ([], _) => none
  | (0 :: _ :: _, _) => none
  | (ds, rest) => some (ds, rest)

def readNumber (cs : List Char) : Option (Number × List Char) := do
  let (negative, cs) := match cs with
    | '-' :: cs => (true, cs)
    | cs => (false, cs)
  let (whole, cs) ← readWhole cs
  let (fraction, cs) ← readFraction cs
  let (exponent, cs) ← readExponent cs
  return (← numberOf negative whole fraction exponent, cs)

/-! Strings -/

def hexDigit? (c : Char) : Option Nat :=
  if '0' ≤ c ∧ c ≤ '9' then some (c.toNat - '0'.toNat)
  else if 'a' ≤ c ∧ c ≤ 'f' then some (c.toNat - 'a'.toNat + 10)
  else if 'A' ≤ c ∧ c ≤ 'F' then some (c.toNat - 'A'.toNat + 10)
  else none

/-- A UTF-16 unit written as four hexadecimal digits. -/
def unit? (a b c d : Char) : Option Nat := do
  return 0x1000 * (← hexDigit? a) + 0x100 * (← hexDigit? b) + 0x10 * (← hexDigit? c) +
    (← hexDigit? d)

def isHighSurrogate (unit : Nat) : Bool := 0xD800 ≤ unit && unit ≤ 0xDBFF

def isLowSurrogate (unit : Nat) : Bool := 0xDC00 ≤ unit && unit ≤ 0xDFFF

/-- The character that one letter after a backslash stands for. -/
def simpleEscape? : Char → Option Char
  | '"' => some '"'
  | '\\' => some '\\'
  | '/' => some '/'
  | 'b' => some '\x08'
  | 'f' => some '\x0C'
  | 'n' => some '\n'
  | 'r' => some '\r'
  | 't' => some '\t'
  | _ => none

/-- The characters up to the closing quote. -/
def readText : List Char → Option (List Char × List Char)
  | [] => none
  | '"' :: cs => some ([], cs)
  | '\\' :: 'u' :: a :: b :: c :: d :: cs => do
    let unit ← unit? a b c d
    if isHighSurrogate unit then
      match cs with
      | '\\' :: 'u' :: a :: b :: c :: d :: cs =>
        let low ← unit? a b c d
        if isLowSurrogate low then
          let (text, rest) ← readText cs
          return (Char.ofNat (0x10000 + 0x400 * (unit - 0xD800) + (low - 0xDC00)) :: text, rest)
        else none
      | _ => none
    else if isLowSurrogate unit then none
    else
      let (text, rest) ← readText cs
      return (Char.ofNat unit :: text, rest)
  | '\\' :: e :: cs => do
    let c ← simpleEscape? e
    let (text, rest) ← readText cs
    return (c :: text, rest)
  | c :: cs =>
    if c == '\\' || c.toNat < 0x20 then none
    else (readText cs).map fun (text, rest) => (c :: text, rest)

/-! Values -/

mutual

/-- A value after any space. `steps` bounds the calls inside calls, `levels` the arrays and objects
inside arrays and objects. -/
def readValue : (steps levels : Nat) → List Char → Option (Value × List Char)
  | 0, _, _ => none
  | steps + 1, levels, cs =>
    match skipSpace cs with
    | '[' :: cs =>
      match levels with
      | 0 => none
      | levels + 1 =>
        match skipSpace cs with
        | ']' :: rest => some (.array [], rest)
        | cs => do
          let (v, rest) ← readValue steps levels cs
          let (vs, rest) ← readItems steps levels rest
          return (.array (v :: vs), rest)
    | '{' :: cs =>
      match levels with
      | 0 => none
      | levels + 1 =>
        match skipSpace cs with
        | '}' :: rest => some (.object [], rest)
        | cs => do
          let (m, rest) ← readMember steps levels cs
          let (ms, rest) ← readMembers steps levels rest
          return (.object (m :: ms), rest)
    | '"' :: cs => (readText cs).map fun (text, rest) => (.string (String.ofList text), rest)
    | 'n' :: 'u' :: 'l' :: 'l' :: rest => some (.null, rest)
    | 't' :: 'r' :: 'u' :: 'e' :: rest => some (.bool true, rest)
    | 'f' :: 'a' :: 'l' :: 's' :: 'e' :: rest => some (.bool false, rest)
    | cs => (readNumber cs).map fun (n, rest) => (.number n, rest)

/-- The items after the first one, each behind a comma, up to the closing bracket. -/
def readItems : (steps levels : Nat) → List Char → Option (List Value × List Char)
  | 0, _, _ => none
  | steps + 1, levels, cs =>
    match skipSpace cs with
    | ']' :: rest => some ([], rest)
    | ',' :: cs => do
      let (v, rest) ← readValue steps levels cs
      let (vs, rest) ← readItems steps levels rest
      return (v :: vs, rest)
    | _ => none

/-- A name, a colon and a value. -/
def readMember : (steps levels : Nat) → List Char → Option ((String × Value) × List Char)
  | 0, _, _ => none
  | steps + 1, levels, cs => do
    let '"' :: cs := skipSpace cs | none
    let (name, rest) ← readText cs
    let ':' :: cs := skipSpace rest | none
    let (v, rest) ← readValue steps levels cs
    return ((String.ofList name, v), rest)

/-- The members after the first one, each behind a comma, up to the closing brace. -/
def readMembers : (steps levels : Nat) → List Char → Option (List (String × Value) × List Char)
  | 0, _, _ => none
  | steps + 1, levels, cs =>
    match skipSpace cs with
    | '}' :: rest => some ([], rest)
    | ',' :: cs => do
      let (m, rest) ← readMember steps levels cs
      let (ms, rest) ← readMembers steps levels rest
      return (m :: ms, rest)
    | _ => none

end

/-- How deeply arrays and objects may nest. -/
def levelLimit : Nat := 127

/-- The value that a text begins with, and the text after it. Every call inside another comes after
at least one more character, so the length bounds them. -/
def Value.readPrefix? (levels : Nat) (cs : List Char) : Option (Value × List Char) :=
  readValue (cs.length + 1) levels cs

/-- The value that a whole text stands for. -/
def Value.read? (levels : Nat) (text : String) : Option Value := do
  let (v, rest) ← readPrefix? levels text.toList
  if (skipSpace rest).isEmpty then return v
  none

example : Value.read? 2 "[1, \x7b\"a\": -2\x7d]" ==
    some (.array [.natural 1, .object [("a", .number (.negative 2))]]) := by decide +kernel

end RestRoutes.Json
