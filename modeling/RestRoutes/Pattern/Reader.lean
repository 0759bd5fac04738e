import RestRoutes.Pattern.Expr
import RestRoutes.Text.Age
import RestRoutes.Text.Blank
import RestRoutes.Text.Cut
import RestRoutes.Text.Recent

/-!
Reading patterns. `Expr.read` walks the text once and keeps the open groups on a stack. Where the
extended flag is set, blanks and comments between the parts of a pattern do not count.
-/
namespace RestRoutes.Pattern

/-- Characters up to the first that satisfies `stop`. In extended text, blanks and comments are
passed over; `comment` says whether the text starts inside one. -/
def scan (extended : Bool) (stop : Char → Bool) (comment : Bool) :
    List Char → List Char × List Char
  | [] => ([], [])
  | c :: cs =>
    if extended && comment then scan extended stop (c != '\n') cs
    else if extended && isBlank c then scan extended stop false cs
    else if extended && c == '#' then scan extended stop true cs
    else if stop c then ([], c :: cs)
    else
      let (found, rest) := scan extended stop false cs
      (c :: found, rest)

/-- Passes over blanks and comments in extended text. -/
def skip (extended : Bool) (cs : List Char) : List Char :=
  (scan extended (fun _ => true) false cs).2

/-- The next character that may end a range. Of a comment only the first sign is passed over, and of
several comments only the first. -/
def peekPast (extended : Bool) (cs : List Char) : Option Char :=
  if extended then
    match go false cs with
    | some c => some c
    | none => cs.head?
  else cs.head?
where
  go (comment : Bool) : List Char → Option Char
    | [] => none
    | c :: cs =>
      if isBlank c then go comment cs
      else if !comment && c == '#' then go true cs
      else some c

def isDigit (c : Char) : Bool := '0' ≤ c && c ≤ '9'

def hexValue? (c : Char) : Option Nat :=
  if isDigit c then some (c.toNat - '0'.toNat)
  else if 'a' ≤ c && c ≤ 'f' then some (c.toNat - 'a'.toNat + 10)
  else if 'A' ≤ c && c ≤ 'F' then some (c.toNat - 'A'.toNat + 10)
  else none

/-- The character of a code that is given in hexadecimal digits. -/
def charOfHex (digits : List Char) : Except Flaw Char := do
  let some values := digits.mapM hexValue? | throw .badCode
  if values.isEmpty then throw .badCode
  let code := values.foldl (fun n d => 16 * n + d) 0
  if code.isValidChar then return Char.ofNat code
  throw .badCode

/-- A fixed number of characters, with what extended text puts between them. -/
def takeFixed (extended : Bool) : Nat → List Char → Except Flaw (List Char × List Char)
  | 0, cs => .ok ([], cs)
  | _ + 1, [] => .error .unfinishedEscape
  | n + 1, c :: cs => do
    let (found, rest) ← takeFixed extended n (skip extended cs)
    return (c :: found, rest)

/-- The text up to a closing brace. -/
def readBraced (extended : Bool) (cs : List Char) : Except Flaw (List Char × List Char) :=
  match scan extended (· == '}') false cs with
  | (_, []) => .error .unfinishedEscape
  | (found, _ :: rest) => .ok (found, rest)

/-- A character given by `size` hexadecimal digits, or by any number of them in braces. -/
def readHex (extended : Bool) (size : Nat) (cs : List Char) : Except Flaw (Char × List Char) := do
  match skip extended cs with
  | [] => throw .unfinishedEscape
  | '{' :: cs =>
    let (digits, rest) ← readBraced extended cs
    return (← charOfHex digits, skip extended rest)
  | cs =>
    let (digits, rest) ← takeFixed extended size cs
    return (← charOfHex digits, rest)

/-! Properties -/

/-- Lower case without spaces, hyphens, underscores, a leading "is" and anything outside ASCII. The
name of a removed property is the one that keeps its "is". -/
def normalName (name : List Char) : String :=
  let simple (cs : List Char) : List Char :=
    (cs.filter fun c => c != ' ' && c != '_' && c != '-' && c.toNat < 0x80).map Char.toLower
  match name with
  | i :: s :: rest =>
    if (i == 'i' || i == 'I') && (s == 's' || s == 'S') then
      if simple rest = ['c'] then "isc" else String.ofList (simple rest)
    else String.ofList (simple name)
  | _ => String.ofList (simple name)

/-- A property that is named alone: one that characters have or lack, a category or a script. Three
names of categories are also names of other properties. -/
def plainProperty? (name : String) : Option CodeSet :=
  let property := if ["cf", "sc", "lc"].contains name then none else Property.ofName? name
  property.or ((Category.ofName? name).or (Script.ofName? name))

def valuedProperty? (name value : String) : Option CodeSet :=
  if name = "gc" ∨ name = "generalcategory" then Category.ofName? value
  else if name = "sc" ∨ name = "script" then Script.ofName? value
  else if name = "scx" ∨ name = "scriptextensions" then Script.extensionOfName? value
  else if name = "age" then Age.ofName? value
  else if name = "gcb" ∨ name = "graphemeclusterbreak" then Break.find? Break.clusterParts value
  else if name = "wb" ∨ name = "wordbreak" then Break.find? Break.wordParts value
  else if name = "sb" ∨ name = "sentencebreak" then Break.find? Break.sentenceParts value
  else none

/-- The text between the braces of a property, and whether it excludes a value. -/
def property? (text : List Char) : Option (CodeSet × Bool) :=
  match cutAt? ['!', '='] text with
  | some (name, value) =>
    (valuedProperty? (normalName name) (normalName value)).map fun members => (members, true)
  | none =>
    let members := match (cutAt? [':'] text).or (cutAt? ['='] text) with
      | some (name, value) => valuedProperty? (normalName name) (normalName value)
      | none => plainProperty? (normalName text)
    members.map fun members => (members, false)

/-- The name of a property: one character, or any text in braces. -/
def readPropertyName (extended : Bool) (cs : List Char) : Except Flaw (List Char × List Char) :=
  match skip extended cs with
  | [] => .error .unfinishedEscape
  | '{' :: cs => readBraced extended cs
  | '\\' :: _ => .error .unfinishedEscape
  | c :: cs => .ok ([c], skip extended cs)

/-- The characters that have a property, or those that lack it. -/
def readProperty (extended negated : Bool) (cs : List Char) :
    Except Flaw (Expr × List Char) := do
  let (name, rest) ← readPropertyName extended cs
  match property? name with
  | some (members, excluded) =>
    return (.charClass (.property members (negated != excluded)), rest)
  | none => throw (.unknownProperty (String.ofList name))

/-! Escapes -/

def isMeta (c : Char) : Bool := "\\.+*?()|[]\x7b\x7d^$#&-~".toList.contains c

/-- A backslash takes every special meaning away from punctuation, but for angle brackets. -/
def isEscapable (c : Char) : Bool :=
  isMeta c || (c.toNat < 0x80 && !c.isAlphanum && c != '<' && c != '>')

def isBoundaryChar (c : Char) : Bool := c.isAlpha || c == '-'

def boundaryOfName? : String → Option Anchor
  | "start" => some .wordStart
  | "end" => some .wordEnd
  | "start-half" => some .wordStartHalf
  | "end-half" => some .wordEndHalf
  | _ => none

/-- The name in braces after a word boundary. Anything that cannot be one is left for a count. -/
def readBoundary (extended : Bool) (cs : List Char) : Except Flaw (Anchor × List Char) := do
  let '{' :: inner := cs | return (.boundary, cs)
  match skip extended inner with
  | [] => throw .unknownBoundary
  | c :: _ =>
    if !isBoundaryChar c then return (.boundary, cs)
    let (name, rest) := scan extended (!isBoundaryChar ·) false inner
    let '}' :: rest := rest | throw .unknownBoundary
    match boundaryOfName? (String.ofList name) with
    | some a => return (a, rest)
    | none => throw .unknownBoundary

/-- What follows a backslash. -/
def readEscape (extended : Bool) : List Char → Except Flaw (Expr × List Char)
  | [] => .error .unfinishedEscape
  | c :: cs => do
    if isDigit c then throw .backreference
    match c with
    | 'x' =>
      let (d, rest) ← readHex extended 2 cs
      return (.char d ((skip extended cs).head? != some '{'), rest)
    | 'u' =>
      let (d, rest) ← readHex extended 4 cs
      return (.char d false, rest)
    | 'U' =>
      let (d, rest) ← readHex extended 8 cs
      return (.char d false, rest)
    | 'p' => readProperty extended false cs
    | 'P' => readProperty extended true cs
    | 'd' => return (.charClass (.shorthand .digit false), cs)
    | 'D' => return (.charClass (.shorthand .digit true), cs)
    | 's' => return (.charClass (.shorthand .space false), cs)
    | 'S' => return (.charClass (.shorthand .space true), cs)
    | 'w' => return (.charClass (.shorthand .word false), cs)
    | 'W' => return (.charClass (.shorthand .word true), cs)
    | 'a' => return (.char '\x07' false, cs)
    | 'f' => return (.char '\x0C' false, cs)
    | 't' => return (.char '\t' false, cs)
    | 'n' => return (.char '\n' false, cs)
    | 'r' => return (.char '\r' false, cs)
    | 'v' => return (.char '\x0B' false, cs)
    | 'A' => return (.anchor .textStart, cs)
    | 'z' => return (.anchor .textEnd, cs)
    | 'b' =>
      let (a, rest) ← readBoundary extended cs
      return (.anchor a, rest)
    | 'B' => return (.anchor .notBoundary, cs)
    | '<' => return (.anchor .wordStart, cs)
    | '>' => return (.anchor .wordEnd, cs)
    | c => if isEscapable c then return (.char c false, cs) else throw (.unknownEscape c)

/-! Classes in brackets -/

/-- Members of a class that is written with colons. -/
def asciiMembers? : String → Option CodeSet
  | "alnum" => some ⟨[(0x30, 0x39), (0x41, 0x5A), (0x61, 0x7A)]⟩
  | "alpha" => some ⟨[(0x41, 0x5A), (0x61, 0x7A)]⟩
  | "ascii" => some ⟨[(0x00, 0x7F)]⟩
  | "blank" => some ⟨[(0x09, 0x09), (0x20, 0x20)]⟩
  | "cntrl" => some ⟨[(0x00, 0x1F), (0x7F, 0x7F)]⟩
  | "digit" => some ⟨[(0x30, 0x39)]⟩
  | "graph" => some ⟨[(0x21, 0x7E)]⟩
  | "lower" => some ⟨[(0x61, 0x7A)]⟩
  | "print" => some ⟨[(0x20, 0x7E)]⟩
  | "punct" => some ⟨[(0x21, 0x2F), (0x3A, 0x40), (0x5B, 0x60), (0x7B, 0x7E)]⟩
  | "space" => some ⟨[(0x09, 0x0D), (0x20, 0x20)]⟩
  | "upper" => some ⟨[(0x41, 0x5A)]⟩
  | "word" => some ⟨[(0x30, 0x39), (0x41, 0x5A), (0x5F, 0x5F), (0x61, 0x7A)]⟩
  | "xdigit" => some ⟨[(0x30, 0x39), (0x41, 0x46), (0x61, 0x66)]⟩
  | _ => none

/-- The class of a name, from before the name. -/
def namedClass? (negated : Bool) (cs : List Char) : Option (ClassExpr × List Char) :=
  match cs.dropWhile (· != ':') with
  | ':' :: ']' :: rest =>
    (asciiMembers? (String.ofList (cs.takeWhile (· != ':')))).map fun members =>
      (.ascii members negated, rest)
  | _ => none

/-- A class written with colons, from after its bracket. -/
def asciiClass? : List Char → Option (ClassExpr × List Char)
  | ':' :: '^' :: cs => namedClass? true cs
  | ':' :: cs => namedClass? false cs
  | _ => none

/-- An unfinished class: what was read before it opened, or an operator and its left side. -/
inductive ClassFrame where
  | opened (outer : List ClassExpr) (negated : Bool)
  | pending (op : ClassOp) (lhs : ClassExpr)

/-- Finishes the operator that waits for its right side. -/
def applyPending (stack : List ClassFrame) (rhs : ClassExpr) : ClassExpr × List ClassFrame :=
  match stack with
  | .pending op lhs :: stack => (.combine op lhs rhs, stack)
  | stack => (rhs, stack)

/-- A sign that negates a class. -/
def readNegation (extended : Bool) (cs : List Char) : Bool × List Char :=
  match skip extended cs with
  | '^' :: cs => (true, skip extended cs)
  | cs => (false, cs)

/-- What follows an opening bracket: a negation, hyphens and a bracket that stand for themselves. -/
def readClassOpen (extended : Bool) (cs : List Char) :
    Except Flaw (Bool × List ClassExpr × List Char) := do
  let (negated, cs) := readNegation extended cs
  let (hyphens, cs) := scan extended (· != '-') false cs
  let items := hyphens.map ClassExpr.char
  match cs with
  | [] => throw .unclosedClass
  | ']' :: rest =>
    if items.isEmpty then
      match skip extended rest with
      | [] => throw .unclosedClass
      | rest => return (negated, [.char ']'], rest)
    else return (negated, items, cs)
  | cs => return (negated, items, cs)

/-- One character or escape of a class. -/
def readClassItem (extended : Bool) : List Char → Except Flaw (Expr × List Char)
  | [] => .error .unclosedClass
  | '\\' :: cs => readEscape extended cs
  | c :: cs => .ok (.char c false, cs)

def itemOf : Expr → Except Flaw ClassExpr
  | .char c _ => .ok (.char c)
  | .charClass c => .ok c
  | _ => .error .badClassItem

def endOf : Expr → Except Flaw Char
  | .char c _ => .ok c
  | _ => .error .badRange

/-- The item that was read, or the range that begins with it. A hyphen before the closing bracket or
another hyphen makes no range. -/
def readRangeFrom (extended : Bool) (first : Expr) (cs : List Char) :
    Except Flaw (ClassExpr × List Char) := do
  match skip extended cs with
  | [] => throw .unclosedClass
  | '-' :: cs =>
    let next := peekPast extended cs
    if next == some ']' || next == some '-' then return (← itemOf first, '-' :: cs)
    let (second, rest) ← readClassItem extended (skip extended cs)
    let lo ← endOf first
    let hi ← endOf second
    if lo ≤ hi then return (.range lo hi, rest)
    throw .rangeOutOfOrder
  | cs => return (← itemOf first, cs)

def readClassRange (extended : Bool) (cs : List Char) : Except Flaw (ClassExpr × List Char) := do
  let (first, cs) ← readClassItem extended cs
  readRangeFrom extended first cs

/-- Reads to the end of the outermost class. `items` holds what the innermost one has so far, last
first. Every step uses up text, so its length bounds their number. -/
def readClass (extended : Bool) : Nat → List ClassFrame → List ClassExpr → List Char →
    Except Flaw (ClassExpr × List Char)
  | 0, _, _, _ => .error .unclosedClass
  | steps + 1, stack, items, cs => do
    let operator (op : ClassOp) (rest : List Char) := do
      let (lhs, stack) := applyPending stack (.ofItems items.reverse)
      readClass extended steps (.pending op lhs :: stack) [] rest
    match skip extended cs with
    | [] => throw .unclosedClass
    | '[' :: cs =>
      match asciiClass? cs with
      | some (c, rest) => readClass extended steps stack (c :: items) rest
      | none =>
        let (negated, inner, rest) ← readClassOpen extended cs
        readClass extended steps (.opened items negated :: stack) inner.reverse rest
    | ']' :: cs =>
      match applyPending stack (.ofItems items.reverse) with
      | (body, .opened outer negated :: stack) =>
        if stack.isEmpty then return (.bracketed negated body, cs)
        readClass extended steps stack (.bracketed negated body :: outer) cs
      | _ => throw .unclosedClass
    | '&' :: '&' :: rest => operator .intersection rest
    | '-' :: '-' :: rest => operator .difference rest
    | '~' :: '~' :: rest => operator .symmetricDifference rest
    | cs =>
      let (item, rest) ← readClassRange extended cs
      readClass extended steps stack (item :: items) rest

/-- A class from after its bracket. -/
def readBracketed (extended : Bool) (cs : List Char) : Except Flaw (ClassExpr × List Char) := do
  let (negated, items, rest) ← readClassOpen extended cs
  readClass extended (rest.length + 1) [.opened [] negated] items.reverse rest

/-! Groups -/

def flagOf? : Char → Option Flag
  | 'i' => some .caseless
  | 'm' => some .multiLine
  | 's' => some .dotAll
  | 'U' => some .swapGreed
  | 'u' => some .unicode
  | 'R' => some .crlf
  | 'x' => some .extended
  | _ => none

/-- Flags up to a colon or a closing parenthesis. Those after a minus are cleared. -/
def readFlags (on : Bool) (seen : List FlagChange) :
    List Char → Except Flaw (List FlagChange × List Char)
  | [] => .error .unclosedGroup
  | '-' :: cs =>
    match on, cs with
    | false, _ => .error .repeatedFlag
    | true, c :: _ =>
      if c == ':' || c == ')' then .error .danglingNegation else readFlags false seen cs
    | true, [] => .error .unclosedGroup
  | c :: cs =>
    if c == ':' || c == ')' then .ok (seen.reverse, c :: cs)
    else match flagOf? c with
      | none => .error (.unknownFlag c)
      | some f =>
        if seen.any (·.1 == f) then .error .repeatedFlag else readFlags on ((f, on) :: seen) cs

def startsGroupName (c : Char) : Bool := c == '_' || Recent.isAlphabetic c.toNat

def continuesGroupName (c : Char) : Bool :=
  startsGroupName c || c == '.' || c == '[' || c == ']' || Recent.isNumber c.toNat

/-- The name of a group and the text after its angle bracket. -/
def readGroupName (cs : List Char) : Except Flaw (String × List Char) :=
  match cs.takeWhile (· != '>'), cs.dropWhile (· != '>') with
  | c :: name, _ :: rest =>
    if startsGroupName c && name.all continuesGroupName then .ok (String.ofList (c :: name), rest)
    else .error .badGroupName
  | _, _ => .error .badGroupName

/-- What a parenthesis opens. -/
inductive Opening where
  | flags (changes : List FlagChange)
  | group (changes : List FlagChange)
  | numbered (name : Option String)

/-- What flags are for, by the character that ends them. -/
def flagsBefore (changes : List FlagChange) (c : Char) : Except Flaw Opening :=
  if c != ')' then .ok (.group changes)
  else if changes.isEmpty then .error .emptyFlags
  else .ok (.flags changes)

/-- Flags, alone or for a group. -/
def readFlagged (cs : List Char) : Except Flaw (Opening × List Char) := do
  let (changes, c :: rest) ← readFlags true [] cs | throw .unclosedGroup
  return (← flagsBefore changes c, rest)

/-- What follows an opening parenthesis and a question mark. -/
def readMarked (cs : List Char) : Except Flaw (Opening × List Char) := do
  match cs with
  | '=' :: _ | '!' :: _ | '<' :: '=' :: _ | '<' :: '!' :: _ => throw .lookAround
  | 'P' :: '<' :: cs | '<' :: cs =>
    let (name, rest) ← readGroupName cs
    return (.numbered (some name), rest)
  | cs => readFlagged cs

/-- What follows an opening parenthesis. -/
def readOpening (extended : Bool) (cs : List Char) : Except Flaw (Opening × List Char) :=
  match skip extended cs with
  | '?' :: cs => readMarked cs
  | cs => .ok (.numbered none, cs)

/-! Counts -/

/-- The bounds of 32 bits are the bounds of a count. -/
def readDecimal (extended : Bool) (cs : List Char) : Except Flaw Nat × List Char :=
  let (digits, rest) := scan extended (!isDigit ·) false (cs.dropWhile isBlank)
  let value := digits.foldl (fun n d => 10 * n + (d.toNat - '0'.toNat)) 0
  let result := if digits.isEmpty || value ≥ 1 <<< 32 then .error .badCount else .ok value
  (result, skip extended (rest.dropWhile isBlank))

/-- A mark that makes a repetition lazy. -/
def readLazy : List Char → Bool × List Char
  | '?' :: cs => (true, cs)
  | cs => (false, cs)

/-- The upper bound of a count, if it has one, and the text after the brace that closes it. -/
def readMost (extended : Bool) (cs : List Char) : Except Flaw (Option Nat × List Char) := do
  match skip extended cs with
  | '}' :: rest => return (none, rest)
  | cs =>
    let (most, rest) := readDecimal extended cs
    let max ← most
    let '}' :: rest := rest | throw .badCount
    return (some max, rest)

/-- The bounds of a count, and the text after the brace that closes it. -/
def readBounds (extended : Bool) (cs : List Char) :
    Except Flaw (Nat × Option Nat × List Char) := do
  let (least, cs) := readDecimal extended (skip extended cs)
  let min ← least
  match cs with
  | ',' :: cs =>
    let (max, rest) ← readMost extended cs
    return (min, max, rest)
  | '}' :: rest => return (min, some min, rest)
  | _ => throw .badCount

/-- A count from after its brace. -/
def readCount (extended : Bool) (cs : List Char) :
    Except Flaw (Nat × Option Nat × List Char) := do
  let (min, max, rest) ← readBounds extended cs
  if max.any (· < min) then throw .countsOutOfOrder
  return (min, max, skip extended rest)

/-! Expressions -/

/-- A group that is still open: what stands before it, its flags and number, and its finished
branches. -/
structure Frame where
  before : List Expr
  changes : List FlagChange
  number : Option Nat
  /-- Whether the text around the group is extended. -/
  extended : Bool
  branches : List Expr

/-- How far the reader has come. Lists hold what was read last first. -/
structure State where
  frames : List Frame
  /-- Finished branches of the innermost group. -/
  branches : List Expr
  /-- The branch being read. -/
  items : List Expr
  extended : Bool
  /-- How many groups have got a number. -/
  numbered : Nat
  names : List String

def State.start : State := ⟨[], [], [], false, 0, []⟩

namespace State

def push (s : State) (e : Expr) : State := { s with items := e :: s.items }

/-- The innermost group as read so far. -/
def body (s : State) : Expr := .ofBranches ((Expr.ofItems s.items.reverse :: s.branches).reverse)

def branch (s : State) : State :=
  { s with branches := Expr.ofItems s.items.reverse :: s.branches, items := [] }

def enter (s : State) (changes : List FlagChange) (number : Option Nat) : State :=
  { s with
    frames := ⟨s.items, changes, number, s.extended, s.branches⟩ :: s.frames
    branches := []
    items := []
    extended := (lastChange? .extended changes).getD s.extended }

def leave (s : State) : Except Flaw State :=
  match s.frames with
  | [] => .error .unopenedGroup
  | f :: frames =>
    .ok { s with
      frames := frames
      branches := f.branches
      items := .group f.changes f.number s.body :: f.before
      extended := f.extended }

/-- Repeats the item read last. -/
def repeatLast (s : State) (min : Nat) (max : Option Nat) (lazy : Bool) : Except Flaw State :=
  match s.items with
  | e :: items =>
    if e.repeatable then .ok { s with items := .repetition e min max lazy :: items }
    else .error .nothingToRepeat
  | [] => .error .nothingToRepeat

/-- Opens a group that gets the next number, and a name if it has one. -/
def enterNumbered (s : State) (name : Option String) : Except Flaw State := do
  if name.any s.names.contains then throw (.duplicateGroupName (name.getD ""))
  let s := { s with numbered := s.numbered + 1, names := name.toList ++ s.names }
  return s.enter [] (some s.numbered)

/-- What an opening parenthesis does. -/
def opened (s : State) : Opening → Except Flaw State
  | .flags changes =>
    let s := s.push (.flags changes)
    .ok { s with extended := (lastChange? .extended changes).getD s.extended }
  | .group changes => .ok (s.enter changes none)
  | .numbered name => s.enterNumbered name

end State

/-- Reads one part of a pattern, from its first character. -/
def step (s : State) : Char → List Char → Except Flaw (State × List Char)
  | '(', cs => do
    let (opening, rest) ← readOpening s.extended cs
    return (← s.opened opening, rest)
  | ')', cs => return (← s.leave, cs)
  | '|', cs => return (s.branch, cs)
  | '[', cs => do
    let (c, rest) ← readBracketed s.extended cs
    return (s.push (.charClass c), rest)
  | '?', cs => repeated 0 (some 1) cs
  | '*', cs => repeated 0 none cs
  | '+', cs => repeated 1 none cs
  | '{', cs => do
    let (min, max, rest) ← readCount s.extended cs
    repeated min max rest
  | '\\', cs => do
    let (e, rest) ← readEscape s.extended cs
    return (s.push e, rest)
  | '.', cs => return (s.push .dot, cs)
  | '^', cs => return (s.push (.anchor .lineStart), cs)
  | '$', cs => return (s.push (.anchor .lineEnd), cs)
  | c, cs => return (s.push (.char c false), cs)
where
  repeated (min : Nat) (max : Option Nat) (cs : List Char) := do
    let (lazy, rest) := readLazy cs
    return (← s.repeatLast min max lazy, rest)

/-- Reads to the end. Every step uses up text, so its length bounds their number. -/
def run : Nat → State → List Char → Except Flaw Expr
  | 0, _, _ => .error .unclosedGroup
  | steps + 1, s, cs =>
    match skip s.extended cs with
    | [] => if s.frames.isEmpty then .ok s.body else .error .unclosedGroup
    | c :: cs => do
      let (s, rest) ← step s c cs
      run steps s rest

/-- How many levels an expression may have. -/
def heightLimit : Nat := 250

def Expr.read (cs : List Char) : Except Flaw Expr := do
  let e ← run (cs.length + 1) .start cs
  if e.height ≤ heightLimit then return e
  throw .nestedTooDeeply

end RestRoutes.Pattern
