import RestRoutes.Text.CodeSet

/-!
Patterns as written: characters, classes, anchors, counts, groups and alternatives, before any flag
has been applied. `Flaw` lists what can be wrong with a pattern.
-/
namespace RestRoutes.Pattern

/-- Why a text is no pattern. -/
inductive Flaw where
  | unclosedGroup
  | unopenedGroup
  | emptyFlags
  | unknownFlag (c : Char)
  | repeatedFlag
  | danglingNegation
  | lookAround
  | badGroupName
  | duplicateGroupName (name : String)
  | nothingToRepeat
  | badCount
  | countsOutOfOrder
  | unclosedClass
  | badClassItem
  | badRange
  | rangeOutOfOrder
  | unknownEscape (c : Char)
  | backreference
  | unfinishedEscape
  | badCode
  | unknownBoundary
  | unknownProperty (name : String)
  | nestedTooDeeply
  | partOfCharacter
  | propertyWithoutUnicode
  | tooLarge
deriving DecidableEq, Repr

def Flaw.message : Flaw → String
  | .unclosedGroup => "a group is not closed"
  | .unopenedGroup => "a parenthesis closes no group"
  | .emptyFlags => "a group of flags is empty"
  | .unknownFlag c => s!"no flag is written {c}"
  | .repeatedFlag => "a flag is given twice"
  | .danglingNegation => "a minus is followed by no flag"
  | .lookAround => "looking around is not supported"
  | .badGroupName => "a group has no valid name"
  | .duplicateGroupName name => s!"two groups are named {name}"
  | .nothingToRepeat => "there is nothing to repeat"
  | .badCount => "a count is not a number"
  | .countsOutOfOrder => "a count ends before it begins"
  | .unclosedClass => "a class is not closed"
  | .badClassItem => "a class holds something that is no character"
  | .badRange => "a range has an end that is no character"
  | .rangeOutOfOrder => "a range ends before it begins"
  | .unknownEscape c => s!"no escape is written {c}"
  | .backreference => "referring back is not supported"
  | .unfinishedEscape => "an escape is not finished"
  | .badCode => "a code is not that of a character"
  | .unknownBoundary => "no boundary has this name"
  | .unknownProperty name => s!"no property is named {name}"
  | .nestedTooDeeply => "the pattern is nested too deeply"
  | .partOfCharacter => "the pattern could match part of a character"
  | .propertyWithoutUnicode => "a property is used where characters are bytes"
  | .tooLarge => "the pattern is too large"

inductive Flag where
  | caseless
  | multiLine
  | dotAll
  | swapGreed
  | unicode
  | crlf
  | extended
deriving DecidableEq, Repr

/-- A flag to set, or to clear. -/
abbrev FlagChange := Flag × Bool

/-- The last change of a flag in a list, if the list has one. -/
def lastChange? (f : Flag) (changes : List FlagChange) : Option Bool :=
  (changes.reverse.find? fun change => change.1 == f).map (·.2)

/-- Places between characters, as written. -/
inductive Anchor where
  | lineStart
  | lineEnd
  | textStart
  | textEnd
  | boundary
  | notBoundary
  | wordStart
  | wordEnd
  | wordStartHalf
  | wordEndHalf
deriving DecidableEq, Repr

/-- Classes that one letter names. -/
inductive Shorthand where
  | digit
  | space
  | word
deriving DecidableEq, Repr

/-- Ways to combine two classes. -/
inductive ClassOp where
  | intersection
  | difference
  | symmetricDifference
deriving DecidableEq, Repr

/-- What stands between brackets. -/
inductive ClassExpr where
  | char (c : Char)
  | range (lo hi : Char)
  | ascii (members : CodeSet) (negated : Bool)
  | shorthand (kind : Shorthand) (negated : Bool)
  | property (members : CodeSet) (negated : Bool)
  | bracketed (negated : Bool) (body : ClassExpr)
  | union (items : List ClassExpr)
  | combine (op : ClassOp) (lhs rhs : ClassExpr)

inductive Expr where
  | empty
  /-- Flags for the rest of the enclosing group. -/
  | flags (changes : List FlagChange)
  /-- A character, and whether it was written as two hexadecimal digits. -/
  | char (c : Char) (asByte : Bool)
  | dot
  | anchor (a : Anchor)
  | charClass (c : ClassExpr)
  | repetition (e : Expr) (min : Nat) (max : Option Nat) (lazy : Bool)
  /-- Flags for the group alone, and the number of the group if it has one. -/
  | group (changes : List FlagChange) (number : Option Nat) (e : Expr)
  | concat (es : List Expr)
  | alternation (es : List Expr)
deriving Inhabited

/-- A single item stands for itself. -/
def ClassExpr.ofItems : List ClassExpr → ClassExpr
  | [c] => c
  | cs => .union cs

def Expr.ofItems : List Expr → Expr
  | [] => .empty
  | [e] => e
  | es => .concat es

def Expr.ofBranches : List Expr → Expr
  | [e] => e
  | es => .alternation es

/-- Flags and the empty expression cannot be repeated. -/
def Expr.repeatable : Expr → Bool
  | .empty | .flags _ => false
  | _ => true

/-! How deeply an expression nests. Items side by side share a level. -/

mutual

def ClassExpr.height : ClassExpr → Nat
  | .bracketed _ body => body.height + 1
  | .union [] => 0
  | .union (c :: cs) => ClassExpr.heights (c :: cs) + 1
  | .combine _ lhs rhs => max lhs.height rhs.height + 1
  | _ => 0

def ClassExpr.heights : List ClassExpr → Nat
  | [] => 0
  | c :: cs => max c.height (ClassExpr.heights cs)

end

mutual

def Expr.height : Expr → Nat
  | .charClass (.bracketed negated body) => (ClassExpr.bracketed negated body).height
  | .repetition e _ _ _ => e.height + 1
  | .group _ _ e => e.height + 1
  | .concat es => Expr.heights es + 1
  | .alternation es => Expr.heights es + 1
  | _ => 0

def Expr.heights : List Expr → Nat
  | [] => 0
  | e :: es => max e.height (Expr.heights es)

end

end RestRoutes.Pattern
