import RestRoutes.Pattern.Expr
import RestRoutes.Pattern.Regex
import RestRoutes.Text.CaseFold
import RestRoutes.Text.Category

/-!
What a written pattern matches. Flags hold from where they stand to the end of their group;
`Expr.regex` walks the pattern from the left and carries them along.
-/
namespace RestRoutes.Pattern

/-- The flags in force at a place of a pattern, but for those of the reader. -/
structure Mode where
  caseless : Bool
  multiLine : Bool
  dotAll : Bool
  swapGreed : Bool
  unicode : Bool
  crlf : Bool
deriving DecidableEq, Repr

namespace Mode

/-- Patterns ignore case unless they say otherwise. -/
def start : Mode := ⟨true, false, false, false, true, false⟩

def apply (m : Mode) (changes : List FlagChange) : Mode where
  caseless := (lastChange? .caseless changes).getD m.caseless
  multiLine := (lastChange? .multiLine changes).getD m.multiLine
  dotAll := (lastChange? .dotAll changes).getD m.dotAll
  swapGreed := (lastChange? .swapGreed changes).getD m.swapGreed
  unicode := (lastChange? .unicode changes).getD m.unicode
  crlf := (lastChange? .crlf changes).getD m.crlf

end Mode

/-- The other case of a letter of the Latin alphabet. -/
def otherAsciiCase? (code : Nat) : Option Nat :=
  if 0x41 ≤ code ∧ code ≤ 0x5A then some (code + 0x20)
  else if 0x61 ≤ code ∧ code ≤ 0x7A then some (code - 0x20)
  else none

/-- Adds the other case of each letter of the Latin alphabet. -/
def closeAsciiCase (s : CodeSet) : CodeSet :=
  let letters := (List.range 26).flatMap fun k => [0x41 + k, 0x61 + k]
  s.union (.ofCodes ((letters.filter s.contains).filterMap otherAsciiCase?))

namespace Mode

/-- Adds what differs in case alone, where case does not count. -/
def closeCase (m : Mode) (s : CodeSet) : CodeSet :=
  if !m.caseless then s else if m.unicode then s.closeCase else closeAsciiCase s

/-- Everything else. Where characters are bytes, that includes parts of characters. -/
def complement (m : Mode) (s : CodeSet) : Except Flaw CodeSet :=
  if m.unicode then .ok s.compl else .error .partOfCharacter

/-- Case first, negation after it. -/
def finish (m : Mode) (negated : Bool) (s : CodeSet) : Except Flaw CodeSet :=
  if negated then m.complement (m.closeCase s) else .ok (m.closeCase s)

/-- A character on its own. Two hexadecimal digits name a byte where characters are bytes. -/
def char (m : Mode) (c : Char) (asByte : Bool) : Except Flaw CodeSet :=
  if !m.unicode && asByte && c.toNat ≥ 0x80 then .error .partOfCharacter
  else if !m.caseless then .ok (.singleton c.toNat)
  else if m.unicode then .ok (.ofCodes (CaseFold.family c.toNat))
  else .ok (closeAsciiCase (.singleton c.toNat))

/-- A line feed ends a line; if the flag says so, a carriage return does too. -/
def dot (m : Mode) : Except Flaw CodeSet :=
  if !m.unicode then .error .partOfCharacter
  else if m.dotAll then .ok .full
  else if m.crlf then .ok (CodeSet.ofCodes ['\n'.toNat, '\r'.toNat]).compl
  else .ok (CodeSet.singleton '\n'.toNat).compl

def look (m : Mode) : Anchor → Look
  | .lineStart => if m.multiLine then .lineStart m.crlf else .textStart
  | .lineEnd => if m.multiLine then .lineEnd m.crlf else .textEnd
  | .textStart => .textStart
  | .textEnd => .textEnd
  | .boundary => .boundary !m.unicode
  | .notBoundary => .notBoundary !m.unicode
  | .wordStart => .wordStart !m.unicode
  | .wordEnd => .wordEnd !m.unicode
  | .wordStartHalf => .wordStartHalf !m.unicode
  | .wordEndHalf => .wordEndHalf !m.unicode

end Mode

def Shorthand.members (unicode : Bool) : Shorthand → CodeSet
  | .digit => if unicode then Category.decimalNumber else ⟨[(0x30, 0x39)]⟩
  | .space => if unicode then Property.whiteSpace else ⟨[(0x09, 0x0D), (0x20, 0x20)]⟩
  | .word =>
    if unicode then Property.word else ⟨[(0x30, 0x39), (0x41, 0x5A), (0x5F, 0x5F), (0x61, 0x7A)]⟩

def ClassOp.apply : ClassOp → CodeSet → CodeSet → CodeSet
  | .intersection, s, t => s.inter t
  | .difference, s, t => s.diff t
  | .symmetricDifference, s, t => s.symmDiff t

/-- A character between brackets. Where characters are bytes it has to be one. -/
def Mode.literal (m : Mode) (c : Char) : Except Flaw Nat :=
  if !m.unicode && c.toNat ≥ 0x80 then .error .partOfCharacter else .ok c.toNat

mutual

def ClassExpr.members (m : Mode) : ClassExpr → Except Flaw CodeSet
  | .char c => do return .singleton (← m.literal c)
  | .range lo hi => do return ⟨[(← m.literal lo, ← m.literal hi)]⟩
  | .ascii s negated => m.finish negated s
  | .shorthand kind negated =>
    if negated then m.complement (kind.members m.unicode) else .ok (kind.members m.unicode)
  | .property s negated =>
    if m.unicode then m.finish negated s else .error .propertyWithoutUnicode
  | .bracketed negated body => do m.finish negated (← body.members m)
  | .union items => ClassExpr.unionMembers m items
  | .combine op lhs rhs => do
    return op.apply (m.closeCase (← lhs.members m)) (m.closeCase (← rhs.members m))

def ClassExpr.unionMembers (m : Mode) : List ClassExpr → Except Flaw CodeSet
  | [] => .ok .empty
  | c :: cs => do return (← c.members m).union (← ClassExpr.unionMembers m cs)

end

mutual

/-- What an expression matches, and the flags in force after it. -/
def Expr.regex (m : Mode) : Expr → Except Flaw (Regex × Mode)
  | .empty => .ok (.empty, m)
  | .flags changes => .ok (.empty, m.apply changes)
  | .char c asByte => do return (.set (← m.char c asByte), m)
  | .dot => do return (.set (← m.dot), m)
  | .anchor a => .ok (.look (m.look a), m)
  | .charClass c => do return (.set (← c.members m), m)
  | .repetition e min max lazy => do
    let (r, after) ← e.regex m
    return (.rep r min max (lazy == after.swapGreed), after)
  | .group changes number e => do
    let (r, _) ← e.regex (m.apply changes)
    return (.group number r, m)
  | .concat es => Expr.sequence m es
  | .alternation es => Expr.choice m es

def Expr.sequence (m : Mode) : List Expr → Except Flaw (Regex × Mode)
  | [] => .ok (.empty, m)
  | [e] => e.regex m
  | e :: es => do
    let (r, after) ← e.regex m
    let (rest, after) ← Expr.sequence after es
    return (.seq r rest, after)

/-- Flags that one branch sets hold in the next. -/
def Expr.choice (m : Mode) : List Expr → Except Flaw (Regex × Mode)
  | [] => .ok (.set .empty, m)
  | [e] => e.regex m
  | e :: es => do
    let (r, after) ← e.regex m
    let (rest, after) ← Expr.choice after es
    return (.alt r rest, after)

end

end RestRoutes.Pattern
