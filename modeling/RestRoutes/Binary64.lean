/-!
Finite binary64 numbers as whole multiples of the least one, 2 ^ -1074. `round` gives the nearest
number to a quotient, `ofDecimal?` the value of decimal digits with an exponent, and `text` the
fewest digits that read back as the number.
-/
namespace RestRoutes

/-- The number `significand * 2 ^ shift / 2 ^ 1074`, with a sign. A shift above zero comes with a
significand of 53 bits. -/
structure Binary64 where
  negative : Bool
  significand : Nat
  shift : Nat
deriving DecidableEq, Repr

namespace Binary64

/-- Units in one. -/
def unit : Nat := 1 <<< 1074

/-- The nearest whole number to a quotient. Of two it is the even one. -/
def nearest (num den : Nat) : Nat :=
  let q := num / den
  let twice := 2 * (num % den)
  if twice < den then q else if den < twice then q + 1 else q + q % 2

/-- Significand and shift of the number nearest to a quotient. There is none above the greatest. -/
def round (num den : Nat) : Option (Nat × Nat) :=
  let units := num * unit / den
  let shift := Nat.log2 units - 52
  let significand := nearest (num * unit) (den <<< shift)
  let (significand, shift) :=
    if significand = 1 <<< 53 then (1 <<< 52, shift + 1) else (significand, shift)
  if shift ≤ 2045 then some (significand, shift) else none

def units (significand shift : Nat) : Nat := significand <<< shift

def isZero (x : Binary64) : Bool := x.significand == 0

/-- Equality of numbers. Zero has two signs. -/
def same (x y : Binary64) : Bool := x == y || (x.isZero && y.isZero)

/-- Multiplies and rounds. -/
def mul? (x y : Nat × Nat) : Option (Nat × Nat) :=
  round (units x.1 x.2 * units y.1 y.2) (unit * unit)

/-- Divides and rounds. -/
def div? (x y : Nat × Nat) : Option (Nat × Nat) := round (units x.1 x.2) (units y.1 y.2)

/-- Divides by ten to the power of `places`, at most 308 places at a time, rounding each time. After
three times nothing is left of any number that this is used for. -/
def divideByTens : Nat → (x : Nat × Nat) → (places : Nat) → Option (Nat × Nat)
  | 0, _, _ => some (0, 0)
  | times + 1, x, places =>
    if places ≤ 308 then do div? x (← round (Nat.pow 10 places) 1)
    else do divideByTens times (← div? x (← round (Nat.pow 10 308) 1)) (places - 308)

/-- The value of `digits * 10 ^ exponent` for digits that fit into 64 bits. The digits are rounded
before the power of ten is applied, and the result once more. -/
def ofDecimal? (negative : Bool) (digits : Nat) (exponent : Int) : Option Binary64 := do
  let x ← round digits 1
  let (significand, shift) ←
    if digits = 0 then some x
    else match exponent with
      | .ofNat places => if places ≤ 308 then do mul? x (← round (Nat.pow 10 places) 1) else none
      | .negSucc places => divideByTens 4 x (places + 1)
  return ⟨negative, significand, shift⟩

/-! Text -/

/-- The number of decimal digits before the point of a quotient, less than one for a small one: the
`e` with `10 ^ (e - 1) ≤ num / den < 10 ^ e`. -/
def magnitude (num den : Nat) : Int :=
  if den ≤ num then (Nat.toDigits 10 (num / den)).length
  else
    -- One more digit is dropped than there are zeros after the point.
    let zeros := (Nat.toDigits 10 (den / num)).length - 1
    if den ≤ num * Nat.pow 10 zeros then 1 - zeros else - zeros

/-- The nearest whole numbers to a value on both sides, in tens to the power of `exponent`, the
nearer one first. -/
def neighbours (num den : Nat) (exponent : Int) : List Nat :=
  let (num, den) := match exponent with
    | .ofNat e => (num, den * Nat.pow 10 e)
    | .negSucc e => (num * Nat.pow 10 (e + 1), den)
  let q := num / den
  if nearest num den = q then [q, q + 1] else [q + 1, q]

/-- Whether a decimal is nearest to the number with this significand and shift. -/
def readsBack (significand shift : Nat) (digits : Nat) (exponent : Int) : Bool :=
  let found := match exponent with
    | .ofNat e => round (digits * Nat.pow 10 e) 1
    | .negSucc e => round digits (Nat.pow 10 (e + 1))
  found == some (significand, shift)

/-- The fewest digits, and an exponent, that read back as the number. No number needs more than
17. -/
def shortest (significand shift : Nat) : Nat × Int :=
  let num := units significand shift
  let top := magnitude num unit
  let attempt (n : Nat) : Option (Nat × Int) :=
    let exponent := top - n
    ((neighbours num unit exponent).find? (readsBack significand shift · exponent)).map
      (·, exponent)
  ((List.range 17).findSome? fun n => attempt (n + 1)).getD (num, -1074)

/-- Drops final zeros. -/
def trimZeros : Nat → (digits : Nat) → (exponent : Int) → Nat × Int
  | 0, digits, exponent => (digits, exponent)
  | steps + 1, digits, exponent =>
    if digits ≠ 0 ∧ digits % 10 = 0 then trimZeros steps (digits / 10) (exponent + 1)
    else (digits, exponent)

/-- Digits with a point where the value lies between 10 ^ -5 and 10 ^ 16, else one digit before the
point and an exponent. -/
def digitsText (digits : Nat) (exponent : Int) : List Char :=
  let ds := Nat.toDigits 10 digits
  let point := ds.length + exponent
  if 0 ≤ exponent ∧ point ≤ 16 then ds ++ List.replicate exponent.toNat '0' ++ ['.', '0']
  else if 0 < point ∧ point ≤ 16 then ds.take point.toNat ++ '.' :: ds.drop point.toNat
  else if -5 < point ∧ point ≤ 0 then
    '0' :: '.' :: List.replicate (-point).toNat '0' ++ ds
  else
    let e := point - 1
    let power := (if e < 0 then ['-'] else []) ++ Nat.toDigits 10 e.natAbs
    match ds with
    | [d] => d :: 'e' :: power
    | d :: ds => d :: '.' :: ds ++ 'e' :: power
    | [] => []

def text (x : Binary64) : List Char :=
  let sign := if x.negative then ['-'] else []
  if x.isZero then sign ++ ['0', '.', '0']
  else
    let (digits, exponent) := shortest x.significand x.shift
    let (digits, exponent) := trimZeros 20 digits exponent
    sign ++ digitsText digits exponent

end Binary64
end RestRoutes
