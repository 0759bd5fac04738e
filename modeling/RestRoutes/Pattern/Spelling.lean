import RestRoutes.Text.CodeSet

/-!
How the characters of a set are spelled in UTF-8: as sequences of byte ranges, least first.
-/
namespace RestRoutes.Pattern

/-- Byte ranges that one after the other spell the characters of a range. -/
abbrev ByteSequence := List (Nat × Nat)

/-- The bytes of a code point in UTF-8. -/
def utf8Bytes (c : Nat) : List Nat :=
  if c < 0x80 then [c]
  else if c < 0x800 then [0xC0 + c / 0x40, 0x80 + c % 0x40]
  else if c < 0x10000 then [0xE0 + c / 0x1000, 0x80 + c / 0x40 % 0x40, 0x80 + c % 0x40]
  else
    [0xF0 + c / 0x40000, 0x80 + c / 0x1000 % 0x40, 0x80 + c / 0x40 % 0x40, 0x80 + c % 0x40]

/-- Where a range has to be cut so that its parts are spelled by one sequence each: where the number
of bytes changes, around the surrogates, and where some but not all values of the last bytes
occur. -/
def cut? (lo hi : Nat) : Option Nat :=
  let between := [0x80, 0x800, 0xD800, 0xE000, 0x10000].find? fun c => lo < c && c ≤ hi
  let uneven := [0x40, 0x1000, 0x40000].findSome? fun block =>
    if hi < 0x80 || lo / block == hi / block then none
    else if lo % block != 0 then some ((lo / block + 1) * block)
    else if hi % block != block - 1 then some (hi / block * block)
    else none
  between.or uneven

/-- The sequences of a range. Each cut leaves less to cut; far fewer than the given number are ever
needed. -/
def sequences : Nat → (lo hi : Nat) → List ByteSequence
  | 0, _, _ => []
  | cuts + 1, lo, hi =>
    match cut? lo hi with
    | some c => sequences cuts lo (c - 1) ++ sequences cuts c hi
    | none => if 0xD800 ≤ lo && hi ≤ 0xDFFF then [] else [(utf8Bytes lo).zip (utf8Bytes hi)]

def spelling (s : CodeSet) : List ByteSequence := s.ranges.flatMap fun r => sequences 64 r.1 r.2

end RestRoutes.Pattern
