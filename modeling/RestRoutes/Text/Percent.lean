/-!
Percent encoding: letters, digits and four signs stand for themselves, and every other byte of UTF-8
is written as a percent sign and two hexadecimal digits. Reading back undoes writing
(`decode?_encode`), and signs that set the parts of a URI apart are never written
(`not_mem_encode`).
-/
namespace RestRoutes.Percent

def isUnreserved (b : UInt8) : Bool :=
  let c := Char.ofNat b.toNat
  b < 0x80 && (c.isAlphanum || c == '-' || c == '_' || c == '.' || c == '~')

def hexDigit (n : Nat) : Char :=
  if n < 10 then Char.ofNat ('0'.toNat + n) else Char.ofNat ('A'.toNat + (n - 10))

def encodeByte (b : UInt8) : List Char :=
  if isUnreserved b then [Char.ofNat b.toNat]
  else ['%', hexDigit (b.toNat / 16), hexDigit (b.toNat % 16)]

def encodeBytes (bs : List UInt8) : List Char := bs.flatMap encodeByte

def encode (s : String) : String := String.ofList (encodeBytes s.toUTF8.toList)

def hexDigit? (c : Char) : Option Nat :=
  if '0' ≤ c ∧ c ≤ '9' then some (c.toNat - '0'.toNat)
  else if 'A' ≤ c ∧ c ≤ 'F' then some (c.toNat - 'A'.toNat + 10)
  else none

/-- The bytes of an encoded text. -/
def decodeBytes : List Char → Option (List UInt8)
  | [] => some []
  | '%' :: h :: l :: cs => do
    return UInt8.ofNat (16 * (← hexDigit? h) + (← hexDigit? l)) :: (← decodeBytes cs)
  | c :: cs =>
    if c.toNat < 0x80 ∧ isUnreserved (UInt8.ofNat c.toNat) then
      (decodeBytes cs).map (UInt8.ofNat c.toNat :: ·)
    else none

/-- Unreserved bytes are characters below 0x80 other than the percent sign, and digits read back. -/
theorem byte_facts : ∀ n : Fin 256,
    let b := UInt8.ofNat n
    (isUnreserved b = true → Char.ofNat b.toNat ≠ '%' ∧ (Char.ofNat b.toNat).toNat = b.toNat ∧
      b.toNat < 0x80) ∧
    hexDigit? (hexDigit (b.toNat / 16)) = some (b.toNat / 16) ∧
    hexDigit? (hexDigit (b.toNat % 16)) = some (b.toNat % 16) := by
  decide +kernel

theorem decodeBytes_encodeByte (b : UInt8) (cs : List Char) :
    decodeBytes (encodeByte b ++ cs) = (decodeBytes cs).map (b :: ·) := by
  obtain ⟨plain, high, low⟩ := byte_facts ⟨b.toNat, b.toNat_lt⟩
  simp only [UInt8.ofNat_toNat] at plain high low
  unfold encodeByte
  split
  · next h =>
      obtain ⟨ne, code, small⟩ := plain h
      simp only [List.cons_append, List.nil_append]
      rw [decodeBytes]
      · simp [code, small, h]
      · intro _ _ _ hc
        exact absurd hc ne
  · simp only [List.cons_append, List.nil_append, decodeBytes, high, low]
    cases decodeBytes cs with
    | none => rfl
    | some bs =>
        have whole : UInt8.ofNat (16 * (b.toNat / 16) + b.toNat % 16) = b := by
          rw [Nat.div_add_mod, UInt8.ofNat_toNat]
        simpa using whole

theorem decodeBytes_encodeBytes (bs : List UInt8) : decodeBytes (encodeBytes bs) = some bs := by
  induction bs with
  | nil => rfl
  | cons b bs ih => simp [encodeBytes, decodeBytes_encodeByte] at ih ⊢; simp [ih]

/-- The text that is encoded, provided that its bytes are UTF-8. -/
def decode? (cs : List Char) : Option String :=
  (decodeBytes cs).bind fun bs => String.fromUTF8? bs.toByteArray

theorem toList_loop (bs : ByteArray) (i : Nat) (before : List UInt8) :
    ByteArray.toList.loop bs i before = before.reverse ++ bs.data.toList.drop i := by
  fun_induction ByteArray.toList.loop bs i before with
  | case1 i before inside ih =>
    have inside' : i < bs.data.toList.length := inside
    have byte : bs.get! i = bs.data.toList[i] := by
      simp [ByteArray.get!, inside, getElem!_pos]
    rw [ih, List.drop_eq_getElem_cons inside', byte]
    simp
  | case2 i before outside =>
    have all : bs.data.toList.length ≤ i := Nat.le_of_not_lt outside
    rw [List.drop_eq_nil_of_le all, List.append_nil]

theorem toByteArray_toList (bs : ByteArray) : bs.toList.toByteArray = bs := by
  have listed : bs.toList = bs.data.toList := toList_loop bs 0 []
  rw [listed]
  apply ByteArray.ext
  simp

theorem decode?_encode (s : String) : decode? (encode s).toList = some s := by
  rw [decode?, encode, String.toList_ofList, decodeBytes_encodeBytes, Option.bind_some,
    toByteArray_toList, String.fromUTF8?]
  have valid : s.toUTF8.IsValidUTF8 := s.isValidUTF8
  rw [dif_pos valid]
  rfl

/-- Signs that have a meaning in a URI or a query. -/
def delimiters : List Char := ['?', '#', '&', '=', '[', ']']

theorem isAlphanum_hexDigit : ∀ n < 16, (hexDigit n).isAlphanum = true := by decide

/-- A byte is written with letters, digits and five signs. -/
theorem of_mem_encodeByte {b : UInt8} {c : Char} (h : c ∈ encodeByte b) :
    c.isAlphanum = true ∨ c ∈ ['-', '_', '.', '~', '%'] := by
  unfold encodeByte at h
  split at h
  · next unreserved =>
      cases List.mem_singleton.1 h
      simp only [isUnreserved, Bool.and_eq_true, Bool.or_eq_true, beq_iff_eq] at unreserved
      rcases unreserved.2 with (((plain | sign) | sign) | sign) | sign
      · exact .inl plain
      all_goals
        rw [sign]
        exact .inr (by decide)
  · have byte : b.toNat < 256 := b.toNat_lt
    have digits : (hexDigit (b.toNat / 16)).isAlphanum = true ∧
        (hexDigit (b.toNat % 16)).isAlphanum = true :=
      ⟨isAlphanum_hexDigit _ (by omega), isAlphanum_hexDigit _ (by omega)⟩
    simp only [List.mem_cons, List.not_mem_nil, or_false] at h
    rcases h with rfl | rfl | rfl
    · exact .inr (by decide)
    · exact .inl digits.1
    · exact .inl digits.2

theorem not_mem_encode (s : String) {c : Char} (hc : c ∈ delimiters) : c ∉ (encode s).toList := by
  rw [encode, String.toList_ofList, encodeBytes, List.mem_flatMap]
  rintro ⟨b, _, member⟩
  have apart : ∀ c ∈ delimiters, ¬(c.isAlphanum = true ∨ c ∈ ['-', '_', '.', '~', '%']) := by
    simp [delimiters]
  exact apart c hc (of_mem_encodeByte member)

example : decode? "caf%C3%A9%20%26%20bar".toList = some "café & bar" := by decide +kernel

end RestRoutes.Percent
