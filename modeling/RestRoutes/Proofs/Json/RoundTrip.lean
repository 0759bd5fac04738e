import RestRoutes.Json.Reader
import RestRoutes.Json.Writer
import Mathlib.Algebra.Group.Nat.Defs
import Mathlib.Data.List.Basic

/-!
Values are read back from the texts that they are written as, whatever comes after
(`Fits.reads`). Whole numbers of 64 bits come back as they are, and so does every text: the escapes
leave no character ambiguous. Doubles are left out here.
-/
namespace RestRoutes.Json

/-! Numbers -/

def digitsValue (n : Nat) (ds : List Nat) : Nat := ds.foldl (fun n d => 10 * n + d) n

theorem le_digitsValue (n : Nat) (ds : List Nat) : n ≤ digitsValue n ds := by
  induction ds generalizing n with
  | nil => exact Nat.le_refl n
  | cons d ds ih => exact Nat.le_trans (by omega) (ih (10 * n + d))

theorem appendDigits_eq {n : Nat} {ds : List Nat} (h : digitsValue n ds < 1 <<< 64) :
    appendDigits n ds = (digitsValue n ds, 0) := by
  induction ds generalizing n with
  | nil => rfl
  | cons d ds ih =>
      have first : 10 * n + d < 1 <<< 64 := Nat.lt_of_le_of_lt (le_digitsValue _ ds) h
      rw [appendDigits, if_pos first, ih h]
      rfl

theorem digit?_digitChar : ∀ d < 10, digit? (Nat.digitChar d) = some d := by decide

/-- A number is written with its digits. No zero stands before another digit. -/
structure Decimal (n : Nat) (ds : List Nat) : Prop where
  written : (Nat.toDigits 10 n).map digit? = ds.map some
  value : digitsValue 0 ds = n
  some_digit : ds ≠ []
  no_zero : ds.head? = some 0 → ds = [0]

theorem exists_decimal (n : Nat) : ∃ ds, Decimal n ds := by
  induction n using Nat.strongRecOn with
  | _ n ih =>
      by_cases small : n < 10
      · refine ⟨[n], ?_, ?_, by simp, by simp⟩
        · rw [Nat.toDigits_of_lt_base small, List.map_singleton, digit?_digitChar n small]
          rfl
        · simp [digitsValue]
      · obtain ⟨ds, written, value, some_digit, no_zero⟩ := ih (n / 10) (by omega)
        refine ⟨ds ++ [n % 10], ?_, ?_, by simp, ?_⟩
        · rw [Nat.toDigits_eq_if (by omega), if_neg small, List.map_append, written,
            List.map_append, List.map_singleton, digit?_digitChar _ (by omega)]
          rfl
        · rw [digitsValue] at value ⊢
          rw [List.foldl_append, value]
          simp only [List.foldl_cons, List.foldl_nil]
          omega
        · intro leading
          rw [List.head?_append_of_ne_nil _ some_digit] at leading
          have zero : digitsValue 0 ds = 0 := by rw [no_zero leading]; rfl
          omega

/-- A text that goes on with something that no number goes on with. -/
def EndsNumber (rest : List Char) : Prop :=
  ∀ c cs, rest = c :: cs → digit? c = none ∧ c ≠ '.' ∧ c ≠ 'e' ∧ c ≠ 'E'

theorem takeDigits_append {cs rest : List Char} {ds : List Nat}
    (written : cs.map digit? = ds.map some) (ends : EndsNumber rest) :
    takeDigits (cs ++ rest) = (ds, rest) := by
  induction cs generalizing ds with
  | nil =>
      obtain rfl : ds = [] := by simpa using written.symm
      cases rest with
      | nil => rfl
      | cons c cs => rw [List.nil_append, takeDigits, (ends c cs rfl).1]
  | cons c cs ih =>
      cases ds with
      | nil => cases written
      | cons d ds =>
          obtain ⟨first, more⟩ := List.cons.inj written
          rw [List.cons_append, takeDigits, first]
          simp only [ih more]

theorem readWhole_toDigits {n : Nat} {ds : List Nat} (h : Decimal n ds) {rest : List Char}
    (ends : EndsNumber rest) : readWhole (Nat.toDigits 10 n ++ rest) = some (ds, rest) := by
  rw [readWhole, takeDigits_append h.written ends]
  match ds, h.some_digit, h.no_zero with
  | [], none_left, _ => exact absurd rfl none_left
  | [d], _, _ => cases d <;> rfl
  | 0 :: d :: ds, _, no_zero => cases no_zero rfl
  | (d + 1) :: d' :: ds, _, _ => rfl

theorem readFraction_of_ends {rest : List Char} (ends : EndsNumber rest) :
    readFraction rest = some (none, rest) := by
  unfold readFraction
  split
  · exact absurd rfl (ends _ _ rfl).2.1
  · rfl

theorem readExponent_of_ends {rest : List Char} (ends : EndsNumber rest) :
    readExponent rest = some (none, rest) := by
  unfold readExponent
  split
  all_goals first
    | rfl
    | exact absurd rfl (ends _ _ rfl).2.2.1
    | exact absurd rfl (ends _ _ rfl).2.2.2

inductive Number.Exact : Number → Prop where
  | natural {n : Nat} : n < 2 ^ 64 → Exact (.natural n)
  | negative {n : Nat} : 0 < n → n ≤ 2 ^ 63 → Exact (.negative n)

theorem numberOf_decimal {n : Nat} {ds : List Nat} (h : Decimal n ds) (bound : n < 2 ^ 64)
    {negative : Bool} {number : Number} (whole : wholeNumber? negative n = some number) :
    numberOf negative ds none none = some number := by
  have appended : appendDigits 0 ds = (n, 0) := by
    rw [appendDigits_eq (by rw [h.value, Nat.one_shiftLeft]; exact bound), h.value]
  unfold numberOf
  rw [appended]
  simp [whole]

theorem exists_toDigits_eq (n : Nat) :
    ∃ c cs d, Nat.toDigits 10 n = c :: cs ∧ digit? c = some d := by
  obtain ⟨ds, written, -, some_digit, -⟩ := exists_decimal n
  cases digits : Nat.toDigits 10 n with
  | nil => rw [digits] at written; exact absurd (by simpa using written.symm) some_digit
  | cons c cs =>
      cases ds with
      | nil => exact absurd rfl some_digit
      | cons d ds =>
          rw [digits] at written
          exact ⟨c, cs, d, rfl, (List.cons.inj written).1⟩

/-- What follows the sign, if there is one. -/
theorem readNumber_of_whole {negative : Bool} {signed cs : List Char} {ds : List Nat}
    {number : Number} {rest : List Char}
    (sign : (negative = true ∧ signed = '-' :: cs) ∨
      (negative = false ∧ signed = cs ∧ cs.head? ≠ some '-'))
    (whole : readWhole cs = some (ds, rest)) (ends : EndsNumber rest)
    (result : numberOf negative ds none none = some number) :
    readNumber signed = some (number, rest) := by
  unfold readNumber
  split
  next negative' cs' parted =>
  have same : negative' = negative ∧ cs' = cs := by
    rcases sign with ⟨rfl, rfl⟩ | ⟨rfl, rfl, head⟩
    · cases parted
      exact ⟨rfl, rfl⟩
    · split at parted
      · exact absurd rfl head
      · cases parted
        exact ⟨rfl, rfl⟩
  rw [same.1, same.2, whole]
  simp [readFraction_of_ends ends, readExponent_of_ends ends, result]

theorem readNumber_text {n : Number} (h : n.Exact) {rest : List Char} (ends : EndsNumber rest) :
    readNumber (n.text ++ rest) = some (n, rest) := by
  cases h with
  | @natural n bound =>
      obtain ⟨ds, decimal⟩ := exists_decimal n
      obtain ⟨c, cs, d, digits, digit⟩ := exists_toDigits_eq n
      have unsigned : (Nat.toDigits 10 n ++ rest).head? ≠ some '-' := by
        rw [digits]
        rintro minus
        cases minus
        cases digit
      exact readNumber_of_whole (.inr ⟨rfl, rfl, unsigned⟩) (readWhole_toDigits decimal ends) ends
        (numberOf_decimal decimal bound rfl)
  | @negative n above below =>
      obtain ⟨ds, decimal⟩ := exists_decimal n
      have bound : n < 2 ^ 64 := Nat.lt_of_le_of_lt below (by decide)
      have whole : wholeNumber? true n = some (.negative n) := by
        have range : 0 < n ∧ n ≤ 1 <<< 63 := ⟨above, by rwa [Nat.one_shiftLeft]⟩
        rw [wholeNumber?, if_neg (by simp), if_pos range]
      exact readNumber_of_whole (.inl ⟨rfl, rfl⟩) (readWhole_toDigits decimal ends) ends
        (numberOf_decimal decimal bound whole)

/-! Strings -/

theorem hexDigit?_hexDigit : ∀ d < 16, hexDigit? (hexDigit d) = some d := by decide

/-- A control character is told by the last two of its digits. -/
theorem unit?_of_control {n : Nat} (h : n < 0x20) :
    unit? '0' '0' (hexDigit (n / 16)) (hexDigit (n % 16)) = some n := by
  have zero : hexDigit? '0' = some 0 := by decide
  simp only [unit?, zero, hexDigit?_hexDigit _ (show n / 16 < 16 by omega),
    hexDigit?_hexDigit _ (show n % 16 < 16 by omega), Option.pure_def, Option.bind_eq_bind,
    Option.bind_some, Option.some.injEq]
  omega

theorem readText_control {c : Char} (h : c.toNat < 0x20) (cs : List Char) :
    readText ('\\' :: 'u' :: '0' :: '0' ::
        hexDigit (c.toNat / 16) :: hexDigit (c.toNat % 16) :: cs) =
      (readText cs).map fun (text, rest) => (c :: text, rest) := by
  have high : isHighSurrogate c.toNat = false := by simp [isHighSurrogate]; omega
  have low : isLowSurrogate c.toNat = false := by simp [isLowSurrogate]; omega
  rw [readText, unit?_of_control h]
  cases readText cs <;> simp [high, low]

theorem escape_cases (c : Char) :
    (∃ e, escape c = ['\\', e] ∧ simpleEscape? e = some c ∧ e ≠ 'u') ∨
    (c.toNat < 0x20 ∧
      escape c = ['\\', 'u', '0', '0', hexDigit (c.toNat / 16), hexDigit (c.toNat % 16)]) ∨
    (c ≠ '"' ∧ c ≠ '\\' ∧ ¬c.toNat < 0x20 ∧ escape c = [c]) := by
  by_cases named : c ∈ ['"', '\\', '\x08', '\x0C', '\n', '\r', '\t']
  · left
    simp only [List.mem_cons, List.not_mem_nil, or_false] at named
    rcases named with rfl | rfl | rfl | rfl | rfl | rfl | rfl
    all_goals exact ⟨_, rfl, rfl, by decide⟩
  · right
    simp only [List.mem_cons, List.not_mem_nil, or_false, not_or] at named
    by_cases control : c.toNat < 0x20
    · exact .inl ⟨control, by simp [escape, named, control]⟩
    · exact .inr ⟨named.1, named.2.1, control, by simp [escape, named, control]⟩

theorem readText_escape (c : Char) (cs : List Char) :
    readText (escape c ++ cs) = (readText cs).map fun (text, rest) => (c :: text, rest) := by
  rcases escape_cases c with ⟨e, written, known, no_unit⟩ | ⟨control, written⟩ |
    ⟨no_quote, no_slash, printed, written⟩
  · rw [written, List.cons_append, List.singleton_append, readText]
    · cases readText cs <;> simp [known]
    · exact fun _ _ _ _ _ h => absurd h no_unit
  · rw [written]
    exact readText_control control cs
  · rw [written, List.singleton_append, readText, if_neg (by simpa [no_slash] using printed)]
    · exact fun h => no_quote h
    · exact fun _ _ _ _ _ h => absurd h no_slash
    · exact fun _ _ h => absurd h no_slash

theorem readText_quoted (s : String) (rest : List Char) :
    readText (s.toList.flatMap escape ++ '"' :: rest) = some (s.toList, rest) := by
  induction s.toList with
  | nil => rw [List.flatMap_nil, List.nil_append, readText]
  | cons c cs ih => rw [List.flatMap_cons, List.append_assoc, readText_escape, ih]; rfl

/-! Values -/

/-- Values with exact numbers that nest so many levels at most. -/
inductive Fits : Nat → Value → Prop where
  | null {levels : Nat} : Fits levels .null
  | bool {levels : Nat} (b : Bool) : Fits levels (.bool b)
  | number {levels : Nat} {n : Number} : n.Exact → Fits levels (.number n)
  | string {levels : Nat} (s : String) : Fits levels (.string s)
  | array {levels : Nat} {items : List Value} :
      (∀ v ∈ items, Fits levels v) → Fits (levels + 1) (.array items)
  | object {levels : Nat} {members : List (String × Value)} :
      (∀ m ∈ members, Fits levels m.2) → Fits (levels + 1) (.object members)

theorem skipSpace_of_no_space {c : Char} (cs : List Char) (h : isSpace c = false) :
    skipSpace (c :: cs) = c :: cs := by
  rw [skipSpace, List.dropWhile_cons_of_neg (by simp [h])]

theorem skipSpace_replicate (k : Nat) (cs : List Char) :
    skipSpace (List.replicate k ' ' ++ cs) = skipSpace cs := by
  induction k with
  | zero => rfl
  | succ k ih => exact ih

theorem skipSpace_newLine (indent : Nat) (cs : List Char) :
    skipSpace (Value.newLine indent ++ cs) = skipSpace cs :=
  skipSpace_replicate (2 * indent) cs

theorem readValue_congr {cs cs' : List Char} (same : skipSpace cs = skipSpace cs')
    (steps levels : Nat) : readValue steps levels cs = readValue steps levels cs' := by
  cases steps with
  | zero => rw [readValue, readValue]
  | succ steps => rw [readValue, readValue, same]

theorem readMember_congr {cs cs' : List Char} (same : skipSpace cs = skipSpace cs')
    (steps levels : Nat) : readMember steps levels cs = readMember steps levels cs' := by
  cases steps with
  | zero => rw [readMember, readMember]
  | succ steps => rw [readMember, readMember, same]

theorem no_space_colon : isSpace ':' = false := rfl

theorem no_space_quote : isSpace '"' = false := rfl

def Reads (levels : Nat) (v : Value) : Prop :=
  ∀ {indent steps : Nat} {rest : List Char}, (v.prettyAt indent).length < steps → EndsNumber rest →
    readValue steps levels (v.prettyAt indent ++ rest) = some (v, rest)

section Lists

variable {levels indent steps : Nat} {rest : List Char}

theorem endsNumber_prettyItems (items : List Value) :
    EndsNumber (Value.prettyItems indent items ++ rest) := by
  intro c cs h
  cases items with
  | nil => cases h; decide
  | cons v vs => cases h; decide

theorem endsNumber_prettyMembers (members : List (String × Value)) :
    EndsNumber (Value.prettyMembers indent members ++ rest) := by
  intro c cs h
  cases members with
  | nil => cases h; decide
  | cons m ms => cases h; decide

theorem readItems_prettyItems {items : List Value} (each : ∀ v ∈ items, Reads levels v)
    (enough : (Value.prettyItems indent items).length < steps) :
    readItems steps levels (Value.prettyItems indent items ++ rest) = some (items, rest) := by
  obtain ⟨steps, rfl⟩ := Nat.exists_eq_succ_of_ne_zero (Nat.ne_zero_of_lt enough)
  induction items generalizing steps with
  | nil =>
      rw [Value.prettyItems, List.append_assoc, readItems, skipSpace_newLine]
      rfl
  | cons v vs ih =>
      obtain ⟨first, more⟩ := List.forall_mem_cons.1 each
      simp only [Value.prettyItems, List.cons_append, List.append_assoc, List.length_cons,
        List.length_append] at enough ⊢
      obtain ⟨steps, rfl⟩ : ∃ fewer, steps = fewer + 1 := ⟨steps - 1, by omega⟩
      have value : readValue (steps + 1) levels
          (v.prettyAt (indent + 1) ++ (Value.prettyItems indent vs ++ rest)) =
            some (v, Value.prettyItems indent vs ++ rest) :=
        first (by omega) (endsNumber_prettyItems vs)
      have tail : readItems (steps + 1) levels (Value.prettyItems indent vs ++ rest) =
          some (vs, rest) := ih more steps (by omega)
      rw [readItems, skipSpace_of_no_space _ rfl]
      simp only [readValue_congr (skipSpace_newLine _ _), value, tail, Option.bind_eq_bind,
        Option.bind_some, Option.pure_def]

theorem readMember_written {name : String} {v : Value} (reads : Reads levels v)
    (ends : EndsNumber rest) (enough : (v.prettyAt indent).length + 1 < steps) :
    readMember steps levels (quoted name ++ ':' :: ' ' :: (v.prettyAt indent ++ rest)) =
      some ((name, v), rest) := by
  obtain ⟨steps, rfl⟩ : ∃ fewer, steps = fewer + 1 := ⟨steps - 1, by omega⟩
  have plain : readValue steps levels (v.prettyAt indent ++ rest) = some (v, rest) :=
    reads (by omega) ends
  have value : readValue steps levels (' ' :: (v.prettyAt indent ++ rest)) = some (v, rest) :=
    (readValue_congr (by rfl) steps levels).trans plain
  rw [quoted, List.append_assoc, List.cons_append, readMember, skipSpace_of_no_space _ rfl]
  simp only [List.singleton_append, readText_quoted, skipSpace_of_no_space _ no_space_colon, value,
    Option.bind_eq_bind, Option.bind_some, Option.pure_def, String.ofList_toList]

theorem readMembers_prettyMembers {members : List (String × Value)}
    (each : ∀ m ∈ members, Reads levels m.2)
    (enough : (Value.prettyMembers indent members).length < steps) :
    readMembers steps levels (Value.prettyMembers indent members ++ rest) =
      some (members, rest) := by
  obtain ⟨steps, rfl⟩ := Nat.exists_eq_succ_of_ne_zero (Nat.ne_zero_of_lt enough)
  induction members generalizing steps with
  | nil =>
      rw [Value.prettyMembers, List.append_assoc, readMembers, skipSpace_newLine]
      rfl
  | cons m ms ih =>
      obtain ⟨name, v⟩ := m
      obtain ⟨first, more⟩ : Reads levels v ∧ ∀ m ∈ ms, Reads levels m.2 :=
        List.forall_mem_cons.1 each
      simp only [Value.prettyMembers, List.cons_append, List.append_assoc, List.length_cons,
        List.length_append] at enough ⊢
      obtain ⟨steps, rfl⟩ : ∃ fewer, steps = fewer + 1 := ⟨steps - 1, by omega⟩
      have member : readMember (steps + 1) levels (quoted name ++ ':' :: ' ' ::
          (v.prettyAt (indent + 1) ++ (Value.prettyMembers indent ms ++ rest))) =
            some ((name, v), Value.prettyMembers indent ms ++ rest) :=
        readMember_written first (endsNumber_prettyMembers ms) (by omega)
      have tail : readMembers (steps + 1) levels (Value.prettyMembers indent ms ++ rest) =
          some (ms, rest) := ih more steps (by omega)
      rw [readMembers, skipSpace_of_no_space _ rfl]
      simp only [readMember_congr (skipSpace_newLine _ _), member, tail, Option.bind_eq_bind,
        Option.bind_some, Option.pure_def]

end Lists

theorem not_space_of_digit {c : Char} {d : Nat} (h : digit? c = some d) : isSpace c = false := by
  rw [Bool.eq_false_iff]
  intro space
  simp only [isSpace, Bool.or_eq_true, beq_iff_eq] at space
  rcases space with ((rfl | rfl) | rfl) | rfl <;> cases h

theorem Fits.exists_prettyAt_eq {levels : Nat} {v : Value} (h : Fits levels v) (indent : Nat) :
    ∃ c cs, v.prettyAt indent = c :: cs ∧ isSpace c = false ∧ c ≠ ']' := by
  cases h with
  | null => exact ⟨_, _, rfl, rfl, by decide⟩
  | bool b => cases b <;> exact ⟨_, _, rfl, rfl, by decide⟩
  | number exact_number =>
      cases exact_number with
      | @natural n bound =>
          obtain ⟨c, cs, d, digits, digit⟩ := exists_toDigits_eq n
          refine ⟨c, cs, digits, not_space_of_digit digit, ?_⟩
          rintro rfl
          cases digit
      | negative above below => exact ⟨_, _, rfl, rfl, by decide⟩
  | string s => exact ⟨_, _, rfl, rfl, by decide⟩
  | @array levels items each => cases items <;> exact ⟨_, _, rfl, rfl, by decide⟩
  | @object levels members each => cases members <;> exact ⟨_, _, rfl, rfl, by decide⟩

theorem readValue_number {c : Char} {cs : List Char} (h : c = '-' ∨ ∃ d, digit? c = some d)
    (steps levels : Nat) :
    readValue (steps + 1) levels (c :: cs) =
      (readNumber (c :: cs)).map fun (n, rest) => (.number n, rest) := by
  have no_space : isSpace c = false := by
    rcases h with rfl | ⟨d, digit⟩
    · rfl
    · exact not_space_of_digit digit
  rw [readValue, skipSpace_of_no_space cs no_space]
  split
  all_goals first
    | rfl
    | next same =>
        cases same
        rcases h with h | ⟨d, digit⟩
        · cases h
        · cases digit

theorem reads_number {levels : Nat} {n : Number} (h : n.Exact) : Reads levels (.number n) := by
  intro indent steps rest enough ends
  obtain ⟨steps, rfl⟩ : ∃ fewer, steps = fewer + 1 := ⟨steps - 1, by omega⟩
  have head : ∃ c cs, n.text = c :: cs ∧ (c = '-' ∨ ∃ d, digit? c = some d) := by
    cases h with
    | @natural n bound =>
        obtain ⟨c, cs, d, digits, digit⟩ := exists_toDigits_eq n
        exact ⟨c, cs, digits, .inr ⟨d, digit⟩⟩
    | negative above below => exact ⟨_, _, rfl, .inl rfl⟩
  obtain ⟨c, cs, text, first⟩ := head
  have number := readNumber_text h ends
  rw [text] at number
  rw [Value.prettyAt, text, List.cons_append, readValue_number first, ← List.cons_append, number]
  rfl

theorem reads_array {levels : Nat} {items : List Value} (fit : ∀ v ∈ items, Fits levels v)
    (each : ∀ v ∈ items, Reads levels v) : Reads (levels + 1) (.array items) := by
  intro indent steps rest enough ends
  obtain ⟨steps, rfl⟩ : ∃ fewer, steps = fewer + 1 := ⟨steps - 1, by omega⟩
  cases items with
  | nil =>
      rw [Value.prettyAt, List.cons_append, readValue, skipSpace_of_no_space _ rfl]
      rfl
  | cons v vs =>
      obtain ⟨first, more⟩ := List.forall_mem_cons.1 each
      obtain ⟨c, cs, text, no_space, no_end⟩ :=
        (fit v List.mem_cons_self).exists_prettyAt_eq (indent + 1)
      simp only [Value.prettyAt, List.cons_append, List.append_assoc, List.length_cons,
        List.length_append] at enough ⊢
      have value : readValue steps levels
          (v.prettyAt (indent + 1) ++ (Value.prettyItems indent vs ++ rest)) =
            some (v, Value.prettyItems indent vs ++ rest) :=
        first (by omega) (endsNumber_prettyItems vs)
      have tail : readItems steps levels (Value.prettyItems indent vs ++ rest) =
          some (vs, rest) := readItems_prettyItems more (by omega)
      rw [text, List.cons_append] at value
      rw [readValue, skipSpace_of_no_space _ rfl]
      simp only [skipSpace_newLine, text, List.cons_append, skipSpace_of_no_space _ no_space]
      split
      · next closed => exact absurd (List.cons.inj closed).1 no_end
      · simp only [value, tail, Option.bind_eq_bind, Option.bind_some, Option.pure_def]

theorem reads_object {levels : Nat} {members : List (String × Value)}
    (each : ∀ m ∈ members, Reads levels m.2) : Reads (levels + 1) (.object members) := by
  intro indent steps rest enough ends
  obtain ⟨steps, rfl⟩ : ∃ fewer, steps = fewer + 1 := ⟨steps - 1, by omega⟩
  cases members with
  | nil =>
      rw [Value.prettyAt, List.cons_append, readValue, skipSpace_of_no_space _ rfl]
      rfl
  | cons m ms =>
      obtain ⟨name, v⟩ := m
      obtain ⟨first, more⟩ : Reads levels v ∧ ∀ m ∈ ms, Reads levels m.2 :=
        List.forall_mem_cons.1 each
      simp only [Value.prettyAt, List.cons_append, List.append_assoc, List.length_cons,
        List.length_append] at enough ⊢
      have member : readMember steps levels (quoted name ++ ':' :: ' ' ::
          (v.prettyAt (indent + 1) ++ (Value.prettyMembers indent ms ++ rest))) =
            some ((name, v), Value.prettyMembers indent ms ++ rest) :=
        readMember_written first (endsNumber_prettyMembers ms) (by omega)
      have tail : readMembers steps levels (Value.prettyMembers indent ms ++ rest) =
          some (ms, rest) := readMembers_prettyMembers more (by omega)
      rw [quoted, List.cons_append, List.cons_append] at member
      rw [readValue, skipSpace_of_no_space _ rfl]
      simp only [skipSpace_newLine, quoted, List.cons_append,
        skipSpace_of_no_space _ no_space_quote]
      split
      · next closed => exact absurd (List.cons.inj closed).1 (by decide)
      · simp only [member, tail, Option.bind_eq_bind, Option.bind_some, Option.pure_def]

theorem Fits.reads {levels : Nat} {v : Value} (h : Fits levels v) : Reads levels v := by
  induction h with
  | number h => exact reads_number h
  | array fit each => exact reads_array fit each
  | object fit each => exact reads_object each
  | null =>
      intro indent steps rest enough ends
      obtain ⟨steps, rfl⟩ : ∃ fewer, steps = fewer + 1 := ⟨steps - 1, by omega⟩
      rw [readValue]
      rfl
  | bool b =>
      intro indent steps rest enough ends
      obtain ⟨steps, rfl⟩ : ∃ fewer, steps = fewer + 1 := ⟨steps - 1, by omega⟩
      rw [readValue]
      cases b <;> rfl
  | string s =>
      intro indent steps rest enough ends
      obtain ⟨steps, rfl⟩ : ∃ fewer, steps = fewer + 1 := ⟨steps - 1, by omega⟩
      rw [Value.prettyAt, quoted, List.append_assoc, List.cons_append, readValue,
        skipSpace_of_no_space _ rfl]
      simp only [List.singleton_append, readText_quoted, Option.map_some, String.ofList_toList]

/-- A value that fits is what its whole text stands for. -/
theorem Fits.read?_prettyText {levels : Nat} {v : Value} (h : Fits levels v) :
    Value.read? levels v.prettyText = some v := by
  have ends : EndsNumber [] := fun _ _ comes => nomatch comes
  have fuel : (v.prettyAt 0).length < (v.prettyAt 0 ++ []).length + 1 := by
    rw [List.append_nil]
    exact Nat.lt_succ_self _
  have reads : Value.readPrefix? levels (v.prettyAt 0) = some (v, []) := by
    rw [Value.readPrefix?, ← List.append_nil (v.prettyAt 0)]
    exact h.reads fuel ends
  simp only [Value.read?, Value.prettyText, String.toList_ofList, reads, skipSpace]
  rfl

end RestRoutes.Json
