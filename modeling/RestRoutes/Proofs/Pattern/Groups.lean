import RestRoutes.Proofs.Pattern.Enclosed

/-!
Groups and counts with the closing of a pattern behind them. Names and counts need a sign to end
with that the closing does not have; flags can end with its parenthesis, which is gone then.
-/
namespace RestRoutes.Pattern

section Agreement

variable {extended : Bool} {cs rest' : List Char}

/-! Groups -/

theorem readFlags_of_flag {on : Bool} {seen : List FlagChange} {c : Char} (no_minus : c ≠ '-') :
    readFlags on seen (c :: cs) =
      if c == ':' || c == ')' then .ok (seen.reverse, c :: cs)
      else match flagOf? c with
        | none => .error (.unknownFlag c)
        | some f =>
          if seen.any (·.1 == f) then .error .repeatedFlag
          else readFlags on ((f, on) :: seen) cs := by
  rw [readFlags.eq_def]
  split
  · next same => cases same
  · next same =>
      cases same
      exact absurd rfl no_minus
  · next same =>
      cases same
      rfl

theorem agrees_readFlags {on : Bool} {seen changes : List FlagChange}
    (h : readFlags on seen (cs ++ closing) = .ok (changes, rest')) :
    (∃ rest, readFlags on seen cs = .ok (changes, rest) ∧ rest' = rest ++ closing) ∨
      rest' = closing := by
  fun_induction readFlags on seen cs with
  | case1 => cases h; exact .inr rfl
  | case2 => cases h
  | case3 seen c cs ends =>
      rw [List.cons_append, List.cons_append, readFlags, if_pos ends] at h
      cases h
  | case4 seen c cs plain ih =>
      rw [List.cons_append, List.cons_append, readFlags, if_neg plain] at h
      exact ih h
  | case5 => cases h
  | case6 on seen c cs no_minus ends =>
      rw [List.cons_append, readFlags_of_flag no_minus, if_pos ends] at h
      cases h
      exact .inl ⟨c :: cs, rfl, rfl⟩
  | case7 on seen c cs no_minus plain unknown =>
      rw [List.cons_append, readFlags_of_flag no_minus, if_neg plain, unknown] at h
      cases h
  | case8 on seen c cs no_minus plain f known twice =>
      rw [List.cons_append, readFlags_of_flag no_minus, if_neg plain, known] at h
      simp only [if_pos twice] at h
      cases h
  | case9 on seen c cs no_minus plain f known fresh ih =>
      rw [List.cons_append, readFlags_of_flag no_minus, if_neg plain, known] at h
      simp only [if_neg fresh] at h
      exact ih h

theorem readGroupName_append {name : String}
    (h : readGroupName (cs ++ closing) = .ok (name, rest')) :
    ∃ rest, readGroupName cs = .ok (name, rest) ∧ rest' = rest ++ closing := by
  unfold readGroupName at h ⊢
  rcases span_append (p := (· != '>')) rfl rfl cs with
    ⟨beyond, _⟩ | ⟨c, rest, alone, drop, take⟩
  · rw [beyond] at h
    split at h
    · next none_left => cases none_left
    · cases h
  · rw [drop, take] at h
    rw [alone]
    cases named : cs.takeWhile (· != '>') with
    | nil =>
        rw [named] at h
        cases h
    | cons d name' =>
        rw [named] at h
        dsimp only at h ⊢
        split at h
        · next valid =>
            cases h
            exact ⟨rest, by rw [if_pos valid], rfl⟩
        · cases h

theorem agrees_readFlagged {opening : Opening}
    (h : readFlagged (cs ++ closing) = .ok (opening, rest')) :
    Agrees past (readFlagged cs) opening rest' := by
  obtain ⟨⟨changes, after⟩, read, h⟩ := bind_eq_ok_iff.1 h
  rcases agrees_readFlags read with ⟨_ | ⟨c, rest⟩, alone, rfl⟩ | rfl
  · obtain ⟨opening', _, same⟩ := bind_eq_ok_iff.1 h
    cases same
    exact .inr List.suffix_rfl
  · obtain ⟨opening', ended, same⟩ := bind_eq_ok_iff.1 h
    cases same
    exact .inl ⟨rest, bind_eq_ok_iff.2 ⟨_, alone, bind_eq_ok_iff.2 ⟨_, ended, rfl⟩⟩, rfl⟩
  · obtain ⟨opening', _, same⟩ := bind_eq_ok_iff.1 h
    cases same
    exact .inr List.suffix_rfl

theorem readMarked_of_angle {inner : List Char} (no_equals : inner.head? ≠ some '=')
    (no_mark : inner.head? ≠ some '!') :
    readMarked ('<' :: inner) = (do
      let (name, rest) ← readGroupName inner
      return (.numbered (some name), rest)) := by
  unfold readMarked
  split <;> simp_all

theorem readMarked_of_flag {c : Char} (plain : c ∉ ['=', '!', '<'])
    (no_name : ¬(c = 'P' ∧ cs.head? = some '<')) :
    readMarked (c :: cs) = readFlagged (c :: cs) := by
  unfold readMarked
  split <;> simp_all

theorem agrees_readMarked {opening : Opening}
    (h : readMarked (cs ++ closing) = .ok (opening, rest')) :
    Agrees past (readMarked cs) opening rest' := by
  rcases cs with _ | ⟨c, cs⟩
  · have h : readFlagged ([] ++ closing) = .ok (opening, rest') := h
    exact agrees_readFlagged h
  · rw [List.cons_append] at h
    by_cases plain : c ∉ ['=', '!', '<']
    · by_cases named : c = 'P' ∧ cs.head? = some '<'
      · obtain ⟨rfl, angle⟩ := named
        obtain ⟨inner, rfl⟩ := List.head?_eq_some_iff.1 angle
        obtain ⟨⟨name, after⟩, read, same⟩ := bind_eq_ok_iff.1 h
        cases same
        obtain ⟨rest, alone, rfl⟩ := readGroupName_append read
        exact .inl ⟨rest, bind_eq_ok_iff.2 ⟨_, alone, rfl⟩, rfl⟩
      · have named' : ¬(c = 'P' ∧ (cs ++ closing).head? = some '<') := by
          rwa [head?_append_closing (by decide) _]
        rw [readMarked_of_flag plain named', ← List.cons_append] at h
        rw [readMarked_of_flag plain named]
        exact agrees_readFlagged h
    · simp only [List.mem_cons, List.not_mem_nil, or_false, Decidable.not_not] at plain
      rcases plain with rfl | rfl | rfl
      · cases h
      · cases h
      · by_cases equals : cs.head? = some '='
        · obtain ⟨inner, rfl⟩ := List.head?_eq_some_iff.1 equals
          cases h
        · by_cases mark : cs.head? = some '!'
          · obtain ⟨inner, rfl⟩ := List.head?_eq_some_iff.1 mark
            cases h
          · rw [readMarked_of_angle (by rwa [ne_eq, head?_append_closing (by decide) _])
              (by rwa [ne_eq, head?_append_closing (by decide) _])] at h
            rw [readMarked_of_angle equals mark]
            obtain ⟨⟨name, after⟩, read, same⟩ := bind_eq_ok_iff.1 h
            cases same
            obtain ⟨rest, alone, rfl⟩ := readGroupName_append read
            exact .inl ⟨rest, bind_eq_ok_iff.2 ⟨_, alone, rfl⟩, rfl⟩

theorem agrees_readOpening {opening : Opening}
    (h : readOpening extended (cs ++ closing) = .ok (opening, rest')) :
    Agrees past (readOpening extended cs) opening rest' := by
  have plain : ∀ {cs c inner}, skip extended cs = c :: inner → c ≠ '?' →
      readOpening extended cs = .ok (.numbered none, c :: inner) := by
    intro cs c inner skipped other
    rw [readOpening, skipped]
    split <;> simp_all
  rcases skip_append extended cs with same | none_left
  · cases behind : skip extended cs with
    | nil =>
        rw [behind] at same
        rw [plain same (by decide)] at h
        cases h
        exact .inl ⟨[], by rw [readOpening, behind], rfl⟩
    | cons c inner =>
        rw [behind, List.cons_append] at same
        by_cases mark : c = '?'
        · subst mark
          rw [readOpening, same] at h
          rw [readOpening, behind]
          exact agrees_readMarked h
        · rw [plain same mark] at h
          cases h
          exact .inl ⟨c :: inner, plain behind mark, rfl⟩
  · rw [readOpening, none_left] at h
    cases h
    exact .inr List.nil_suffix

/-! Counts -/

theorem dropWhile_isBlank_append (cs : List Char) :
    (cs ++ closing).dropWhile isBlank = cs.dropWhile isBlank ++ closing := by
  induction cs with
  | nil => simp [closing, isBlank_paren]
  | cons c cs ih => cases blank : isBlank c <;> simp [blank, ih]

theorem readDecimal_append (extended : Bool) (cs : List Char) :
    readDecimal extended (cs ++ closing) =
        ((readDecimal extended cs).1, (readDecimal extended cs).2 ++ closing) ∨
      (readDecimal extended (cs ++ closing)).2 = [] := by
  unfold readDecimal
  rw [dropWhile_isBlank_append]
  rcases scan_append (!isDigit ·) (by decide) extended false (cs.dropWhile isBlank) with
    same | none_left
  · rw [same]
    dsimp only
    rw [dropWhile_isBlank_append]
    rcases skip_append extended
      ((scan extended (!isDigit ·) false (cs.dropWhile isBlank)).2.dropWhile isBlank) with
      same | none_left
    · exact .inl (by rw [same])
    · exact .inr none_left
  · dsimp only
    rw [none_left]
    exact .inr rfl

theorem readDecimal_nil (extended : Bool) :
    (readDecimal extended []).1 = .error .badCount := by
  cases extended <;> rfl

theorem readLazy_append (cs : List Char) :
    readLazy (cs ++ closing) = ((readLazy cs).1, (readLazy cs).2 ++ closing) := by
  cases cs with
  | nil => rfl
  | cons c cs => by_cases mark : c = '?' <;> simp [readLazy, mark]

theorem readMost_of_decimal (h : (skip extended cs).head? ≠ some '}') :
    readMost extended cs = (do
      let max ← (readDecimal extended (skip extended cs)).1
      let '}' :: rest := (readDecimal extended (skip extended cs)).2 | throw .badCount
      return (some max, rest)) := by
  unfold readMost
  split
  · next closed => exact absurd (by rw [closed]; rfl) h
  · rfl

theorem readMost_append {max : Option Nat}
    (h : readMost extended (cs ++ closing) = .ok (max, rest')) :
    ∃ rest, readMost extended cs = .ok (max, rest) ∧ rest' = rest ++ closing := by
  rcases skip_append extended cs with same | none_left
  · by_cases open_end : (skip extended cs).head? = some '}'
    · obtain ⟨inner, behind⟩ := List.head?_eq_some_iff.1 open_end
      rw [behind, List.cons_append] at same
      rw [readMost, same] at h
      cases h
      exact ⟨inner, by rw [readMost, behind]; rfl, rfl⟩
    · have open_end' : (skip extended (cs ++ closing)).head? ≠ some '}' := by
        rwa [same, ne_eq, head?_append_closing (by decide) _]
      rw [readMost_of_decimal open_end', same] at h
      rw [readMost_of_decimal open_end]
      obtain ⟨most, bound, h⟩ := bind_eq_ok_iff.1 h
      split at h
      · next after closed =>
          cases h
          rcases readDecimal_append extended (skip extended cs) with same | none_left
          · rw [same] at bound closed
            obtain ⟨rest, alone, rfl⟩ := cons_of_append_closing (by decide) closed
            refine ⟨rest, bind_eq_ok_iff.2 ⟨_, bound, ?_⟩, rfl⟩
            rw [alone]
            rfl
          · rw [none_left] at closed
            cases closed
      · cases h
  · rw [readMost, none_left] at h
    dsimp only at h
    rw [readDecimal_nil] at h
    cases h

theorem readBounds_append {min : Nat} {max : Option Nat}
    (h : readBounds extended (cs ++ closing) = .ok (min, max, rest')) :
    ∃ rest, readBounds extended cs = .ok (min, max, rest) ∧ rest' = rest ++ closing := by
  unfold readBounds at h ⊢
  dsimp only at h ⊢
  obtain ⟨least, bound, h⟩ := bind_eq_ok_iff.1 h
  rcases skip_append extended cs with same | none_left
  · rw [same] at bound h
    rcases readDecimal_append extended (skip extended cs) with same | none_left
    · rw [same] at bound h
      dsimp only at bound h
      split at h
      · next comma =>
          obtain ⟨inner, within, rfl⟩ := cons_of_append_closing (by decide) comma
          obtain ⟨⟨most, after⟩, read, same⟩ := bind_eq_ok_iff.1 h
          cases same
          obtain ⟨rest, alone, rfl⟩ := readMost_append read
          refine ⟨rest, bind_eq_ok_iff.2 ⟨_, bound, ?_⟩, rfl⟩
          rw [within]
          exact bind_eq_ok_iff.2 ⟨_, alone, rfl⟩
      · next closed =>
          obtain ⟨rest, within, rfl⟩ := cons_of_append_closing (by decide) closed
          cases h
          refine ⟨rest, bind_eq_ok_iff.2 ⟨_, bound, ?_⟩, rfl⟩
          rw [within]
          rfl
      · cases h
    · rw [none_left] at h
      cases h
  · rw [none_left, readDecimal_nil] at bound
    cases bound

theorem readCount_append {min : Nat} {max : Option Nat}
    (h : readCount extended (cs ++ closing) = .ok (min, max, rest')) :
    (∃ rest, readCount extended cs = .ok (min, max, rest) ∧ rest' = rest ++ closing) ∨
      rest' = [] := by
  obtain ⟨⟨min', max', after⟩, read, h⟩ := bind_eq_ok_iff.1 h
  obtain ⟨rest, alone, rfl⟩ := readBounds_append read
  dsimp only at h
  split at h
  · cases h
  · next order =>
      cases h
      rcases skip_append extended rest with same | none_left
      · refine .inl ⟨_, bind_eq_ok_iff.2 ⟨_, alone, ?_⟩, same⟩
        dsimp only
        rw [if_neg order]
        rfl
      · exact .inr none_left

end Agreement

end RestRoutes.Pattern
