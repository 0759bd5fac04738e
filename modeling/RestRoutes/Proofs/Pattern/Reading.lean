import RestRoutes.Pattern.Reader
import RestRoutes.Proofs.Outcome

/-!
What the readers of patterns leave: each leaves an end of what it was given (`suffix_readEscape`,
`suffix_readBracketed`, `suffix_readOpening`, `suffix_readCount`). So every step uses up text.
-/
namespace RestRoutes.Pattern

theorem suffix_of_cons {c : Char} {cs rest : List Char} (h : c :: rest <:+ cs) : rest <:+ cs :=
  (List.suffix_cons c rest).trans h

/-- Most escapes are one character, and do not depend on what is behind it. -/
theorem escape_cases (extended : Bool) (c : Char) (cs cs' : List Char) :
    (∃ e, readEscape extended (c :: cs) = .ok (e, cs) ∧
      readEscape extended (c :: cs') = .ok (e, cs')) ∨
    (∃ flaw, readEscape extended (c :: cs) = .error flaw) ∨
    c ∈ ['x', 'u', 'U', 'p', 'P', 'b'] := by
  unfold readEscape
  dsimp only
  by_cases digit : isDigit c = true
  · simp only [if_pos digit]
    exact .inr (.inl ⟨_, rfl⟩)
  · simp only [if_neg digit]
    split
    all_goals first
      | exact .inl ⟨_, rfl, rfl⟩
      | exact .inr (.inr (by decide))
      | skip
    split
    · exact .inl ⟨_, rfl, rfl⟩
    · exact .inr (.inl ⟨_, rfl⟩)

/-! What a reader leaves is the end of what it was given. -/

section Suffix

variable {extended : Bool} {cs rest : List Char}

theorem suffix_scan (extended : Bool) (stop : Char → Bool) (comment : Bool) (cs : List Char) :
    (scan extended stop comment cs).2 <:+ cs := by
  fun_induction scan extended stop comment cs with
  | case1 => exact List.suffix_rfl
  | case2 comment c cs _ ih => exact ih.trans (List.suffix_cons c cs)
  | case3 comment c cs _ _ ih => exact ih.trans (List.suffix_cons c cs)
  | case4 comment c cs _ _ _ ih => exact ih.trans (List.suffix_cons c cs)
  | case5 => exact List.suffix_rfl
  | case6 comment c cs _ _ _ _ found rest scanned ih =>
      rw [scanned] at ih
      exact ih.trans (List.suffix_cons c cs)

theorem suffix_skip (extended : Bool) (cs : List Char) : skip extended cs <:+ cs :=
  suffix_scan _ _ _ _

theorem length_lt_of_skip {c : Char} {inner : List Char} (h : skip extended cs = c :: inner) :
    inner.length < cs.length := by
  have skipped := (suffix_skip extended cs).length_le
  rwa [h, List.length_cons] at skipped

theorem suffix_takeFixed {n : Nat} {found : List Char}
    (h : takeFixed extended n cs = .ok (found, rest)) : rest <:+ cs := by
  fun_induction takeFixed extended n cs generalizing found rest with
  | case1 cs => cases h; exact List.suffix_rfl
  | case2 => cases h
  | case3 n c cs ih =>
      obtain ⟨⟨found', rest'⟩, taken, same⟩ := bind_eq_ok_iff.1 h
      cases same
      exact ((ih taken).trans (suffix_skip extended cs)).trans (List.suffix_cons c cs)

theorem suffix_readBraced {found : List Char} (h : readBraced extended cs = .ok (found, rest)) :
    rest <:+ cs := by
  have scanned := suffix_scan extended (· == '}') false cs
  unfold readBraced at h
  split at h
  · cases h
  · next close after closed =>
      rw [closed] at scanned
      cases h
      exact suffix_of_cons scanned

theorem suffix_readHex {size : Nat} {c : Char}
    (h : readHex extended size cs = .ok (c, rest)) : rest <:+ cs := by
  have skipped := suffix_skip extended cs
  unfold readHex at h
  split at h
  · cases h
  · next inner opened =>
      rw [opened] at skipped
      obtain ⟨⟨digits, after⟩, read, h⟩ := bind_eq_ok_iff.1 h
      obtain ⟨d, _, same⟩ := bind_eq_ok_iff.1 h
      cases same
      exact (suffix_skip _ _).trans ((suffix_readBraced read).trans (suffix_of_cons skipped))
  · obtain ⟨⟨digits, after⟩, taken, h⟩ := bind_eq_ok_iff.1 h
    obtain ⟨d, _, same⟩ := bind_eq_ok_iff.1 h
    cases same
    exact (suffix_takeFixed taken).trans skipped

theorem suffix_readPropertyName {name : List Char}
    (h : readPropertyName extended cs = .ok (name, rest)) : rest <:+ cs := by
  have skipped := suffix_skip extended cs
  unfold readPropertyName at h
  split at h
  · cases h
  · next inner opened =>
      rw [opened] at skipped
      exact (suffix_readBraced h).trans (suffix_of_cons skipped)
  · cases h
  · next c cs' _ _ opened =>
      rw [opened] at skipped
      cases h
      exact (suffix_skip _ _).trans (suffix_of_cons skipped)

theorem suffix_readProperty {negated : Bool} {e : Expr}
    (h : readProperty extended negated cs = .ok (e, rest)) : rest <:+ cs := by
  obtain ⟨⟨name, after⟩, named, h⟩ := bind_eq_ok_iff.1 h
  simp only at h
  split at h <;> cases h
  exact suffix_readPropertyName named

theorem suffix_readBoundary {a : Anchor} (h : readBoundary extended cs = .ok (a, rest)) :
    rest <:+ cs := by
  unfold readBoundary at h
  split at h
  · next inner =>
      split at h
      · cases h
      · split at h
        · cases h
          exact List.suffix_rfl
        · have scanned := suffix_scan extended (!isBoundaryChar ·) false inner
          simp only at h
          split at h
          · next after closed =>
              rw [closed] at scanned
              have behind := suffix_of_cons (scanned.trans (List.suffix_cons '{' inner))
              split at h <;> cases h
              exact behind
          · cases h
  · cases h
    exact List.suffix_rfl

theorem suffix_readEscape {e : Expr} (h : readEscape extended cs = .ok (e, rest)) :
    rest <:+ cs := by
  cases cs with
  | nil => cases h
  | cons c cs =>
      refine List.IsSuffix.trans ?_ (List.suffix_cons c cs)
      rcases escape_cases extended c cs cs with ⟨e', single, _⟩ | ⟨flaw, wrong⟩ | longer
      · rw [single] at h
        cases h
        exact List.suffix_rfl
      · rw [wrong] at h
        cases h
      · simp only [List.mem_cons, List.not_mem_nil, or_false] at longer
        rcases longer with rfl | rfl | rfl | rfl | rfl | rfl
        all_goals first
          | exact suffix_readProperty h
          | obtain ⟨⟨_, after⟩, read, same⟩ := bind_eq_ok_iff.1 h
            cases same
            first | exact suffix_readHex read | exact suffix_readBoundary read

theorem suffix_namedClass? {negated : Bool} {c : ClassExpr}
    (h : namedClass? negated cs = some (c, rest)) : rest <:+ cs := by
  have dropped : cs.dropWhile (· != ':') <:+ cs := List.dropWhile_suffix _
  unfold namedClass? at h
  split at h
  · next after closed =>
      rw [closed] at dropped
      obtain ⟨members, _, same⟩ := Option.map_eq_some_iff.1 h
      cases same
      exact suffix_of_cons (suffix_of_cons dropped)
  · cases h

theorem suffix_asciiClass? {c : ClassExpr} (h : asciiClass? cs = some (c, rest)) :
    rest <:+ cs := by
  unfold asciiClass? at h
  split at h
  · exact (suffix_namedClass? h).trans (suffix_of_cons (List.suffix_cons _ _))
  · exact (suffix_namedClass? h).trans (List.suffix_cons _ _)
  · cases h

theorem suffix_readNegation (extended : Bool) (cs : List Char) :
    (readNegation extended cs).2 <:+ cs := by
  have skipped := suffix_skip extended cs
  unfold readNegation
  split
  · next negated =>
      rw [negated] at skipped
      exact (suffix_skip _ _).trans (suffix_of_cons skipped)
  · exact skipped

theorem suffix_readClassOpen {negated : Bool} {items : List ClassExpr}
    (h : readClassOpen extended cs = .ok (negated, items, rest)) : rest <:+ cs := by
  have scanned := (suffix_scan extended (· != '-') false (readNegation extended cs).2).trans
    (suffix_readNegation extended cs)
  unfold readClassOpen at h
  dsimp only at h
  split at h
  · cases h
  · next inner bracket =>
      rw [bracket] at scanned
      split at h
      · split at h
        · cases h
        · cases h
          exact (suffix_skip _ _).trans (suffix_of_cons scanned)
      · cases h
        rwa [bracket]
  · cases h
    exact scanned

theorem suffix_readClassItem {e : Expr} (h : readClassItem extended cs = .ok (e, rest)) :
    rest <:+ cs := by
  unfold readClassItem at h
  split at h
  · cases h
  · exact (suffix_readEscape h).trans (List.suffix_cons _ _)
  · cases h
    exact List.suffix_cons _ _

theorem suffix_readRangeFrom {first : Expr} {c : ClassExpr}
    (h : readRangeFrom extended first cs = .ok (c, rest)) : rest <:+ cs := by
  have skipped := suffix_skip extended cs
  unfold readRangeFrom at h
  split at h
  · cases h
  · next inner hyphen =>
      rw [hyphen] at skipped
      dsimp only at h
      split at h
      · obtain ⟨c', _, same⟩ := bind_eq_ok_iff.1 h
        cases same
        exact skipped
      · obtain ⟨⟨second, after⟩, read, h⟩ := bind_eq_ok_iff.1 h
        obtain ⟨lo, _, h⟩ := bind_eq_ok_iff.1 h
        obtain ⟨hi, _, h⟩ := bind_eq_ok_iff.1 h
        split at h <;> cases h
        exact (suffix_readClassItem read).trans
          ((suffix_skip _ _).trans (suffix_of_cons skipped))
  · obtain ⟨c', _, same⟩ := bind_eq_ok_iff.1 h
    cases same
    exact skipped

theorem suffix_readClassRange {c : ClassExpr}
    (h : readClassRange extended cs = .ok (c, rest)) : rest <:+ cs := by
  obtain ⟨⟨first, after⟩, read, h⟩ := bind_eq_ok_iff.1 h
  exact (suffix_readRangeFrom h).trans (suffix_readClassItem read)

theorem readClass_step {steps : Nat} {stack : List ClassFrame} {items : List ClassExpr}
    {c : ClassExpr} (h : readClass extended (steps + 1) stack items cs = .ok (c, rest)) :
    skip extended cs = ']' :: rest ∨ ∃ stack' items' after, after <:+ skip extended cs ∧
      readClass extended steps stack' items' after = .ok (c, rest) := by
  unfold readClass at h
  dsimp only at h
  split at h
  · cases h
  · next inner opened =>
      have inside : inner <:+ skip extended cs := opened ▸ List.suffix_cons _ _
      split at h
      · next read => exact .inr ⟨_, _, _, (suffix_asciiClass? read).trans inside, h⟩
      · obtain ⟨⟨negated, items', after⟩, read, h⟩ := bind_eq_ok_iff.1 h
        exact .inr ⟨_, _, _, (suffix_readClassOpen read).trans inside, h⟩
  · next after closed =>
      split at h
      · split at h
        · cases h
          exact .inl closed
        · exact .inr ⟨_, _, _, closed ▸ List.suffix_cons _ _, h⟩
      · cases h
  · next sign => exact .inr ⟨_, _, _, sign ▸ suffix_of_cons (List.suffix_cons _ _), h⟩
  · next sign => exact .inr ⟨_, _, _, sign ▸ suffix_of_cons (List.suffix_cons _ _), h⟩
  · next sign => exact .inr ⟨_, _, _, sign ▸ suffix_of_cons (List.suffix_cons _ _), h⟩
  · obtain ⟨⟨item, after⟩, read, h⟩ := bind_eq_ok_iff.1 h
    exact .inr ⟨_, _, _, suffix_readClassRange read, h⟩

theorem suffix_readClass {steps : Nat} {stack : List ClassFrame} {items : List ClassExpr}
    {c : ClassExpr} (h : readClass extended steps stack items cs = .ok (c, rest)) :
    rest <:+ cs := by
  induction steps generalizing stack items cs with
  | zero => cases h
  | succ steps ih =>
      refine List.IsSuffix.trans ?_ (suffix_skip extended cs)
      rcases readClass_step h with closed | ⟨stack', items', after, behind, h⟩
      · rw [closed]
        exact List.suffix_cons _ _
      · exact (ih h).trans behind

theorem suffix_readBracketed {c : ClassExpr} (h : readBracketed extended cs = .ok (c, rest)) :
    rest <:+ cs := by
  unfold readBracketed at h
  obtain ⟨⟨negated, items, after⟩, opened, h⟩ := bind_eq_ok_iff.1 h
  exact (suffix_readClass h).trans (suffix_readClassOpen opened)

theorem suffix_readFlags {on : Bool} {seen changes : List FlagChange}
    (h : readFlags on seen cs = .ok (changes, rest)) : rest <:+ cs := by
  fun_induction readFlags on seen cs with
  | case1 => cases h
  | case2 => cases h
  | case3 => cases h
  | case4 seen c cs plain ih => exact (ih h).trans (List.suffix_cons _ _)
  | case5 => cases h
  | case6 => cases h; exact List.suffix_rfl
  | case7 => cases h
  | case8 => cases h
  | case9 on seen c cs _ _ _ _ _ ih => exact (ih h).trans (List.suffix_cons _ _)

theorem suffix_readGroupName {name : String} (h : readGroupName cs = .ok (name, rest)) :
    rest <:+ cs := by
  unfold readGroupName at h
  split at h
  · next c name' close after _ closed =>
      have dropped : cs.dropWhile (· != '>') <:+ cs := List.dropWhile_suffix _
      rw [closed] at dropped
      split at h <;> cases h
      exact suffix_of_cons dropped
  · cases h

theorem suffix_readFlagged {opening : Opening} (h : readFlagged cs = .ok (opening, rest)) :
    rest <:+ cs := by
  obtain ⟨⟨changes, after⟩, read, h⟩ := bind_eq_ok_iff.1 h
  cases after with
  | nil => cases h
  | cons c after =>
      obtain ⟨opening', _, same⟩ := bind_eq_ok_iff.1 h
      cases same
      exact suffix_of_cons (suffix_readFlags read)

theorem suffix_readMarked {opening : Opening} (h : readMarked cs = .ok (opening, rest)) :
    rest <:+ cs := by
  unfold readMarked at h
  split at h
  any_goals cases h
  · obtain ⟨⟨name, after⟩, read, same⟩ := bind_eq_ok_iff.1 h
    cases same
    exact (suffix_readGroupName read).trans (suffix_of_cons (List.suffix_cons _ _))
  · obtain ⟨⟨name, after⟩, read, same⟩ := bind_eq_ok_iff.1 h
    cases same
    exact (suffix_readGroupName read).trans (List.suffix_cons _ _)
  · exact suffix_readFlagged h

theorem suffix_readOpening {opening : Opening} (h : readOpening extended cs = .ok (opening, rest)) :
    rest <:+ cs := by
  have skipped := suffix_skip extended cs
  unfold readOpening at h
  split at h
  · next inner mark =>
      rw [mark] at skipped
      exact (suffix_readMarked h).trans (suffix_of_cons skipped)
  · cases h
    exact skipped

theorem suffix_readDecimal (extended : Bool) (cs : List Char) :
    (readDecimal extended cs).2 <:+ cs :=
  ((suffix_skip _ _).trans (List.dropWhile_suffix _)).trans
    ((suffix_scan _ _ _ _).trans (List.dropWhile_suffix _))

theorem suffix_readLazy (cs : List Char) : (readLazy cs).2 <:+ cs := by
  unfold readLazy
  split
  · exact List.suffix_cons _ _
  · exact List.suffix_rfl

theorem suffix_readMost {max : Option Nat} (h : readMost extended cs = .ok (max, rest)) :
    rest <:+ cs := by
  have skipped := suffix_skip extended cs
  unfold readMost at h
  split at h
  · next closed =>
      rw [closed] at skipped
      cases h
      exact suffix_of_cons skipped
  · have read := (suffix_readDecimal extended (skip extended cs)).trans skipped
    dsimp only at h
    obtain ⟨most, _, h⟩ := bind_eq_ok_iff.1 h
    split at h
    · next closed =>
        rw [closed] at read
        cases h
        exact suffix_of_cons read
    · cases h

theorem suffix_readBounds {min : Nat} {max : Option Nat}
    (h : readBounds extended cs = .ok (min, max, rest)) : rest <:+ cs := by
  have read := (suffix_readDecimal extended (skip extended cs)).trans (suffix_skip extended cs)
  unfold readBounds at h
  dsimp only at h
  obtain ⟨least, _, h⟩ := bind_eq_ok_iff.1 h
  split at h
  · next comma =>
      rw [comma] at read
      obtain ⟨⟨most, after⟩, read', same⟩ := bind_eq_ok_iff.1 h
      cases same
      exact (suffix_readMost read').trans (suffix_of_cons read)
  · next closed =>
      rw [closed] at read
      cases h
      exact suffix_of_cons read
  · cases h

theorem suffix_readCount {min : Nat} {max : Option Nat}
    (h : readCount extended cs = .ok (min, max, rest)) : rest <:+ cs := by
  obtain ⟨⟨min', max', after⟩, read, h⟩ := bind_eq_ok_iff.1 h
  dsimp only at h
  split at h <;> cases h
  exact (suffix_skip _ _).trans (suffix_readBounds read)

end Suffix

end RestRoutes.Pattern
