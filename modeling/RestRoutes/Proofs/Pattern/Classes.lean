import RestRoutes.Proofs.Pattern.Enclosed

/-!
Classes with the closing of a pattern behind them. A class needs a bracket to be closed with, and
the closing has none, so what is read of a class is read in the pattern (`readBracketed_append`).
-/
namespace RestRoutes.Pattern

section Agreement

variable {extended : Bool} {cs rest' : List Char}

theorem peekPast_go_append (comment : Bool) (cs : List Char) :
    peekPast.go comment (cs ++ closing) = (peekPast.go comment cs).or (some ')') := by
  induction cs generalizing comment with
  | nil => cases comment <;> simp [closing, peekPast.go, isBlank_paren]
  | cons c cs ih =>
      rw [List.cons_append]
      unfold peekPast.go
      split
      · exact ih _
      · split
        · exact ih _
        · rfl

theorem head?_of_peekPast_go {c : Char} (plain : isBlank c = false) (no_sign : c ≠ '#')
    (h : peekPast.go false cs = none) : cs.head? ≠ some c := by
  cases cs with
  | nil => simp
  | cons d cs =>
      rw [peekPast.go] at h
      rintro ⟨⟩
      simp [plain, no_sign] at h

/-- Whether a hyphen stands for itself is up to what the pattern has behind it. -/
theorem peekPast_append (extended : Bool) (cs : List Char) {c : Char}
    (plain : isBlank c = false) (no_sign : c ≠ '#') (other : c ≠ ')') :
    peekPast extended (cs ++ closing) = some c ↔ peekPast extended cs = some c := by
  unfold peekPast
  cases extended with
  | false => exact head?_append_closing other cs
  | true =>
      simp only [if_true, peekPast_go_append]
      cases ahead : peekPast.go false cs with
      | some d => rfl
      | none => simp [head?_of_peekPast_go plain no_sign ahead, Ne.symm other]

theorem namedClass?_append (negated : Bool) (cs : List Char) :
    namedClass? negated (cs ++ closing) =
      (namedClass? negated cs).map fun (c, rest) => (c, rest ++ closing) := by
  unfold namedClass?
  rcases span_append (p := (· != ':')) rfl rfl cs with
    ⟨beyond, alone⟩ | ⟨c, rest, alone, drop, take⟩
  · rw [beyond, alone]
    rfl
  · rw [drop, take, alone]
    cases rest with
    | nil => simp [closing]
    | cons d rest =>
        by_cases closes : c = ':' ∧ d = ']'
        · obtain ⟨rfl, rfl⟩ := closes
          simp [Function.comp_def]
        · rw [List.cons_append]
          split <;> simp_all

theorem asciiClass?_append (cs : List Char) :
    asciiClass? (cs ++ closing) = (asciiClass? cs).map fun (c, rest) => (c, rest ++ closing) := by
  rcases cs with _ | ⟨c, _ | ⟨d, cs⟩⟩
  · rfl
  · by_cases colon : c = ':'
    · subst colon
      rfl
    · simp [asciiClass?, colon]
  · by_cases colon : c = ':'
    · subst colon
      by_cases sign : d = '^'
      · subst sign
        exact namedClass?_append true cs
      · have plain := namedClass?_append false (d :: cs)
        simpa [asciiClass?, sign] using plain
    · simp [asciiClass?, colon]

theorem agrees_readClassItem {e : Expr}
    (h : readClassItem extended (cs ++ closing) = .ok (e, rest')) :
    Agrees past (readClassItem extended cs) e rest' ∨ ∃ a, e = .anchor a := by
  cases cs with
  | nil =>
      have item : readClassItem extended closing = .ok (.char ')' false, past) := rfl
      rw [List.nil_append, item] at h
      cases h
      exact .inl (.inr List.suffix_rfl)
  | cons c cs =>
      by_cases escape : c = '\\'
      · subst escape
        exact (agrees_readEscape h).imp id fun stuck => stuck.1
      · have single : ∀ cs, readClassItem extended (c :: cs) = .ok (.char c false, cs) := by
          intro cs
          unfold readClassItem
          split <;> simp_all
        rw [List.cons_append, single] at h
        cases h
        exact .inl (.inl ⟨cs, single cs, rfl⟩)

theorem length_lt_of_readClassItem {e : Expr} {rest : List Char}
    (h : readClassItem extended cs = .ok (e, rest)) : rest.length < cs.length := by
  unfold readClassItem at h
  split at h
  · cases h
  · exact Nat.lt_succ_of_le (suffix_readEscape h).length_le
  · cases h
    exact Nat.lt_succ_self _

theorem readNegation_append (extended : Bool) (cs : List Char) :
    readNegation extended (cs ++ closing) =
        ((readNegation extended cs).1, (readNegation extended cs).2 ++ closing) ∨
      (readNegation extended (cs ++ closing)).2 = [] := by
  unfold readNegation
  rcases skip_append extended cs with same | none_left
  · rw [same]
    cases skip extended cs with
    | nil => exact .inl rfl
    | cons c inner =>
        by_cases sign : c = '^'
        · subst sign
          rcases skip_append extended inner with same | none_left
          · exact .inl (by simp [same])
          · exact .inr none_left
        · exact .inl (by simp [sign])
  · rw [none_left]
    exact .inr rfl

theorem agrees_readClassOpen {negated : Bool} {items : List ClassExpr}
    (h : readClassOpen extended (cs ++ closing) = .ok (negated, items, rest')) :
    (∃ rest, readClassOpen extended cs = .ok (negated, items, rest) ∧ rest' = rest ++ closing) ∨
      rest' = closing := by
  unfold readClassOpen at h ⊢
  dsimp only at h ⊢
  rcases readNegation_append extended cs with same | none_left
  · rw [same] at h
    dsimp only at h
    rcases scan_append (· != '-') rfl extended false (readNegation extended cs).2 with
      same | none_left
    · rw [same] at h
      generalize scan extended (· != '-') false (readNegation extended cs).2 = scanned at h ⊢
      obtain ⟨hyphens, inner⟩ := scanned
      dsimp only at h ⊢
      cases inner with
      | nil =>
          cases h
          exact .inr rfl
      | cons c inner =>
          by_cases bracket : c = ']'
          · subst bracket
            rw [List.cons_append] at h
            simp only at h ⊢
            by_cases none_yet : (hyphens.map ClassExpr.char).isEmpty = true
            · rw [if_pos none_yet] at h ⊢
              rcases skip_append extended inner with same | none_left
              · rw [same] at h
                cases behind : skip extended inner with
                | nil =>
                    rw [behind] at h
                    cases h
                    exact .inr rfl
                | cons d rest =>
                    rw [behind] at h
                    cases h
                    exact .inl ⟨_, rfl, rfl⟩
              · rw [none_left] at h
                cases h
            · rw [if_neg none_yet] at h ⊢
              cases h
              exact .inl ⟨_, rfl, rfl⟩
          · refine .inl ⟨c :: inner, ?_⟩
            simp_all [pure, Except.pure]
    · rw [none_left] at h
      cases h
  · rw [none_left] at h
    cases h

theorem readRangeFrom_of_hyphen {first : Expr} {inner : List Char}
    (h : skip extended cs = '-' :: inner) :
    readRangeFrom extended first cs =
      if peekPast extended inner = some ']' ∨ peekPast extended inner = some '-' then
        (do return (← itemOf first, '-' :: inner))
      else (do
        let (second, rest) ← readClassItem extended (skip extended inner)
        let lo ← endOf first
        let hi ← endOf second
        if lo ≤ hi then return (.range lo hi, rest) else throw .rangeOutOfOrder) := by
  rw [readRangeFrom, h]
  simp only [Bool.or_eq_true, beq_iff_eq]

theorem readRangeFrom_of_item {first : Expr} {c : Char} {inner : List Char}
    (h : skip extended cs = c :: inner) (single : c ≠ '-') :
    readRangeFrom extended first cs = do return (← itemOf first, c :: inner) := by
  rw [readRangeFrom, h]
  split <;> simp_all

theorem agrees_readRangeFrom {first : Expr} {c : ClassExpr}
    (h : readRangeFrom extended first (cs ++ closing) = .ok (c, rest')) :
    Agrees closing (readRangeFrom extended first cs) c rest' := by
  rcases skip_append extended cs with same | none_left
  · cases behind : skip extended cs with
    | nil =>
        rw [behind] at same
        rw [readRangeFrom_of_item same (by decide)] at h
        obtain ⟨c', _, same⟩ := bind_eq_ok_iff.1 h
        cases same
        exact .inr List.suffix_rfl
    | cons d inner =>
        rw [behind, List.cons_append] at same
        by_cases hyphen : d = '-'
        · subst hyphen
          have bracket := peekPast_append extended inner (c := ']') (by decide +kernel)
            (by decide) (by decide)
          have hyphen := peekPast_append extended inner (c := '-') (by decide +kernel)
            (by decide) (by decide)
          rw [readRangeFrom_of_hyphen same] at h
          rw [readRangeFrom_of_hyphen behind]
          split at h
          · next stands =>
              rw [bracket, hyphen] at stands
              rw [if_pos stands]
              obtain ⟨c', item, same⟩ := bind_eq_ok_iff.1 h
              cases same
              exact .inl ⟨_, bind_eq_ok_iff.2 ⟨_, item, rfl⟩, rfl⟩
          · next joins =>
              rw [bracket, hyphen] at joins
              rw [if_neg joins]
              obtain ⟨⟨second, after⟩, read, h⟩ := bind_eq_ok_iff.1 h
              obtain ⟨lo, lower, h⟩ := bind_eq_ok_iff.1 h
              obtain ⟨hi, upper, h⟩ := bind_eq_ok_iff.1 h
              rcases skip_append extended inner with same | none_left
              · rw [same] at read
                split at h
                · next order =>
                    cases h
                    rcases agrees_readClassItem read with (⟨rest, alone, rfl⟩ | gone) | ⟨a, rfl⟩
                    · refine .inl ⟨rest, bind_eq_ok_iff.2 ⟨_, alone, bind_eq_ok_iff.2
                        ⟨_, lower, bind_eq_ok_iff.2 ⟨_, upper, ?_⟩⟩⟩, rfl⟩
                      rw [if_pos order]
                      rfl
                    · exact .inr (gone.trans (List.suffix_cons _ _))
                    · cases upper
                · cases h
              · rw [none_left] at read
                cases read
        · rw [readRangeFrom_of_item same hyphen] at h
          rw [readRangeFrom_of_item behind hyphen]
          obtain ⟨c', item, same⟩ := bind_eq_ok_iff.1 h
          cases same
          exact .inl ⟨_, bind_eq_ok_iff.2 ⟨_, item, rfl⟩, rfl⟩
  · rw [readRangeFrom, none_left] at h
    cases h

theorem readRangeFrom_anchor (extended : Bool) (a : Anchor) (cs : List Char) :
    ∃ flaw, readRangeFrom extended (.anchor a) cs = .error flaw := by
  unfold readRangeFrom
  split
  · exact ⟨_, rfl⟩
  · dsimp only
    split
    · exact ⟨_, rfl⟩
    · cases readClassItem extended (skip extended _) <;> exact ⟨_, rfl⟩
  · exact ⟨_, rfl⟩

theorem agrees_readClassRange {c : ClassExpr}
    (h : readClassRange extended (cs ++ closing) = .ok (c, rest')) :
    Agrees closing (readClassRange extended cs) c rest' := by
  obtain ⟨⟨first, after⟩, read, h⟩ := bind_eq_ok_iff.1 h
  rcases agrees_readClassItem read with (⟨rest, alone, rfl⟩ | gone) | ⟨a, rfl⟩
  · rcases agrees_readRangeFrom h with ⟨rest, alone', rfl⟩ | gone
    · exact .inl ⟨rest, bind_eq_ok_iff.2 ⟨_, alone, alone'⟩, rfl⟩
    · exact .inr gone
  · exact .inr ((suffix_readRangeFrom h).trans (gone.trans (List.suffix_cons _ _)))
  · obtain ⟨flaw, wrong⟩ := readRangeFrom_anchor extended a after
    cases wrong.symm.trans h

theorem length_lt_of_readClassRange {c : ClassExpr} {rest : List Char}
    (h : readClassRange extended cs = .ok (c, rest)) : rest.length < cs.length := by
  obtain ⟨⟨first, after⟩, read, h⟩ := bind_eq_ok_iff.1 h
  exact Nat.lt_of_le_of_lt (suffix_readRangeFrom h).length_le (length_lt_of_readClassItem read)

section ClassSteps

variable {steps : Nat} {stack : List ClassFrame} {items : List ClassExpr} {inner : List Char}

theorem readClass_of_open (h : skip extended cs = '[' :: inner) :
    readClass extended (steps + 1) stack items cs =
      match asciiClass? inner with
      | some (c, rest) => readClass extended steps stack (c :: items) rest
      | none => (do
        let (negated, first, rest) ← readClassOpen extended inner
        readClass extended steps (.opened items negated :: stack) first.reverse rest) := by
  rw [readClass, h]
  rfl

theorem readClass_of_close (h : skip extended cs = ']' :: inner) :
    readClass extended (steps + 1) stack items cs =
      match applyPending stack (.ofItems items.reverse) with
      | (body, .opened outer negated :: stack) =>
        if stack.isEmpty then .ok (.bracketed negated body, inner)
        else readClass extended steps stack (.bracketed negated body :: outer) inner
      | _ => .error .unclosedClass := by
  rw [readClass, h]
  rfl

def operatorOf? : Char → Option ClassOp
  | '&' => some .intersection
  | '-' => some .difference
  | '~' => some .symmetricDifference
  | _ => none

theorem readClass_of_operator {c : Char} {op : ClassOp} (sign : operatorOf? c = some op)
    (h : skip extended cs = c :: c :: inner) :
    readClass extended (steps + 1) stack items cs =
      readClass extended steps
        (.pending op (applyPending stack (.ofItems items.reverse)).1 ::
          (applyPending stack (.ofItems items.reverse)).2) [] inner := by
  rw [readClass, h]
  unfold operatorOf? at sign
  split at sign <;> cases sign <;> rfl

theorem readClass_of_item {c : Char} (h : skip extended cs = c :: inner) (no_open : c ≠ '[')
    (no_close : c ≠ ']') (single : (operatorOf? c).isSome = true → inner.head? ≠ some c) :
    readClass extended (steps + 1) stack items cs = (do
      let (item, rest) ← readClassRange extended (c :: inner)
      readClass extended steps stack (item :: items) rest) := by
  rw [readClass, h]
  dsimp only
  split
  · simp_all
  · simp_all
  · simp_all
  · simp_all [operatorOf?]
  · simp_all [operatorOf?]
  · simp_all [operatorOf?]
  · rfl

theorem bracket_mem_of_readClass {c : ClassExpr} {rest : List Char}
    (h : readClass extended steps stack items cs = .ok (c, rest)) : ']' ∈ skip extended cs := by
  induction steps generalizing stack items cs with
  | zero => cases h
  | succ steps ih =>
      rcases readClass_step h with closed | ⟨stack', items', after, behind, h⟩
      · rw [closed]
        exact List.mem_cons_self
      · exact ((suffix_skip _ _).trans behind).subset (ih h)

theorem not_readClass_closing {found : ClassExpr × List Char} (late : cs <:+ closing) :
    readClass extended steps stack items cs ≠ .ok found := fun h =>
  absurd (((suffix_skip _ _).trans late).subset (bracket_mem_of_readClass h)) (by decide)

variable {found : ClassExpr × List Char}

/-- One step goes on with a shorter text, and does so without the closing, too. -/
def Follows (extended : Bool) (steps : Nat) (stack : List ClassFrame) (items : List ClassExpr)
    (cs : List Char) (found : ClassExpr × List Char) : Prop :=
  ∃ stack' items' rest, rest.length < cs.length ∧
    readClass extended steps stack' items' (rest ++ closing) = .ok found ∧
    ∀ enough, readClass extended (enough + 1) stack items cs =
      readClass extended enough stack' items' rest

theorem follows_of_open (behind : skip extended cs = '[' :: inner)
    (same : skip extended (cs ++ closing) = '[' :: (inner ++ closing))
    (h : readClass extended (steps + 1) stack items (cs ++ closing) = .ok found) :
    Follows extended steps stack items cs found := by
  have shorter := length_lt_of_skip behind
  rw [readClass_of_open same, asciiClass?_append] at h
  cases named : asciiClass? inner with
  | some read =>
      rw [named] at h
      refine ⟨stack, read.1 :: items, read.2, ?_, h, fun enough => ?_⟩
      · exact Nat.lt_of_le_of_lt (suffix_asciiClass? named).length_le shorter
      · rw [readClass_of_open behind, named]
  | none =>
      rw [named] at h
      obtain ⟨⟨negated, first, after⟩, read, h⟩ := bind_eq_ok_iff.1 h
      rcases agrees_readClassOpen read with ⟨rest, alone, rfl⟩ | rfl
      · refine ⟨.opened items negated :: stack, first.reverse, rest, ?_, h, fun enough => ?_⟩
        · exact Nat.lt_of_le_of_lt (suffix_readClassOpen alone).length_le shorter
        · rw [readClass_of_open behind, named, alone]
          rfl
      · exact absurd h (not_readClass_closing List.suffix_rfl)

theorem follows_of_close (behind : skip extended cs = ']' :: inner)
    (same : skip extended (cs ++ closing) = ']' :: (inner ++ closing))
    (h : readClass extended (steps + 1) stack items (cs ++ closing) = .ok found) :
    (found.2 = inner ++ closing ∧
      ∀ enough, readClass extended (enough + 1) stack items cs = .ok (found.1, inner)) ∨
    Follows extended steps stack items cs found := by
  rw [readClass_of_close same] at h
  split at h
  · next body outer negated stack' pending =>
      by_cases last : stack'.isEmpty = true
      · rw [if_pos last] at h
        cases h
        refine .inl ⟨rfl, fun enough => ?_⟩
        rw [readClass_of_close behind, pending]
        exact if_pos last
      · rw [if_neg last] at h
        refine .inr ⟨stack', _, inner, length_lt_of_skip behind, h, fun enough => ?_⟩
        rw [readClass_of_close behind, pending]
        exact if_neg last
  · cases h

theorem follows_of_operator {c : Char} {op : ClassOp} (sign : operatorOf? c = some op)
    (behind : skip extended cs = c :: c :: inner)
    (same : skip extended (cs ++ closing) = c :: c :: (inner ++ closing))
    (h : readClass extended (steps + 1) stack items (cs ++ closing) = .ok found) :
    Follows extended steps stack items cs found := by
  rw [readClass_of_operator sign same] at h
  have shorter := length_lt_of_skip behind
  rw [List.length_cons] at shorter
  exact ⟨_, _, inner, Nat.lt_of_succ_lt shorter, h, fun _ => readClass_of_operator sign behind⟩

theorem follows_of_item {c : Char} (behind : skip extended cs = c :: inner)
    (same : skip extended (cs ++ closing) = c :: (inner ++ closing)) (no_open : c ≠ '[')
    (no_close : c ≠ ']') (single : (operatorOf? c).isSome = true → inner.head? ≠ some c)
    (h : readClass extended (steps + 1) stack items (cs ++ closing) = .ok found) :
    Follows extended steps stack items cs found := by
  have single' : (operatorOf? c).isSome = true → (inner ++ closing).head? ≠ some c := by
    intro sign
    have other : c ≠ ')' := by
      rintro rfl
      cases sign
    rw [ne_eq, head?_append_closing other]
    exact single sign
  rw [readClass_of_item same no_open no_close single'] at h
  obtain ⟨⟨item, after⟩, read, h⟩ := bind_eq_ok_iff.1 h
  rw [← List.cons_append] at read
  rcases agrees_readClassRange read with ⟨rest, alone, rfl⟩ | late
  · have used := length_lt_of_readClassRange alone
    rw [List.length_cons] at used
    have shorter := length_lt_of_skip behind
    refine ⟨stack, item :: items, rest, by omega, h, fun enough => ?_⟩
    rw [readClass_of_item behind no_open no_close single, alone]
    rfl
  · exact absurd h (not_readClass_closing late)

theorem readClass_step_append
    (h : readClass extended (steps + 1) stack items (cs ++ closing) = .ok found) :
    (∃ rest, found.2 = rest ++ closing ∧
      ∀ enough, readClass extended (enough + 1) stack items cs = .ok (found.1, rest)) ∨
    Follows extended steps stack items cs found := by
  have bracket := bracket_mem_of_readClass h
  rcases skip_append extended cs with same | none_left
  · cases behind : skip extended cs with
    | nil =>
        rw [same, behind] at bracket
        exact absurd bracket (by decide)
    | cons c inner =>
        rw [behind, List.cons_append] at same
        by_cases opens : c = '['
        · subst opens
          exact .inr (follows_of_open behind same h)
        · by_cases closes : c = ']'
          · subst closes
            exact (follows_of_close behind same h).imp (fun last => ⟨inner, last⟩) id
          · by_cases double : (operatorOf? c).isSome = true ∧ inner.head? = some c
            · obtain ⟨sign, twice⟩ := double
              obtain ⟨op, sign⟩ := Option.isSome_iff_exists.1 sign
              obtain ⟨inner, rfl⟩ := List.head?_eq_some_iff.1 twice
              exact .inr (follows_of_operator sign behind same h)
            · have single : (operatorOf? c).isSome = true → inner.head? ≠ some c :=
                fun sign twice => double ⟨sign, twice⟩
              exact .inr (follows_of_item behind same opens closes single h)
  · rw [none_left] at bracket
    cases bracket

/-- Reads the same class, with any number of steps that is enough for the text alone. -/
theorem readClass_append {enough : Nat}
    (h : readClass extended steps stack items (cs ++ closing) = .ok found)
    (long : cs.length < enough) :
    ∃ rest, readClass extended enough stack items cs = .ok (found.1, rest) ∧
      found.2 = rest ++ closing := by
  induction steps generalizing enough stack items cs with
  | zero => cases h
  | succ steps ih =>
      obtain ⟨enough, rfl⟩ := Nat.exists_eq_succ_of_ne_zero (Nat.ne_zero_of_lt long)
      rcases readClass_step_append h with
        ⟨rest, same, last⟩ | ⟨stack', items', rest, shorter, h, alone⟩
      · exact ⟨rest, last enough, same⟩
      · rw [alone enough]
        exact ih h (Nat.lt_of_lt_of_le shorter (Nat.le_of_lt_succ long))

end ClassSteps

theorem readBracketed_append {c : ClassExpr}
    (h : readBracketed extended (cs ++ closing) = .ok (c, rest')) :
    ∃ rest, readBracketed extended cs = .ok (c, rest) ∧ rest' = rest ++ closing := by
  obtain ⟨⟨negated, items, after⟩, read, h⟩ := bind_eq_ok_iff.1 h
  rcases agrees_readClassOpen read with ⟨rest, alone, rfl⟩ | rfl
  · obtain ⟨rest', alone', same⟩ := readClass_append h (Nat.lt_succ_self _)
    exact ⟨rest', bind_eq_ok_iff.2 ⟨_, alone, alone'⟩, same⟩
  · exact absurd h (not_readClass_closing List.suffix_rfl)

end Agreement

end RestRoutes.Pattern
