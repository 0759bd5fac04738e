import RestRoutes.Proofs.Pattern.Reading

/-!
Reading a text with the closing of a pattern behind it. What is read without the closing is read
with it as well (`Agrees`), unless the reader takes the parenthesis for something of its own.
-/
namespace RestRoutes.Pattern

def closing : List Char := [')', '$']

def past : List Char := ['$']

theorem cons_of_append_closing {c : Char} (other : c ≠ ')') {cs rest' : List Char}
    (h : cs ++ closing = c :: rest') : ∃ rest, cs = c :: rest ∧ rest' = rest ++ closing := by
  cases cs with
  | nil => exact absurd (List.cons.inj h).1.symm other
  | cons d rest =>
      obtain ⟨rfl, rfl⟩ := List.cons.inj h
      exact ⟨rest, rfl, rfl⟩

theorem isBlank_paren : isBlank ')' = false := by decide +kernel

/-- Where the parenthesis stops a scan, the scan goes as far as without it, unless a comment takes
all. -/
theorem scan_append (stop : Char → Bool) (stops : stop ')' = true) (extended comment : Bool)
    (cs : List Char) :
    scan extended stop comment (cs ++ closing) =
        ((scan extended stop comment cs).1, (scan extended stop comment cs).2 ++ closing) ∨
      (scan extended stop comment (cs ++ closing)).2 = [] := by
  induction cs generalizing comment with
  | nil =>
      by_cases inside : (extended && comment) = true
      · obtain ⟨rfl, rfl⟩ := Bool.and_eq_true_iff.1 inside
        exact .inr rfl
      · exact .inl (by simp [closing, scan, inside, isBlank_paren, stops])
  | cons c cs ih =>
      rw [List.cons_append]
      unfold scan
      split
      · exact ih _
      · split
        · exact ih _
        · split
          · exact ih _
          · split
            · exact .inl rfl
            · rcases ih false with same | none_left
              · exact .inl (by rw [same])
              · exact .inr none_left

/-- Where the parenthesis does not stop a scan, the scan gets past it unless it stops before. -/
theorem scan_append_of_goes_on (stop : Char → Bool) (goes_on : stop ')' = false)
    (extended comment : Bool) (cs : List Char) :
    (∃ found c rest, scan extended stop comment cs = (found, c :: rest) ∧
        scan extended stop comment (cs ++ closing) = (found, c :: rest ++ closing)) ∨
      (scan extended stop comment (cs ++ closing)).2 <:+ past := by
  induction cs generalizing comment with
  | nil =>
      refine .inr ?_
      rw [List.nil_append, closing]
      unfold scan
      split
      · exact suffix_scan _ _ _ _
      · split
        · exact suffix_scan _ _ _ _
        · split
          · exact suffix_scan _ _ _ _
          · rw [if_neg (by simp [goes_on])]
            exact suffix_scan _ _ _ _
  | cons c cs ih =>
      rw [List.cons_append]
      unfold scan
      split
      · exact ih _
      · split
        · exact ih _
        · split
          · exact ih _
          · split
            · exact .inl ⟨[], c, cs, rfl, rfl⟩
            · rcases ih false with ⟨found, d, rest, same, same'⟩ | gone
              · exact .inl ⟨c :: found, d, rest, by rw [same], by rw [same']⟩
              · exact .inr gone

theorem skip_append (extended : Bool) (cs : List Char) :
    skip extended (cs ++ closing) = skip extended cs ++ closing ∨
      skip extended (cs ++ closing) = [] := by
  rcases scan_append (fun _ => true) rfl extended false cs with same | none_left
  · exact .inl (congrArg Prod.snd same)
  · exact .inr none_left

theorem head?_append_closing {c : Char} (other : c ≠ ')') (cs : List Char) :
    (cs ++ closing).head? = some c ↔ cs.head? = some c := by
  cases cs <;> simp [closing, Ne.symm other]

/-- A delimiter that the closing does not have is in the pattern, or nowhere. -/
theorem span_append {p : Char → Bool} (paren : p ')' = true) (dollar : p '$' = true)
    (cs : List Char) :
    ((cs ++ closing).dropWhile p = [] ∧ cs.dropWhile p = []) ∨
      ∃ c rest, cs.dropWhile p = c :: rest ∧ (cs ++ closing).dropWhile p = c :: (rest ++ closing) ∧
        (cs ++ closing).takeWhile p = cs.takeWhile p := by
  induction cs with
  | nil => simp [closing, paren, dollar]
  | cons c cs ih =>
      cases hc : p c with
      | false => exact .inr ⟨c, cs, by simp [hc], by simp [hc], by simp [hc]⟩
      | true =>
          rw [List.cons_append, List.dropWhile_cons_of_pos hc, List.dropWhile_cons_of_pos hc,
            List.takeWhile_cons_of_pos hc, List.takeWhile_cons_of_pos hc]
          simpa only [List.cons.injEq, true_and] using ih

/-- A reader gives the same as without the closing, unless it gets as far as `late`. -/
def Agrees {α : Type} (late : List Char) (alone : Except Flaw (α × List Char)) (x : α)
    (rest' : List Char) : Prop :=
  (∃ rest, alone = .ok (x, rest) ∧ rest' = rest ++ closing) ∨ rest' <:+ late

theorem Agrees.imp {α β : Type} {late rest' : List Char} {alone : Except Flaw (α × List Char)}
    {used : Except Flaw (β × List Char)} {x : α} {y : β} (h : Agrees late alone x rest')
    (use : ∀ {rest}, alone = .ok (x, rest) → used = .ok (y, rest)) : Agrees late used y rest' := by
  rcases h with ⟨rest, alone, same⟩ | gone
  · exact .inl ⟨rest, use alone, same⟩
  · exact .inr gone

section Agreement

variable {extended : Bool} {cs rest' : List Char}

theorem agrees_takeFixed {n : Nat} {found : List Char}
    (h : takeFixed extended n (cs ++ closing) = .ok (found, rest')) :
    Agrees past (takeFixed extended n cs) found rest' := by
  induction n generalizing cs found rest' with
  | zero => cases h; exact .inl ⟨cs, rfl, rfl⟩
  | succ n ih =>
      cases cs with
      | nil =>
          obtain ⟨⟨found', after⟩, taken, same⟩ := bind_eq_ok_iff.1 h
          cases same
          exact .inr ((suffix_takeFixed taken).trans (suffix_skip extended past))
      | cons c cs =>
          rw [List.cons_append, takeFixed] at h
          obtain ⟨⟨found', after⟩, taken, same⟩ := bind_eq_ok_iff.1 h
          cases same
          rcases skip_append extended cs with same | none_left
          · rw [same] at taken
            exact (ih taken).imp fun alone => bind_eq_ok_iff.2 ⟨_, alone, rfl⟩
          · rw [none_left] at taken
            exact .inr ((suffix_takeFixed taken).trans List.nil_suffix)

theorem agrees_readBraced {found : List Char}
    (h : readBraced extended (cs ++ closing) = .ok (found, rest')) :
    Agrees past (readBraced extended cs) found rest' := by
  unfold readBraced at h ⊢
  rcases scan_append_of_goes_on (· == '}') rfl extended false cs with
    ⟨found', c, rest, alone, scanned⟩ | gone
  · rw [scanned] at h
    cases h
    exact .inl ⟨rest, by rw [alone], rfl⟩
  · split at h
    · cases h
    · next close after closed =>
        rw [closed] at gone
        cases h
        exact .inr (suffix_of_cons gone)

theorem readHex_of_brace {size : Nat} {inner : List Char} (h : skip extended cs = '{' :: inner) :
    readHex extended size cs = do
      let (digits, rest) ← readBraced extended inner
      return (← charOfHex digits, skip extended rest) := by
  rw [readHex, h]
  rfl

theorem readHex_of_digit {size : Nat} {c : Char} {inner : List Char}
    (h : skip extended cs = c :: inner) (plain : c ≠ '{') :
    readHex extended size cs = do
      let (digits, rest) ← takeFixed extended size (c :: inner)
      return (← charOfHex digits, rest) := by
  rw [readHex, h]
  split <;> simp_all

theorem agrees_readHex {size : Nat} {c : Char}
    (h : readHex extended (size + 1) (cs ++ closing) = .ok (c, rest')) :
    Agrees past (readHex extended (size + 1) cs) c rest' := by
  rcases skip_append extended cs with same | none_left
  · cases opened : skip extended cs with
    | nil =>
        rw [opened] at same
        rw [readHex_of_digit same (by decide)] at h
        obtain ⟨⟨digits, after⟩, taken, h⟩ := bind_eq_ok_iff.1 h
        obtain ⟨d, _, same⟩ := bind_eq_ok_iff.1 h
        cases same
        have taken : takeFixed extended (size + 1) ([] ++ closing) = .ok (digits, rest') := taken
        rcases agrees_takeFixed taken with ⟨rest, alone, _⟩ | gone
        · cases alone
        · exact .inr gone
    | cons first inner =>
        rw [opened, List.cons_append] at same
        by_cases brace : first = '{'
        · subst brace
          rw [readHex_of_brace same] at h
          rw [readHex_of_brace opened]
          obtain ⟨⟨digits, after⟩, read, h⟩ := bind_eq_ok_iff.1 h
          obtain ⟨d, code, same⟩ := bind_eq_ok_iff.1 h
          cases same
          rcases agrees_readBraced read with ⟨rest, alone, rfl⟩ | gone
          · rcases skip_append extended rest with same | none_left
            · exact .inl ⟨_, bind_eq_ok_iff.2 ⟨_, alone, bind_eq_ok_iff.2 ⟨_, code, rfl⟩⟩, same⟩
            · exact .inr (none_left ▸ List.nil_suffix)
          · exact .inr ((suffix_skip _ _).trans gone)
        · rw [readHex_of_digit same brace] at h
          rw [readHex_of_digit opened brace]
          obtain ⟨⟨digits, after⟩, taken, h⟩ := bind_eq_ok_iff.1 h
          obtain ⟨d, code, same⟩ := bind_eq_ok_iff.1 h
          cases same
          rw [← List.cons_append] at taken
          exact (agrees_takeFixed taken).imp fun alone =>
            bind_eq_ok_iff.2 ⟨_, alone, bind_eq_ok_iff.2 ⟨_, code, rfl⟩⟩
  · rw [readHex, none_left] at h
    cases h

theorem agrees_readPropertyName {name : List Char}
    (h : readPropertyName extended (cs ++ closing) = .ok (name, rest')) :
    Agrees past (readPropertyName extended cs) name rest' := by
  unfold readPropertyName at h ⊢
  rcases skip_append extended cs with same | none_left
  · rw [same] at h
    cases opened : skip extended cs with
    | nil =>
        rw [opened] at h
        cases h
        exact .inr (suffix_skip _ _)
    | cons c inner =>
        rw [opened, List.cons_append] at h
        split at h
        · cases h
        · next same =>
            cases same
            exact agrees_readBraced h
        · cases h
        · next no_brace no_backslash same =>
            cases same
            cases h
            rcases skip_append extended inner with same | none_left
            · refine .inl ⟨_, ?_, same⟩
              split <;> simp_all
            · exact .inr (none_left ▸ List.nil_suffix)
  · rw [none_left] at h
    cases h

theorem agrees_readProperty {negated : Bool} {e : Expr}
    (h : readProperty extended negated (cs ++ closing) = .ok (e, rest')) :
    Agrees past (readProperty extended negated cs) e rest' := by
  obtain ⟨⟨name, after⟩, read, h⟩ := bind_eq_ok_iff.1 h
  dsimp only at h
  split at h
  · next members excluded found =>
      cases h
      refine (agrees_readPropertyName read).imp fun alone => bind_eq_ok_iff.2 ⟨_, alone, ?_⟩
      simp only [found]
      rfl
  · cases h

/-- A brace behind a word boundary, and nothing else of the pattern. The boundary can be read only
as the closing is there, and the brace not at all. -/
def Stuck (extended : Bool) (rest' : List Char) : Prop :=
  ∃ inner, skip extended inner = [] ∧ rest' = '{' :: (inner ++ closing)

section Boundary

variable {inner inner' : List Char} {c : Char} {a : Anchor}

theorem readBoundary_of_bare (bare : c ≠ '{') :
    readBoundary extended (c :: inner) = .ok (.boundary, c :: inner) := by
  unfold readBoundary
  split <;> simp_all
  rfl

theorem readBoundary_of_count (h : skip extended inner = c :: inner')
    (count : isBoundaryChar c = false) :
    readBoundary extended ('{' :: inner) = .ok (.boundary, '{' :: inner) := by
  unfold readBoundary
  simp [h, count]
  rfl

theorem readBoundary_eq_ok_iff (h : skip extended inner = c :: inner')
    (named : isBoundaryChar c = true) {rest : List Char} :
    readBoundary extended ('{' :: inner) = .ok (a, rest) ↔
      boundaryOfName? (String.ofList (scan extended (!isBoundaryChar ·) false inner).1) = some a ∧
        (scan extended (!isBoundaryChar ·) false inner).2 = '}' :: rest := by
  unfold readBoundary
  simp only [h, named, Bool.not_true, Bool.false_eq_true, if_false]
  split
  · next rest closed =>
      rw [closed]
      cases boundaryOfName? (String.ofList (scan extended (!isBoundaryChar ·) false inner).1) <;>
        simp [pure, Except.pure, throw, throwThe, MonadExceptOf.throw]
  · next other =>
      constructor
      · intro wrong
        cases wrong
      · exact fun closed => (other _ closed.2).elim

end Boundary

theorem agrees_readBoundary {a : Anchor}
    (h : readBoundary extended (cs ++ closing) = .ok (a, rest')) :
    (∃ rest, readBoundary extended cs = .ok (a, rest) ∧ rest' = rest ++ closing) ∨
      Stuck extended rest' := by
  cases cs with
  | nil =>
      cases h
      exact .inl ⟨[], rfl, rfl⟩
  | cons c inner =>
      rw [List.cons_append] at h
      by_cases brace : c = '{'
      · subst brace
        rcases skip_append extended inner with same | none_left
        · cases opened : skip extended inner with
          | nil =>
              rw [opened] at same
              rw [readBoundary_of_count same (by decide)] at h
              cases h
              exact .inr ⟨inner, opened, rfl⟩
          | cons d inner' =>
              rw [opened, List.cons_append] at same
              refine .inl ?_
              cases named : isBoundaryChar d with
              | false =>
                  rw [readBoundary_of_count same named] at h
                  cases h
                  exact ⟨_, readBoundary_of_count opened named, rfl⟩
              | true =>
                  rw [readBoundary_eq_ok_iff same named] at h
                  simp only [readBoundary_eq_ok_iff opened named]
                  rcases scan_append (!isBoundaryChar ·) (by decide) extended false
                    inner with scanned | none_left
                  · rw [scanned] at h
                    obtain ⟨name, closed⟩ := h
                    obtain ⟨rest, alone, rfl⟩ := cons_of_append_closing (by decide) closed
                    exact ⟨rest, ⟨name, alone⟩, rfl⟩
                  · rw [none_left] at h
                    cases h.2
        · rw [readBoundary, none_left] at h
          cases h
      · rw [readBoundary_of_bare brace] at h
        cases h
        exact .inl ⟨_, readBoundary_of_bare brace, rfl⟩

theorem head?_skip_append {size : Nat} {found : Char × List Char}
    (h : readHex extended size (cs ++ closing) = .ok found) :
    ((skip extended (cs ++ closing)).head? != some '{') =
      ((skip extended cs).head? != some '{') := by
  rcases skip_append extended cs with same | none_left
  · rw [same]
    cases skip extended cs <;> rfl
  · rw [readHex, none_left] at h
    cases h

theorem agrees_readEscape {e : Expr} (h : readEscape extended (cs ++ closing) = .ok (e, rest')) :
    Agrees past (readEscape extended cs) e rest' ∨
      (∃ a, e = .anchor a) ∧ Stuck extended rest' := by
  cases cs with
  | nil =>
      refine .inl (.inr ?_)
      have escaped : readEscape extended closing = .ok (.char ')' false, past) := rfl
      rw [List.nil_append, escaped] at h
      cases h
      exact List.suffix_rfl
  | cons c cs =>
      rw [List.cons_append] at h
      rcases escape_cases extended c (cs ++ closing) cs with
        ⟨e', single, alone⟩ | ⟨flaw, wrong⟩ | longer
      · rw [single] at h
        cases h
        exact .inl (.inl ⟨cs, alone, rfl⟩)
      · rw [wrong] at h
        cases h
      · simp only [List.mem_cons, List.not_mem_nil, or_false] at longer
        rcases longer with rfl | rfl | rfl | rfl | rfl | rfl
        · obtain ⟨⟨d, after⟩, read, same⟩ := bind_eq_ok_iff.1 h
          cases same
          refine .inl ((agrees_readHex read).imp fun alone => bind_eq_ok_iff.2 ⟨_, alone, ?_⟩)
          rw [head?_skip_append read]
          rfl
        · obtain ⟨⟨d, after⟩, read, same⟩ := bind_eq_ok_iff.1 h
          cases same
          exact .inl ((agrees_readHex read).imp fun alone => bind_eq_ok_iff.2 ⟨_, alone, rfl⟩)
        · obtain ⟨⟨d, after⟩, read, same⟩ := bind_eq_ok_iff.1 h
          cases same
          exact .inl ((agrees_readHex read).imp fun alone => bind_eq_ok_iff.2 ⟨_, alone, rfl⟩)
        · exact .inl (agrees_readProperty h)
        · exact .inl (agrees_readProperty h)
        · obtain ⟨⟨a, after⟩, read, same⟩ := bind_eq_ok_iff.1 h
          cases same
          rcases agrees_readBoundary read with ⟨rest, alone, rfl⟩ | stuck
          · exact .inl (.inl ⟨rest, bind_eq_ok_iff.2 ⟨_, alone, rfl⟩, rfl⟩)
          · exact .inr ⟨⟨a, rfl⟩, stuck⟩

end Agreement

end RestRoutes.Pattern
