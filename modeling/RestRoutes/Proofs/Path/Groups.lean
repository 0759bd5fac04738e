import RestRoutes.Group

/-!
How groups stand in a text. A text is read as a group exactly if it is written like one
(`read?_eq_some_iff`), and of two groups the one that opens later does not close earlier
(`length_le_of_read?_drop`), however they overlap.
-/
namespace RestRoutes.Group.Token

def openers : List (List Char) := [['(', '?', 'P', '<'], ['(', '?', '<'], ['(', '?', '\'']]

theorem opener?_eq_some_iff {cs opener rest : List Char} :
    opener? cs = some (opener, rest) ↔ opener ∈ openers ∧ cs = opener ++ rest := by
  constructor
  · intro h
    refine ⟨?_, append_of_opener? h⟩
    unfold opener? at h
    split at h <;> cases h <;> simp [openers]
  · rintro ⟨listed, rfl⟩
    simp only [openers, List.mem_cons, List.not_mem_nil, or_false] at listed
    rcases listed with rfl | rfl | rfl <;> rfl

theorem length_of_mem_openers :
    ∀ opener ∈ openers, 3 ≤ opener.length ∧ opener.length ≤ 4 := by decide

/-! Patterns -/

/-- What a pattern may close with. The last parenthesis closes the group. -/
def closings : List (List Char) := [[')'], [')', ')'], [')', '?', ')']]

theorem mem_of_mem_closings : ∀ closing ∈ closings, ∀ c ∈ closing, c = ')' ∨ c = '?' := by
  simp [closings]

theorem pattern?_append {body : List Char} (h : ')' ∉ body) (cs : List Char) :
    pattern? (body ++ cs) = (pattern? cs).map fun (pattern, rest) => (body ++ pattern, rest) := by
  have inside : ∀ c ∈ body, decide (c ≠ ')') = true :=
    fun c hc => decide_eq_true fun same => h (same ▸ hc)
  unfold pattern?
  rw [List.takeWhile_append_of_pos inside, List.dropWhile_append_of_pos inside]
  split <;> simp [*]

theorem pattern?_close (cs : List Char) :
    pattern? (')' :: cs) =
      match cs with
      | ')' :: rest => some ([')'], rest)
      | '?' :: ')' :: rest => some ([')', '?'], rest)
      | rest => some ([], rest) := by
  unfold pattern?
  simp only [ne_eq, not_true_eq_false, decide_false, Bool.false_eq_true, not_false_eq_true,
    List.takeWhile_cons_of_neg, List.dropWhile_cons_of_neg, List.nil_append]
  split <;> simp_all

/-- A pattern closes nowhere but at its end, where it may close once, be it before a question
mark. -/
def ClosesAtEnd (pattern : List Char) : Prop :=
  ∃ body, ')' ∉ body ∧ (pattern = body ∨ pattern = body ++ [')'] ∨ pattern = body ++ [')', '?'])

/-- Such a pattern is read back if nothing behind its group could be taken for a part of it. -/
theorem pattern?_of_closesAtEnd {pattern rest : List Char} (h : ClosesAtEnd pattern)
    (apart : ∀ c ∈ rest.head?, c ≠ ')' ∧ c ≠ '?') :
    pattern? (pattern ++ ')' :: rest) = some (pattern, rest) := by
  obtain ⟨body, open_still, rfl | rfl | rfl⟩ := h
  · rw [pattern?_append open_still, pattern?_close]
    split
    · exact absurd rfl (apart ')' rfl).1
    · exact absurd rfl (apart '?' rfl).2
    · simp
  · rw [List.append_assoc, pattern?_append open_still]
    rfl
  · rw [List.append_assoc, pattern?_append open_still]
    rfl

def beyond (rest : List Char) : List Char :=
  if [')'] <+: rest then [')'] else if ['?', ')'] <+: rest then ['?', ')'] else []

theorem exists_pattern? {body : List Char} (h : ')' ∉ body) (rest : List Char) :
    ∃ pattern tail, pattern? (body ++ ')' :: rest) = some (pattern, tail) ∧
      pattern ++ [')'] = body ++ ')' :: beyond rest ∧ ClosesAtEnd pattern := by
  rw [pattern?_append h, pattern?_close]
  split
  · next tail => exact ⟨_, tail, rfl, by simp [beyond], body, h, .inr (.inl rfl)⟩
  · next tail => exact ⟨_, tail, rfl, by simp [beyond], body, h, .inr (.inr rfl)⟩
  · next other closes marks =>
      have none_beyond : beyond rest = [] := by
        unfold beyond
        split
        · next within =>
            obtain ⟨tail, rfl⟩ := within
            exact absurd rfl (closes tail)
        · split
          · next within =>
              obtain ⟨tail, rfl⟩ := within
              exact absurd rfl (marks tail)
          · rfl
      exact ⟨_, rest, rfl, by simp [none_beyond], body, h, .inl (by simp)⟩

/-- Where a pattern is read, a parenthesis closes, and the first that does tells the pattern. -/
theorem exists_body_of_pattern? {cs pattern rest : List Char}
    (h : pattern? cs = some (pattern, rest)) :
    ∃ body behind, cs = body ++ ')' :: behind ∧ ')' ∉ body ∧
      pattern ++ [')'] = body ++ ')' :: beyond behind ∧ ClosesAtEnd pattern := by
  have closes : ')' ∈ cs := by
    rw [append_of_pattern? h]
    simp
  obtain ⟨body, behind, rfl, open_still⟩ := List.eq_append_cons_of_mem closes
  obtain ⟨pattern', tail, closed, whole, shape⟩ := exists_pattern? open_still behind
  cases h.symm.trans closed
  exact ⟨body, behind, rfl, open_still, whole, shape⟩

theorem exists_closing_of_pattern? {cs pattern rest : List Char}
    (h : pattern? cs = some (pattern, rest)) :
    ∃ body, ∃ closing ∈ closings, ')' ∉ body ∧ cs = body ++ closing ++ rest := by
  obtain ⟨body, behind, _, open_still, whole, _⟩ := exists_body_of_pattern? h
  refine ⟨body, ')' :: beyond behind, ?_, open_still, ?_⟩
  · unfold beyond
    split
    · simp [closings]
    · split <;> simp [closings]
  · rw [append_of_pattern? h, List.append_cons, whole]

theorem length_lt_of_pattern? {cs pattern rest : List Char}
    (h : pattern? cs = some (pattern, rest)) : rest.length < cs.length := by
  rw [append_of_pattern? h]
  simp
  omega

/-- A pattern that begins later, right after the end of a name, does not close earlier. -/
theorem length_le_of_pattern?_later {before after pattern pattern' rest rest' : List Char}
    {delimiter : Char} (ends : endsName delimiter = true)
    (first : pattern? (before ++ delimiter :: after) = some (pattern, rest))
    (later : pattern? after = some (pattern', rest')) : rest'.length ≤ rest.length := by
  have no_paren : delimiter ≠ ')' := by rintro rfl; cases ends
  have no_mark : delimiter ≠ '?' := by rintro rfl; cases ends
  by_cases closed : ')' ∈ before
  · obtain ⟨body, closing, listed, open_still, split⟩ := exists_closing_of_pattern? first
    have past : (body ++ closing) <+: before := by
      rcases List.append_eq_append_iff.1 split with ⟨more, within, rest_eq⟩ | ⟨more, beyond, _⟩
      · cases more with
        | nil => exact ⟨[], by simpa using within⟩
        | cons c more =>
            -- The delimiter stands neither in the body, as `before` closes, nor in the closing.
            obtain ⟨rfl, _⟩ := List.cons.inj rest_eq
            rcases List.append_eq_append_iff.1 within with ⟨u, _, hclosing⟩ | ⟨u, hbody, _⟩
            · have member : delimiter ∈ closing := hclosing ▸ by simp
              rcases mem_of_mem_closings closing listed delimiter member with same | same
              · exact absurd same no_paren
              · exact absurd same no_mark
            · exact absurd (hbody ▸ List.mem_append_left u closed) open_still
      · exact ⟨more, beyond.symm⟩
    have total := congrArg List.length split
    have reach := past.length_le
    simp only [List.length_append, List.length_cons] at total reach
    have shorter := length_lt_of_pattern? later
    omega
  · have open_still : ')' ∉ before ++ [delimiter] := by simp [closed, Ne.symm no_paren]
    rw [List.append_cons, pattern?_append open_still, later] at first
    cases first
    exact Nat.le_refl _

/-! Groups -/

theorem read?_eq_some_iff {cs rest : List Char} {t : Token} :
    read? cs = some (t, rest) ↔
      t.opener ∈ openers ∧ t.name ≠ [] ∧ (∀ c ∈ t.name, endsName c = false) ∧
        endsName t.delimiter = true ∧
        ∃ after, cs = t.opener ++ (t.name ++ t.delimiter :: after) ∧
          pattern? after = some (t.pattern, rest) := by
  constructor
  · intro h
    unfold read? at h
    cases opened : opener? cs with
    | none => simp [opened] at h
    | some found =>
        obtain ⟨opener, tail⟩ := found
        obtain ⟨listed, rfl⟩ := opener?_eq_some_iff.1 opened
        simp only [opened, Option.bind_eq_bind, Option.bind_some] at h
        split at h
        · simp at h
        · next named =>
            have whole := List.takeWhile_append_dropWhile (p := (!endsName ·)) (l := tail)
            have head := List.head?_dropWhile_not (!endsName ·) tail
            cases dropped : tail.dropWhile (!endsName ·) with
            | nil => simp [dropped] at h
            | cons delimiter after =>
                simp only [dropped] at h head whole
                obtain ⟨⟨pattern, rest'⟩, closed, same⟩ := Option.bind_eq_some_iff.1 h
                cases same
                refine ⟨listed, ?_, ?_, ?_, after, ?_, closed⟩
                · simpa using named
                · intro c hc
                  simpa using List.all_eq_true.1 List.all_takeWhile c hc
                · simpa using head
                · rw [whole]
  · rintro ⟨listed, named, name, ends, after, rfl, closed⟩
    have inside : ∀ c ∈ t.name, (!endsName c) = true := fun c hc => by simp [name c hc]
    have opened : opener? (t.opener ++ (t.name ++ t.delimiter :: after)) =
        some (t.opener, t.name ++ t.delimiter :: after) := opener?_eq_some_iff.2 ⟨listed, rfl⟩
    have name_eq : (t.name ++ t.delimiter :: after).takeWhile (!endsName ·) = t.name := by
      rw [List.takeWhile_append_of_pos inside, List.takeWhile_cons_of_neg (by simp [ends]),
        List.append_nil]
    have tail_eq : (t.name ++ t.delimiter :: after).dropWhile (!endsName ·) =
        t.delimiter :: after := by
      rw [List.dropWhile_append_of_pos inside, List.dropWhile_cons_of_neg (by simp [ends])]
    have some_name : t.name.isEmpty = false := by simpa using named
    simp only [read?, opened, Option.bind_eq_bind, Option.bind_some, name_eq, tail_eq, some_name,
      closed]
    rfl

theorem head?_of_read? {cs rest : List Char} {t : Token} (h : read? cs = some (t, rest)) :
    cs.head? = some '(' := by
  obtain ⟨listed, _, _, _, after, rfl, _⟩ := read?_eq_some_iff.1 h
  have heads : ∀ opener ∈ openers, ∀ cs : List Char, (opener ++ cs).head? = some '(' := by
    simp [openers]
  exact heads _ listed _

theorem drop_to_delimiter (t : Token) (after : List Char) :
    (t.opener ++ (t.name ++ t.delimiter :: after)).drop (t.opener.length + t.name.length) =
      t.delimiter :: after := by
  rw [← List.append_assoc, ← List.length_append, List.drop_left]

/-- Of two groups the one that opens later does not close earlier. -/
theorem length_le_of_read?_drop {cs rest rest' : List Char} {t t' : Token} {i : Nat} (hi : 0 < i)
    (first : read? cs = some (t, rest)) (later : read? (cs.drop i) = some (t', rest')) :
    rest'.length ≤ rest.length := by
  obtain ⟨listed, _, name, _, after, text, closed⟩ := read?_eq_some_iff.1 first
  obtain ⟨listed', named', _, ends', after', text', closed'⟩ := read?_eq_some_iff.1 later
  have short := length_of_mem_openers _ listed
  have long := length_of_mem_openers _ listed'
  have named_length := List.length_pos_iff.2 named'
  -- The delimiter of the later one stands beyond the name of the first.
  have delimiter_at : cs.drop (i + (t'.opener.length + t'.name.length)) =
      t'.delimiter :: after' := by
    rw [← List.drop_drop, text', drop_to_delimiter]
  have tail : cs.drop (t.opener.length + t.name.length) = t.delimiter :: after := by
    rw [text, drop_to_delimiter]
  have beyond : t.opener.length + t.name.length ≤ i + (t'.opener.length + t'.name.length) := by
    apply Nat.le_of_not_lt
    intro early
    have place : cs[i + (t'.opener.length + t'.name.length)]? = some t'.delimiter := by
      rw [← List.head?_drop, delimiter_at]
      rfl
    rw [text, List.getElem?_append_right (by omega), List.getElem?_append_left (by omega)] at place
    rw [name _ (List.mem_of_getElem? place)] at ends'
    cases ends'
  obtain ⟨gap, hgap⟩ := Nat.exists_eq_add_of_le beyond
  rw [hgap, ← List.drop_drop, tail] at delimiter_at
  cases gap with
  | zero =>
      obtain ⟨_, rfl⟩ := List.cons.inj delimiter_at
      rw [closed] at closed'
      obtain ⟨_, rfl⟩ := Prod.mk.inj (Option.some.inj closed')
      exact Nat.le_refl _
  | succ gap =>
      rw [List.drop_succ_cons] at delimiter_at
      rw [← List.take_append_drop gap after, delimiter_at] at closed
      exact length_le_of_pattern?_later ends' closed closed'

theorem read?_of_find? {cs before rest : List Char} {t : Token}
    (h : find? cs = some (before, t, rest)) : read? (cs.drop before.length) = some (t, rest) := by
  induction cs generalizing before with
  | nil => cases h
  | cons c cs ih =>
      unfold find? at h
      split at h
      · next here =>
          cases h
          exact here
      · obtain ⟨⟨before', found⟩, below, same⟩ := Option.map_eq_some_iff.1 h
        cases same
        exact ih below

end RestRoutes.Group.Token
