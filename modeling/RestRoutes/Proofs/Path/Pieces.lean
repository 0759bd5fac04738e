import RestRoutes.Path
import RestRoutes.Proofs.Path.Groups

/-!
Where the components of a path stand, and which groups they hold whole. A component is claimed by
the last group that opens before its first slash. Every group that opens no later than the one that
claims its component is kept whole, with all its slashes; one that opens later is cut if both have a
slash that is not in the other (`group_kept_iff`).
-/
namespace RestRoutes

structure Span where
  start : Nat
  stop : Nat
deriving DecidableEq, Repr

namespace Span

def text (s : Span) (cs : List Char) : List Char := (cs.drop s.start).take (s.stop - s.start)

def Within (s t : Span) : Prop := t.start ≤ s.start ∧ s.stop ≤ t.stop

instance (s t : Span) : Decidable (s.Within t) := inferInstanceAs (Decidable (_ ∧ _))

end Span

namespace Group.Token

/-- The groups of a text from left to right, `i` characters into it. After each group the search
goes on behind it. -/
def spansFrom (i : Nat) (cs : List Char) : List Span :=
  match _found : find? cs with
  | none => []
  | some (before, token, rest) =>
    let stop := i + before.length + token.text.length
    ⟨i + before.length, stop⟩ :: spansFrom stop rest
termination_by cs.length
decreasing_by
  rw [text_of_find? _found]
  simp [text]
  omega

def StandsAt (cs : List Char) (g : Span) : Prop :=
  ∃ token rest, read? (cs.drop g.start) = some (token, rest) ∧ g.stop = g.start + token.text.length

theorem standsAt_of_mem_spansFrom {whole cs : List Char} {i : Nat} {g : Span}
    (here : whole.drop i = cs) (h : g ∈ spansFrom i cs) : StandsAt whole g := by
  fun_induction spansFrom i cs with
  | case1 => cases h
  | case2 i cs before token rest found stop ih =>
      rcases List.mem_cons.1 h with rfl | later
      · refine ⟨token, rest, ?_, rfl⟩
        rw [← List.drop_drop, here]
        exact read?_of_find? found
      · refine ih ?_ later
        change whole.drop (i + before.length + token.text.length) = rest
        rw [Nat.add_assoc, ← List.drop_drop, here, text_of_find? found, ← List.length_append,
          List.drop_left]

end Group.Token

namespace Path

theorem read?_drop_of_lastGroup?_none {cs : List Char} (h : lastGroup? cs = none) {k : Nat}
    (before : '/' ∉ cs.take k) : Group.Token.read? (cs.drop k) = none := by
  induction cs generalizing k with
  | nil => simp [Group.Token.read?, Group.Token.opener?]
  | cons c cs ih =>
      unfold lastGroup? at h
      split at h
      · next slash =>
          subst slash
          cases k with
          | zero => simp [Group.Token.read?, Group.Token.opener?]
          | succ k => simp at before
      · split at h
        · cases h
        · next none_later =>
            rw [Option.map_eq_none_iff] at h
            cases k with
            | zero => exact h
            | succ k =>
                rw [List.take_succ_cons, List.mem_cons, not_or] at before
                exact ih none_later before.2

/-- The last group that opens before the next slash stands where it is read, and no other opens
between it and that slash. -/
theorem of_lastGroup? {cs before rest : List Char} {token : Group.Token}
    (h : lastGroup? cs = some (before, token, rest)) :
    '/' ∉ before ∧ Group.Token.read? (cs.drop before.length) = some (token, rest) ∧
      ∀ k, before.length < k → '/' ∉ cs.take k → Group.Token.read? (cs.drop k) = none := by
  induction cs generalizing before with
  | nil => cases h
  | cons c cs ih =>
      unfold lastGroup? at h
      split at h
      · cases h
      · next no_slash =>
          have clear : ∀ {k}, '/' ∉ (c :: cs).take (k + 1) → '/' ∉ cs.take k := by
            intro k open_still
            rw [List.take_succ_cons, List.mem_cons, not_or] at open_still
            exact open_still.2
          split at h
          · next before' found later =>
              cases h
              obtain ⟨no_slash', reads, last⟩ := ih later
              refine ⟨by simp [Ne.symm no_slash, no_slash'], reads, ?_⟩
              intro k hk open_still
              obtain ⟨k, rfl⟩ := Nat.exists_eq_succ_of_ne_zero (Nat.ne_zero_of_lt hk)
              exact last k (Nat.lt_of_succ_lt_succ hk) (clear open_still)
          · next none_later =>
              obtain ⟨found, reads, same⟩ := Option.map_eq_some_iff.1 h
              cases same
              refine ⟨by simp, reads, ?_⟩
              intro k hk open_still
              obtain ⟨k, rfl⟩ := Nat.exists_eq_succ_of_ne_zero (Nat.ne_zero_of_lt hk)
              exact read?_drop_of_lastGroup?_none none_later (clear open_still)

/-- A component where it stands, and the group that claims it, if one does. -/
structure Piece where
  span : Span
  claim : Option Span
deriving DecidableEq, Repr

def piecesFrom (i : Nat) (cs : List Char) : List Piece :=
  match _found : lastGroup? cs with
  | some (before, token, rest) =>
    let claim : Span := ⟨i + before.length, i + before.length + token.text.length⟩
    let stop := claim.stop + (piece rest).length
    ⟨⟨i, stop⟩, some claim⟩ :: piecesFrom stop (afterPiece rest)
  | none =>
    let stop := i + (piece cs).length
    let tail := match _next : afterPiece cs with
      | [] => []
      | _ :: rest => piecesFrom (stop + 1) rest
    if (piece cs).isEmpty then tail else ⟨⟨i, stop⟩, none⟩ :: tail
termination_by cs.length
decreasing_by
  · exact Nat.lt_of_le_of_lt (length_afterPiece_le rest) (length_lt_of_lastGroup? _found)
  · have shorter := length_afterPiece_le cs
    rw [_next] at shorter
    exact shorter

/-- A text is taken apart by groups that claim components, and by slashes where there are none. -/
theorem induct_pieces {P : Nat → List Char → Prop} (nil : ∀ i, P i [])
    (group : ∀ i cs before token rest, lastGroup? cs = some (before, token, rest) →
      P (i + before.length + token.text.length + (piece rest).length) (afterPiece rest) → P i cs)
    (plain : ∀ i cs, cs ≠ [] → lastGroup? cs = none →
      P (i + (piece cs).length + 1) (afterPiece cs).tail → P i cs)
    (i : Nat) (cs : List Char) : P i cs := by
  by_cases empty : cs = []
  · subst empty
    exact nil i
  · cases found : lastGroup? cs with
    | none => exact plain i cs empty found (induct_pieces nil group plain _ _)
    | some parts =>
        obtain ⟨before, token, rest⟩ := parts
        exact group i cs before token rest found (induct_pieces nil group plain _ _)
termination_by cs.length
decreasing_by
  · have shorter := length_afterPiece_le cs
    have positive := List.length_pos_iff.2 empty
    rw [List.length_tail]
    omega
  · exact Nat.lt_of_le_of_lt (length_afterPiece_le rest) (length_lt_of_lastGroup? found)

section Equations

variable {cs before rest : List Char} {token : Group.Token}

theorem components_of_group (h : lastGroup? cs = some (before, token, rest)) :
    components cs = (before ++ token.text ++ piece rest) :: components (afterPiece rest) := by
  rw [components]
  split
  · next found =>
      cases h.symm.trans found
      rfl
  · next found => cases h.symm.trans found

theorem components_nil : components [] = [] := by
  rw [components]
  rfl

theorem components_of_plain (h : lastGroup? cs = none) :
    components cs =
      (if piece cs = [] then [] else [piece cs]) ++ components (afterPiece cs).tail := by
  rw [components]
  split
  · next found => cases h.symm.trans found
  · split <;> by_cases empty : piece cs = [] <;> simp [*, components_nil]

theorem ne_nil_of_mem_components {c : List Char} (h : c ∈ components cs) : c ≠ [] := by
  induction 0, cs using induct_pieces with
  | nil i =>
      rw [components_nil] at h
      cases h
  | group i cs before token rest found ih =>
      rw [components_of_group found, List.mem_cons] at h
      rcases h with rfl | h
      · simp [Group.Token.text]
      · exact ih h
  | plain i cs nonempty found ih =>
      rw [components_of_plain found, List.mem_append] at h
      rcases h with first | h
      · split at first
        · cases first
        · next some_text =>
            cases List.mem_singleton.1 first
            exact some_text
      · exact ih h

theorem piecesFrom_of_group {i : Nat} (h : lastGroup? cs = some (before, token, rest)) :
    piecesFrom i cs =
      ⟨⟨i, i + before.length + token.text.length + (piece rest).length⟩,
        some ⟨i + before.length, i + before.length + token.text.length⟩⟩ ::
        piecesFrom (i + before.length + token.text.length + (piece rest).length)
          (afterPiece rest) := by
  rw [piecesFrom]
  split
  · next found =>
      cases h.symm.trans found
      rfl
  · next found => cases h.symm.trans found

theorem piecesFrom_nil (i : Nat) : piecesFrom i [] = [] := by
  rw [piecesFrom]
  rfl

theorem piecesFrom_of_plain {i : Nat} (h : lastGroup? cs = none) :
    piecesFrom i cs =
      (if piece cs = [] then [] else [⟨⟨i, i + (piece cs).length⟩, none⟩]) ++
        piecesFrom (i + (piece cs).length + 1) (afterPiece cs).tail := by
  rw [piecesFrom]
  split
  · next found => cases h.symm.trans found
  · split <;> by_cases empty : piece cs = [] <;> simp [*, piecesFrom_nil]

end Equations

theorem piece_append_afterPiece (cs : List Char) : piece cs ++ afterPiece cs = cs :=
  List.takeWhile_append_dropWhile

theorem slash_not_mem_piece (cs : List Char) : '/' ∉ piece cs := by
  intro h
  have all := List.all_eq_true.1 (List.all_takeWhile (p := (· ≠ '/')) (l := cs)) '/' h
  simp at all

theorem afterPiece_cases (cs : List Char) :
    afterPiece cs = [] ∨ ∃ rest, afterPiece cs = '/' :: rest := by
  have head := List.head?_dropWhile_not (· ≠ '/') cs
  cases h : afterPiece cs with
  | nil => exact .inl rfl
  | cons c rest =>
      rw [← afterPiece, h] at head
      simp at head
      exact .inr ⟨rest, by rw [head]⟩

theorem drop_add_length {whole text rest : List Char} {i : Nat} (h : whole.drop i = text ++ rest) :
    whole.drop (i + text.length) = rest := by
  rw [← List.drop_drop, h, List.drop_left]

theorem text_of_drop {whole text rest : List Char} {i stop : Nat}
    (h : whole.drop i = text ++ rest) (reach : stop = i + text.length) :
    (⟨i, stop⟩ : Span).text whole = text := by
  rw [Span.text, h, reach, Nat.add_sub_cancel_left, List.take_left]

theorem drop_afterPiece {whole cs : List Char} {i : Nat} (here : whole.drop i = cs) :
    whole.drop (i + (piece cs).length) = afterPiece cs :=
  drop_add_length (here.trans (piece_append_afterPiece cs).symm)

theorem drop_tail_afterPiece {whole cs : List Char} {i : Nat} (here : whole.drop i = cs) :
    whole.drop (i + (piece cs).length + 1) = (afterPiece cs).tail := by
  rw [← List.drop_drop, drop_afterPiece here, List.drop_one]

theorem drop_group {whole cs before rest : List Char} {token : Group.Token} {i : Nat}
    (here : whole.drop i = cs) (found : lastGroup? cs = some (before, token, rest)) :
    whole.drop (i + before.length + token.text.length) = rest := by
  have split := here.trans (text_of_lastGroup? found)
  rw [List.append_assoc] at split
  exact drop_add_length (drop_add_length split)

theorem components_eq_pieces {whole cs : List Char} {i : Nat} (here : whole.drop i = cs) :
    components cs = (piecesFrom i cs).map (·.span.text whole) := by
  induction i, cs using induct_pieces with
  | nil i => rw [components_nil, piecesFrom_nil, List.map_nil]
  | group i cs before token rest found ih =>
      rw [components_of_group found, piecesFrom_of_group found, List.map_cons,
        ← ih (drop_afterPiece (drop_group here found))]
      congr 1
      have split : whole.drop i = before ++ token.text ++ piece rest ++ afterPiece rest := by
        rw [here, List.append_assoc _ (piece rest), piece_append_afterPiece]
        exact text_of_lastGroup? found
      refine (text_of_drop split ?_).symm
      simp only [List.length_append]
      omega
  | plain i cs nonempty found ih =>
      rw [components_of_plain found, piecesFrom_of_plain found, List.map_append,
        ← ih (drop_tail_afterPiece here)]
      congr 1
      split
      · rfl
      · have split := here.trans (piece_append_afterPiece cs).symm
        rw [List.map_singleton, text_of_drop split rfl]

def Opens (whole : List Char) (k : Nat) : Prop :=
  (Group.Token.read? (whole.drop k)).isSome = true

/-- What a component and its claim are to the text that they are part of. -/
structure Piece.Stands (whole : List Char) (p : Piece) : Prop where
  nonempty : p.span.start < p.span.stop
  ends : whole.length ≤ p.span.stop ∨ whole[p.span.stop]? = some '/'
  claim_inside : ∀ c ∈ p.claim, p.span.start ≤ c.start ∧ c.stop ≤ p.span.stop
  claim_stands : ∀ c ∈ p.claim, Group.Token.StandsAt whole c
  no_slash : ∀ c ∈ p.claim, ∀ k, c.stop ≤ k → k < p.span.stop → whole[k]? ≠ some '/'
  /-- No group opens behind the claim before a slash. -/
  last : ∀ c ∈ p.claim, ∀ k, c.start < k → Opens whole k →
    ∃ l, c.start ≤ l ∧ l < k ∧ whole[l]? = some '/'
  no_group : p.claim = none → ∀ k, p.span.start ≤ k → k < p.span.stop → ¬Opens whole k

/-- Pieces that follow one another from a place of a text on, with slashes between them. -/
structure Laid (whole : List Char) (i : Nat) (ps : List Piece) : Prop where
  ascending : ps.Pairwise (·.span.stop ≤ ·.span.start)
  start_le : ∀ p ∈ ps, i ≤ p.span.start
  stands : ∀ p ∈ ps, p.Stands whole
  covers : ∀ k, i ≤ k → k < whole.length → whole[k]? ≠ some '/' →
    ∃ p ∈ ps, p.span.start ≤ k ∧ k < p.span.stop

theorem Laid.nil {whole : List Char} {i : Nat} (h : whole.length ≤ i) : Laid whole i [] where
  ascending := .nil
  start_le := by simp
  stands := by simp
  covers k from_i before := by omega

theorem Laid.cons {whole : List Char} {p : Piece} {ps : List Piece} (stands : p.Stands whole)
    (rest : Laid whole p.span.stop ps) : Laid whole p.span.start (p :: ps) where
  ascending := List.pairwise_cons.2 ⟨rest.start_le, rest.ascending⟩
  start_le q hq := by
    rcases List.mem_cons.1 hq with rfl | hq
    · exact Nat.le_refl _
    · exact Nat.le_trans (Nat.le_of_lt stands.nonempty) (rest.start_le q hq)
  stands q hq := by
    rcases List.mem_cons.1 hq with rfl | hq
    · exact stands
    · exact rest.stands q hq
  covers k from_start before plain := by
    by_cases here : k < p.span.stop
    · exact ⟨p, List.mem_cons_self, from_start, here⟩
    · obtain ⟨q, hq, covers⟩ := rest.covers k (Nat.le_of_not_lt here) before plain
      exact ⟨q, List.mem_cons_of_mem _ hq, covers⟩

theorem Laid.skip {whole : List Char} {i : Nat} {ps : List Piece}
    (slash : whole.length ≤ i ∨ whole[i]? = some '/') (rest : Laid whole (i + 1) ps) :
    Laid whole i ps where
  ascending := rest.ascending
  start_le q hq := Nat.le_of_succ_le (rest.start_le q hq)
  stands := rest.stands
  covers k from_i before plain := by
    rcases Nat.eq_or_lt_of_le from_i with rfl | later
    · rcases slash with past | slash
      · omega
      · exact absurd slash plain
    · exact rest.covers k later before plain

theorem getElem?_add {whole cs : List Char} {i : Nat} (here : whole.drop i = cs) (k : Nat) :
    whole[i + k]? = cs[k]? := by
  rw [← here, List.getElem?_drop]

theorem not_slash_of_piece {whole cs : List Char} {i k : Nat} (here : whole.drop i = cs)
    (from_i : i ≤ k) (before : k < i + (piece cs).length) : whole[k]? ≠ some '/' := by
  obtain ⟨n, rfl⟩ := Nat.exists_eq_add_of_le from_i
  rw [getElem?_add here, ← piece_append_afterPiece cs, List.getElem?_append_left (by omega)]
  intro slash
  exact slash_not_mem_piece cs (List.mem_of_getElem? slash)

theorem ends_of_piece {whole cs : List Char} {i : Nat} (here : whole.drop i = cs) :
    whole.length ≤ i + (piece cs).length ∨ whole[i + (piece cs).length]? = some '/' := by
  have behind := drop_afterPiece here
  rcases afterPiece_cases cs with nothing | ⟨rest, slash⟩
  · rw [nothing] at behind
    exact .inl (List.drop_eq_nil_iff.1 behind)
  · rw [slash] at behind
    exact .inr (by rw [← List.head?_drop, behind]; rfl)

theorem exists_slash_of_opens {whole cs before rest : List Char} {token : Group.Token} {i k : Nat}
    (here : whole.drop i = cs) (found : lastGroup? cs = some (before, token, rest))
    (later : i + before.length < k) (opens : Opens whole k) :
    ∃ l, i + before.length ≤ l ∧ l < k ∧ whole[l]? = some '/' := by
  obtain ⟨no_slash, _, last⟩ := of_lastGroup? found
  obtain ⟨n, rfl⟩ : ∃ n, k = i + n := Nat.exists_eq_add_of_le (by omega)
  rw [Opens, ← List.drop_drop, here] at opens
  have slash : '/' ∈ cs.take n := by
    apply Decidable.byContradiction
    intro open_still
    rw [last n (by omega) open_still] at opens
    cases opens
  obtain ⟨m, hm⟩ := List.mem_iff_getElem?.1 slash
  rw [List.getElem?_take] at hm
  split at hm
  · next early =>
      have behind : before.length ≤ m := by
        apply Nat.le_of_not_lt
        intro inside
        rw [text_of_lastGroup? found, List.append_assoc, List.getElem?_append_left inside] at hm
        exact no_slash (List.mem_of_getElem? hm)
      exact ⟨i + m, by omega, by omega, (getElem?_add here m).trans hm⟩
  · cases hm

theorem stands_of_group {whole cs before rest : List Char} {token : Group.Token} {i : Nat}
    (here : whole.drop i = cs) (found : lastGroup? cs = some (before, token, rest)) :
    Piece.Stands whole ⟨⟨i, i + before.length + token.text.length + (piece rest).length⟩,
      some ⟨i + before.length, i + before.length + token.text.length⟩⟩ where
  nonempty := by
    simp only [Group.Token.text, List.length_append, List.length_cons]
    omega
  ends := ends_of_piece (drop_group here found)
  claim_inside c hc := by
    cases hc
    exact ⟨Nat.le_add_right .., Nat.le_add_right ..⟩
  claim_stands c hc := by
    cases hc
    refine ⟨token, rest, ?_, rfl⟩
    rw [← List.drop_drop, here]
    exact (of_lastGroup? found).2.1
  no_slash c hc k behind before := by
    cases hc
    exact not_slash_of_piece (drop_group here found) behind before
  last c hc k later opens := by
    cases hc
    exact exists_slash_of_opens here found later opens
  no_group h := by cases h

theorem stands_of_plain {whole cs : List Char} {i : Nat} (here : whole.drop i = cs)
    (found : lastGroup? cs = none) (nonempty : piece cs ≠ []) :
    Piece.Stands whole ⟨⟨i, i + (piece cs).length⟩, none⟩ where
  nonempty := Nat.lt_add_of_pos_right (List.length_pos_iff.2 nonempty)
  ends := ends_of_piece here
  claim_inside c hc := by cases hc
  claim_stands c hc := by cases hc
  no_slash c hc := by cases hc
  last c hc := by cases hc
  no_group _ k from_i before opens := by
    obtain ⟨n, rfl⟩ := Nat.exists_eq_add_of_le from_i
    have short : n < (piece cs).length := Nat.add_lt_add_iff_left.1 before
    have clear : '/' ∉ cs.take n := by
      rw [← piece_append_afterPiece cs, List.take_append_of_le_length (by omega)]
      exact fun slash => slash_not_mem_piece cs (List.mem_of_mem_take slash)
    rw [Opens, ← List.drop_drop, here, read?_drop_of_lastGroup?_none found clear] at opens
    cases opens

theorem laid_piecesFrom {whole cs : List Char} {i : Nat} (here : whole.drop i = cs) :
    Laid whole i (piecesFrom i cs) := by
  induction i, cs using induct_pieces with
  | nil i =>
      rw [piecesFrom_nil]
      exact .nil (List.drop_eq_nil_iff.1 here)
  | group i cs before token rest found ih =>
      rw [piecesFrom_of_group found]
      exact (ih (drop_afterPiece (drop_group here found))).cons (stands_of_group here found)
  | plain i cs nonempty found ih =>
      have rest := (ih (drop_tail_afterPiece here)).skip (ends_of_piece here)
      rw [piecesFrom_of_plain found]
      split
      · next empty => simpa [empty] using rest
      · next some_text => exact rest.cons (stands_of_plain here found some_text)

def pieces (path : String) : List Piece := piecesFrom 0 path.toList

/-- The groups of a path from left to right, none overlapping another. -/
def groups (path : String) : List Span := Group.Token.spansFrom 0 path.toList

/-- A component cuts a group that opens in it behind its claim, if the claim has a slash before that
group and the group has one itself behind the claim. -/
def Piece.Cuts (whole : List Char) (p : Piece) (g : Span) : Prop :=
  p.span.start ≤ g.start ∧ g.start < p.span.stop ∧ ∃ c ∈ p.claim,
    (∃ k < g.start, c.start ≤ k ∧ k < c.stop ∧ whole[k]? = some '/') ∧
    ∃ k < g.stop, g.start ≤ k ∧ c.stop ≤ k ∧ whole[k]? = some '/'

instance (whole : List Char) (p : Piece) (g : Span) : Decidable (p.Cuts whole g) :=
  inferInstanceAs (Decidable (_ ∧ _ ∧ ∃ c ∈ _, _ ∧ _))

section Kept

variable {whole : List Char} {p : Piece} {c g : Span}

theorem length_of_standsAt (h : Group.Token.StandsAt whole g) :
    ∃ token rest, Group.Token.read? (whole.drop g.start) = some (token, rest) ∧
      g.start < g.stop ∧ g.stop + rest.length = whole.length := by
  obtain ⟨token, rest, reads, stop⟩ := h
  have length := congrArg List.length (Group.Token.text_of_read? reads)
  have positive : 0 < token.text.length := by
    simp only [Group.Token.text, List.length_append, List.length_cons]
    omega
  simp only [List.length_drop, List.length_append] at length
  exact ⟨token, rest, reads, by omega, by omega⟩

/-- A group that opens no later than the claim of its component does not close later. -/
theorem stop_le_of_start_le (hc : Group.Token.StandsAt whole c) (hg : Group.Token.StandsAt whole g)
    (order : g.start ≤ c.start) : g.stop ≤ c.stop := by
  obtain ⟨_, rest, reads, _, length⟩ := length_of_standsAt hc
  obtain ⟨_, rest', reads', _, length'⟩ := length_of_standsAt hg
  obtain ⟨n, shift⟩ := Nat.exists_eq_add_of_le order
  rw [shift, ← List.drop_drop] at reads
  have shorter : rest.length ≤ rest'.length := by
    cases n with
    | zero =>
        rw [List.drop_zero, reads'] at reads
        cases reads
        exact Nat.le_refl _
    | succ n => exact Group.Token.length_le_of_read?_drop (Nat.succ_pos n) reads' reads
  omega

theorem Piece.Stands.not_cuts_of_within (h : p.Stands whole) (within : g.Within p.span) :
    ¬p.Cuts whole g := by
  rintro ⟨_, _, c, hc, _, k, before, _, behind, slash⟩
  exact h.no_slash c hc k behind (Nat.lt_of_lt_of_le before within.2) slash

theorem Piece.Stands.within_of_not_cuts (h : p.Stands whole) (hg : Group.Token.StandsAt whole g)
    (from_start : p.span.start ≤ g.start) (before : g.start < p.span.stop)
    (uncut : ¬p.Cuts whole g) : g.Within p.span := by
  obtain ⟨token, rest, reads, _, length⟩ := length_of_standsAt hg
  have opens : Opens whole g.start := by rw [Opens, reads]; rfl
  refine ⟨from_start, ?_⟩
  cases hc : p.claim with
  | none => exact absurd opens (h.no_group hc g.start from_start before)
  | some c =>
      have inside := (h.claim_inside c hc).2
      rcases Nat.lt_or_ge c.start g.start with later | no_later
      · apply Nat.le_of_not_lt
        intro beyond
        -- The slash that ends the component is one of the group, and another came before it.
        obtain ⟨k, from_claim, early, slash⟩ := h.last c hc g.start later opens
        have in_claim : k < c.stop := by
          apply Nat.lt_of_not_le
          intro behind
          exact h.no_slash c hc k behind (Nat.lt_trans early before) slash
        rcases h.ends with past | ending
        · omega
        · exact uncut ⟨from_start, before, c, hc, ⟨k, early, from_claim, in_claim, slash⟩,
            p.span.stop, beyond, Nat.le_of_lt before, inside, ending⟩
      · exact Nat.le_trans (stop_le_of_start_le (h.claim_stands c hc) hg no_later) inside

theorem eq_of_mem_of_ascending {k : Nat} {ps : List Piece}
    (ascending : ps.Pairwise (·.span.stop ≤ ·.span.start)) {p q : Piece} (hp : p ∈ ps)
    (hq : q ∈ ps) (in_p : p.span.start ≤ k ∧ k < p.span.stop)
    (in_q : q.span.start ≤ k ∧ k < q.span.stop) : p = q := by
  induction ps with
  | nil => cases hp
  | cons first ps ih =>
      obtain ⟨behind, ascending⟩ := List.pairwise_cons.1 ascending
      rcases List.mem_cons.1 hp with rfl | p_later <;> rcases List.mem_cons.1 hq with rfl | q_later
      · rfl
      · have order := behind q q_later
        omega
      · have order := behind p p_later
        omega
      · exact ih ascending p_later q_later

/-- What opens a group is no slash, so some piece has it. -/
theorem Laid.exists_piece {i : Nat} {ps : List Piece} (h : Laid whole i ps)
    (hg : Group.Token.StandsAt whole g) (from_i : i ≤ g.start) :
    ∃ p ∈ ps, p.span.start ≤ g.start ∧ g.start < p.span.stop := by
  obtain ⟨_, rest, reads, some_text, length⟩ := length_of_standsAt hg
  have paren := Group.Token.head?_of_read? reads
  rw [List.head?_drop] at paren
  exact h.covers g.start from_i (by omega) (by rw [paren]; simp)

end Kept

/-- The components of a path stand in it one after the other, and a group lies in one of them unless
it is cut. -/
theorem group_kept_iff (path : String) :
    split path = (pieces path).map (fun p => String.ofList (p.span.text path.toList)) ∧
      (pieces path).Pairwise (·.span.stop ≤ ·.span.start) ∧
      ∀ g ∈ groups path, (∃ p ∈ pieces path, g.Within p.span) ↔
        ∀ p ∈ pieces path, ¬p.Cuts path.toList g := by
  have here : path.toList.drop 0 = path.toList := List.drop_zero
  have laid := laid_piecesFrom here
  refine ⟨?_, laid.ascending, fun g hg => ?_⟩
  · rw [split, components_eq_pieces here, List.map_map]
    rfl
  · have stands := Group.Token.standsAt_of_mem_spansFrom here hg
    constructor
    · rintro ⟨p, hp, within⟩ q hq cut
      have opens_in : p.span.start ≤ g.start ∧ g.start < p.span.stop := by
        obtain ⟨_, _, _, some_text, _⟩ := length_of_standsAt stands
        exact ⟨within.1, Nat.lt_of_lt_of_le some_text within.2⟩
      have same := eq_of_mem_of_ascending laid.ascending hp hq opens_in ⟨cut.1, cut.2.1⟩
      subst same
      exact (laid.stands p hp).not_cuts_of_within within cut
    · intro uncut
      obtain ⟨p, hp, from_start, before⟩ := laid.exists_piece stands (Nat.zero_le _)
      exact ⟨p, hp, (laid.stands p hp).within_of_not_cuts stands from_start before (uncut p hp)⟩

/-- A group without a slash is kept behind one that has some. -/
theorem group_kept_iff_shared :
    let path := "p/(?P<a>x/y)(?P<b>z)"
    ⟨12, 20⟩ ∈ groups path ∧ (∀ p ∈ pieces path, ¬p.Cuts path.toList ⟨12, 20⟩) ∧
      ∃ p ∈ pieces path, (⟨12, 20⟩ : Span).Within p.span := by
  intro path
  have listed : ⟨12, 20⟩ ∈ groups path := by decide +kernel
  have uncut : ∀ p ∈ pieces path, ¬p.Cuts path.toList ⟨12, 20⟩ := by decide +kernel
  exact ⟨listed, uncut, ((group_kept_iff path).2.2 _ listed).2 uncut⟩

/-- The second of two groups with slashes and nothing between them is cut. -/
theorem second_group_cut :
    let path := "(?P<a>x/y)(?P<b>z/w)"
    groups path = [⟨0, 10⟩, ⟨10, 20⟩] ∧ split path = ["(?P<a>x/y)(?P<b>z", "w)"] ∧
      ¬∃ p ∈ pieces path, (⟨10, 20⟩ : Span).Within p.span := by
  decide +kernel

end Path
end RestRoutes
