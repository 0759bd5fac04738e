import RestRoutes.Proofs.Path.Grammar
import RestRoutes.Proofs.Path.Written

/-!
What splitting a path leaves out. The components stand in the path in their order, with slashes and
nothing else before, between and behind them, and where one has a slash of its own the slash lies
inside a group (`split_drops_slashes_only`).
-/
namespace RestRoutes.Path

def InGroup (cs : List Char) (i : Nat) : Prop :=
  ∃ before part after, cs = before ++ part ++ after ∧ (∃ g, Group.Spells part g) ∧
    before.length ≤ i ∧ i < before.length + part.length

theorem isSome_extract?_of_inGroup {component : String} {i : Nat}
    (h : InGroup component.toList i) : (Group.extract? component).isSome = true := by
  obtain ⟨before, part, after, text, ⟨g, spells⟩, _, _⟩ := h
  rw [Group.extract?, Option.isSome_map]
  refine Group.Token.isSome_find?_iff.2 ⟨before.length, ?_⟩
  rw [text, List.append_assoc, List.drop_left]
  exact spells.begins after

/-- A text that is not empty and has no slash at an end or outside of its groups. -/
structure Undivided (text : List Char) : Prop where
  nonempty : text ≠ []
  head : text.head? ≠ some '/'
  last : text.getLast? ≠ some '/'
  inside : ∀ i, text[i]? = some '/' → InGroup text i

theorem Undivided.of_no_slash {text : List Char} (nonempty : text ≠ []) (no_slash : '/' ∉ text) :
    Undivided text where
  nonempty := nonempty
  head slash := no_slash (List.mem_of_head? slash)
  last slash := no_slash (List.mem_of_getLast? slash)
  inside _ slash := absurd (List.mem_of_getElem? slash) no_slash

theorem exists_enclosed {part : List Char} {g : Group} (h : Group.Spells part g) :
    ∃ inner, part = '(' :: (inner ++ [')']) := by
  obtain ⟨head, _, _, rfl⟩ := h
  have opens : ∃ opener, head.opener = '(' :: opener := by
    have listed := head.opener_mem
    simp only [Group.Token.openers, List.mem_cons, List.not_mem_nil, or_false] at listed
    rcases listed with same | same | same <;> exact ⟨_, same⟩
  obtain ⟨opener, same⟩ := opens
  exact ⟨opener ++ head.name ++ [head.delimiter] ++ g.pattern.toList,
    by simp [Group.Head.text, same]⟩

theorem Undivided.of_group {before after part : List Char} {g : Group} (no_slash : '/' ∉ before)
    (no_slash' : '/' ∉ after) (spells : Group.Spells part g) :
    Undivided (before ++ part ++ after) where
  nonempty := by
    obtain ⟨inner, rfl⟩ := exists_enclosed spells
    simp
  head slash := by
    obtain ⟨inner, rfl⟩ := exists_enclosed spells
    rw [List.append_assoc, List.head?_append, Option.or_eq_some_iff] at slash
    rcases slash with first | ⟨_, first⟩
    · exact no_slash (List.mem_of_head? first)
    · cases first
  last slash := by
    obtain ⟨inner, rfl⟩ := exists_enclosed spells
    rw [List.getLast?_append, Option.or_eq_some_iff] at slash
    rcases slash with last | ⟨_, last⟩
    · exact no_slash' (List.mem_of_getLast? last)
    · rw [List.getLast?_append, ← List.cons_append, List.getLast?_concat] at last
      cases last
  inside i slash := by
    refine ⟨before, part, after, rfl, ⟨g, spells⟩, ?_, ?_⟩
    · apply Nat.le_of_not_lt
      intro early
      rw [List.append_assoc, List.getElem?_append_left early] at slash
      exact no_slash (List.mem_of_getElem? slash)
    · apply Nat.lt_of_not_le
      intro late
      rw [List.getElem?_append_right (by simpa using late)] at slash
      exact no_slash' (List.mem_of_getElem? slash)

theorem undivided_of_mem_components {cs c : List Char} (h : c ∈ components cs) : Undivided c := by
  induction 0, cs using induct_pieces with
  | nil i =>
      rw [components_nil] at h
      cases h
  | group i cs before token rest found ih =>
      rw [components_of_group found, List.mem_cons] at h
      obtain ⟨no_slash, reads, _⟩ := of_lastGroup? found
      rcases h with rfl | h
      · exact .of_group no_slash (slash_not_mem_piece rest) (Group.spells_of_read? reads)
      · exact ih h
  | plain i cs nonempty found ih =>
      rw [components_of_plain found, List.mem_append] at h
      rcases h with first | h
      · split at first
        · cases first
        · next some_text =>
            cases List.mem_singleton.1 first
            exact .of_no_slash some_text (slash_not_mem_piece cs)
      · exact ih h

/-- Of components in a row none begins with the slash that the row begins with. -/
theorem Joined.of_slash {cs : List (List Char)} {text : List Char} (h : Joined cs ('/' :: text))
    (undivided : ∀ c ∈ cs, Undivided c) : Joined cs text := by
  generalize same : '/' :: text = whole at h
  cases h with
  | nil => cases same
  | slash joined =>
      cases same
      exact joined
  | last c =>
      subst same
      exact absurd rfl (undivided _ List.mem_cons_self).head
  | cons c joined =>
      have first := undivided c List.mem_cons_self
      cases c with
      | nil => exact absurd rfl first.nonempty
      | cons x c =>
          cases same
          exact absurd rfl first.head

theorem joined_components (cs : List Char) : Joined (components cs) cs := by
  induction 0, cs using induct_pieces with
  | nil i =>
      rw [components_nil]
      exact .nil
  | group i cs before token rest found ih =>
      rw [components_of_group found]
      have text := text_of_lastGroup? found
      rw [← piece_append_afterPiece rest, ← List.append_assoc] at text
      rcases afterPiece_cases rest with nothing | ⟨behind, slash⟩
      · rw [nothing, List.append_nil] at text
        rw [nothing, components_nil, text]
        exact .last _
      · rw [slash] at text ih ⊢
        rw [text]
        exact .cons _ (ih.of_slash fun c hc => undivided_of_mem_components hc)
  | plain i cs nonempty found ih =>
      rw [components_of_plain found]
      have text := piece_append_afterPiece cs
      rcases afterPiece_cases cs with nothing | ⟨behind, slash⟩
      · rw [nothing, List.append_nil] at text
        rw [nothing, List.tail_nil, components_nil, text, if_neg nonempty, List.append_nil]
        exact .last cs
      · rw [slash, List.tail_cons] at ih ⊢
        rw [slash] at text
        split
        · next empty =>
            rw [empty, List.nil_append] at text
            rw [List.nil_append, ← text]
            exact .slash ih
        · have row := Joined.cons (piece cs) ih
          rwa [text] at row

theorem Joined.filter_flatten {cs : List (List Char)} {text : List Char} (h : Joined cs text) :
    cs.flatten.filter (· ≠ '/') = text.filter (· ≠ '/') := by
  induction h with
  | nil => rfl
  | slash joined ih => rw [ih, List.filter_cons_of_neg (by simp)]
  | last c => rw [List.flatten_singleton]
  | cons c joined ih =>
      rw [List.flatten_cons, List.filter_append, ih, List.filter_append,
        List.filter_cons_of_neg (by simp)]

def Slashes (cs : List Char) : Prop := ∀ c ∈ cs, c = '/'

theorem Joined.exists_gaps {cs : List (List Char)} {text : List Char} (h : Joined cs text) :
    ∃ lead gaps, gaps.length = cs.length ∧ text = lead ++ (cs.zipWith (· ++ ·) gaps).flatten ∧
      Slashes lead ∧ (∀ gap ∈ gaps, Slashes gap) ∧ ∀ gap ∈ gaps.dropLast, gap ≠ [] := by
  induction h with
  | nil => exact ⟨[], [], rfl, rfl, by simp [Slashes]⟩
  | slash joined ih =>
      obtain ⟨lead, gaps, length, rfl, slashes, gap_slashes, between⟩ := ih
      exact ⟨'/' :: lead, gaps, length, rfl, List.forall_mem_cons.2 ⟨rfl, slashes⟩, gap_slashes,
        between⟩
  | last c => exact ⟨[], [[]], rfl, by simp, by simp [Slashes]⟩
  | cons c joined ih =>
      obtain ⟨lead, gaps, length, rfl, slashes, gap_slashes, between⟩ := ih
      refine ⟨[], ('/' :: lead) :: gaps, congrArg (· + 1) length, by simp, by simp [Slashes],
        ?_, ?_⟩
      · exact List.forall_mem_cons.2 ⟨List.forall_mem_cons.2 ⟨rfl, slashes⟩, gap_slashes⟩
      · cases gaps with
        | nil => simp
        | cons gap gaps =>
            rw [List.dropLast_cons_cons]
            exact List.forall_mem_cons.2 ⟨List.cons_ne_nil _ _, between⟩

/-- A path is its components with slashes before, between and behind them. No component is empty or
has a slash at an end, and every slash in it lies inside a group. -/
theorem split_drops_slashes_only (path : String) :
    (∃ lead gaps, gaps.length = (split path).length ∧
      path.toList = lead ++ ((split path).zipWith (fun c gap => c.toList ++ gap) gaps).flatten ∧
      Slashes lead ∧ (∀ gap ∈ gaps, Slashes gap) ∧ ∀ gap ∈ gaps.dropLast, gap ≠ []) ∧
    ∀ c ∈ split path, Undivided c.toList ∧ (Group.extract? c = none → '/' ∉ c.toList) := by
  constructor
  · obtain ⟨lead, gaps, length, text, slashes⟩ := (joined_components path.toList).exists_gaps
    refine ⟨lead, gaps, by rw [length, split, List.length_map], ?_, slashes⟩
    simpa [split, List.zipWith_map_left] using text
  · intro c hc
    obtain ⟨cs, listed, rfl⟩ := List.mem_map.1 hc
    have undivided := undivided_of_mem_components listed
    rw [← String.toList_ofList (l := cs)] at undivided
    refine ⟨undivided, fun no_group slash => ?_⟩
    obtain ⟨i, place⟩ := List.mem_iff_getElem?.1 slash
    have found := isSome_extract?_of_inGroup (undivided.inside i place)
    rw [no_group] at found
    cases found

end RestRoutes.Path
