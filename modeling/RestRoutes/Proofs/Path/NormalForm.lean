import RestRoutes.Proofs.Path.Gaps

/-!
Splitting what was split. Components keep their order and everything in them when a text is put
together from them again, with however many slashes in between, and that is enough to find them:
what can open a group depends on the signs behind it and not on the slashes among these
(`Begins.of_sublist`). So components are a normal form (`split_of_joined`).
-/
namespace RestRoutes

open scoped List

namespace Group

open Token (Ends openers endsName)

/-- Behind its opener a group has a sign for its name, and later a delimiter and a parenthesis. -/
theorem begins_iff {cs : List Char} :
    Begins cs ↔ ∃ opener ∈ openers, ∃ c tail, cs = opener ++ c :: tail ∧ endsName c = false ∧
      ∃ d, endsName d = true ∧ [d, ')'] <+ tail := by
  constructor
  · rintro ⟨head, after, rfl, closes⟩
    obtain ⟨c, name, named⟩ := List.exists_cons_of_ne_nil head.name_ne_nil
    have plain := head.name_plain c (named ▸ List.mem_cons_self)
    refine ⟨head.opener, head.opener_mem, c, name ++ head.delimiter :: after, ?_,
      Token.endsName_eq_false_iff.2 plain, head.delimiter,
      Token.endsName_iff.2 head.delimiter_ends, ?_⟩
    · simp [Head.text, named]
    · exact ((List.singleton_sublist.2 closes).cons_cons _).trans (List.sublist_append_right ..)
  · rintro ⟨opener, listed, c, tail, rfl, plain, d, ends, closes⟩
    obtain ⟨front, after, rfl, delimited, closed⟩ := List.cons_sublist_iff.1 closes
    -- The name ends at the first delimiter, which need not be the one given.
    have some_end : (front.find? endsName).isSome = true := List.find?_isSome.2 ⟨d, delimited, ends⟩
    obtain ⟨d', found⟩ := Option.isSome_iff_exists.1 some_end
    obtain ⟨ends', name, more, rfl, first⟩ := List.find?_eq_some_iff_append.1 found
    refine ⟨⟨opener, c :: name, d', listed, List.cons_ne_nil _ _, ?_, Token.endsName_iff.1 ends'⟩,
      more ++ after, by simp [Head.text], List.mem_append_right _ (List.singleton_sublist.1 closed)⟩
    intro x hx
    rw [← Token.endsName_eq_false_iff]
    rcases List.mem_cons.1 hx with rfl | inside
    · exact plain
    · simpa using first x inside

/-- A group that can begin still can if there are more signs behind a slash, whatever the slashes
among them. -/
theorem Begins.of_sublist {cs rest rest' : List Char} (h : Begins (cs ++ rest)) (ends : Ends rest)
    (ends' : Ends rest') (fewer : rest.filter (· ≠ '/') <+ rest'.filter (· ≠ '/')) :
    Begins (cs ++ rest') := by
  have no_slash : ∀ opener ∈ openers, '/' ∉ opener := by decide
  obtain ⟨opener, listed, c, tail, text, plain, d, delimits, closes⟩ := begins_iff.1 h
  have signs : [d, ')'].filter (· ≠ '/') = [d, ')'] := by
    have other : d ≠ '/' := by rintro rfl; cases delimits
    simp [other]
  have carried : ∀ {xs ys : List Char}, [d, ')'] <+ xs →
      xs.filter (· ≠ '/') <+ ys.filter (· ≠ '/') → [d, ')'] <+ ys := by
    intro xs ys within kept
    have filtered := within.filter (· ≠ '/')
    rw [signs] at filtered
    exact (filtered.trans kept).trans List.filter_sublist
  refine begins_iff.2 ⟨opener, listed, ?_⟩
  obtain ⟨more, rfl, behind⟩ : ∃ more, cs = opener ++ more ∧ c :: tail = more ++ rest := by
    rcases List.append_eq_append_iff.1 text with ⟨more, rfl, rfl⟩ | ⟨more, rfl, same⟩
    · cases more with
      | nil => exact ⟨[], by simp, rfl⟩
      | cons x more =>
          rcases ends with absurd | ⟨_, slash⟩
          · cases absurd
          · obtain ⟨rfl, _⟩ := List.cons.inj slash
            exact absurd (by simp) (no_slash _ listed)
    · exact ⟨more, rfl, same⟩
  cases more with
  | nil =>
      -- The name begins with the slash.
      rw [List.nil_append] at behind
      subst behind
      have closes' := carried (closes.cons c) fewer
      rcases ends' with rfl | ⟨tail', rfl⟩
      · cases closes'
      · refine ⟨'/', tail', by simp, rfl, d, delimits, ?_⟩
        rcases List.sublist_cons_iff.1 closes' with within | ⟨_, same, _⟩
        · exact within
        · cases same
          cases delimits
  | cons x more =>
      rw [List.cons_append, List.cons.injEq] at behind
      obtain ⟨rfl, rfl⟩ := behind
      refine ⟨c, more ++ rest', by simp, plain, d, delimits, carried closes ?_⟩
      rw [List.filter_append, List.filter_append]
      exact fewer.append_left _

namespace Token

variable {cs after pattern rest : List Char} {token : Token}

/-- What is left behind a parenthesis does not depend on whether a slash comes later. -/
theorem pattern?_close_append (ends : Ends after) :
    pattern? (')' :: (cs ++ after)) =
      (pattern? (')' :: cs)).map fun (pattern, rest) => (pattern, rest ++ after) := by
  rw [pattern?_close, pattern?_close]
  rcases ends with rfl | ⟨tail, rfl⟩
  · simp
  · rcases cs with _ | ⟨c, cs⟩
    · rfl
    · by_cases again : c = ')'
      · subst again
        rfl
      · by_cases mark : c = '?'
        · subst mark
          rcases cs with _ | ⟨c, cs⟩
          · rfl
          · by_cases last : c = ')'
            · subst last
              rfl
            · simp [last]
        · simp [again, mark]

theorem pattern?_append_iff (ends : Ends after) :
    pattern? (cs ++ after) = some (pattern, rest ++ after) ↔
      pattern? cs = some (pattern, rest) := by
  induction cs generalizing pattern with
  | nil =>
      refine iff_of_false (fun h => ?_) (fun h => by cases h)
      have shorter := length_lt_of_pattern? h
      simp only [List.nil_append, List.length_append] at shorter
      omega
  | cons c cs ih =>
      by_cases closes : c = ')'
      · subst closes
        rw [List.cons_append, pattern?_close_append ends, Option.map_eq_some_iff]
        constructor
        · rintro ⟨⟨pattern', rest'⟩, found, same⟩
          obtain ⟨rfl, kept⟩ := Prod.mk.inj same
          rw [found, List.append_cancel_right kept]
        · intro found
          exact ⟨(pattern, rest), found, rfl⟩
      · have single : ')' ∉ [c] := by simpa using Ne.symm closes
        have first := pattern?_append single
        rw [List.cons_append, ← List.singleton_append, first, ← List.singleton_append (l := cs),
          first, Option.map_eq_some_iff, Option.map_eq_some_iff]
        constructor
        · rintro ⟨⟨pattern', rest'⟩, closed, same⟩
          cases same
          exact ⟨(pattern', rest), ih.1 closed, rfl⟩
        · rintro ⟨⟨pattern', rest'⟩, closed, same⟩
          cases same
          exact ⟨(pattern', rest ++ after), ih.2 closed, rfl⟩

theorem read?_append_iff (ends : Ends after) :
    read? (cs ++ after) = some (token, rest ++ after) ↔ read? cs = some (token, rest) := by
  rw [read?_eq_some_iff, read?_eq_some_iff]
  constructor
  · rintro ⟨listed, named, name, delimits, behind, text, closed⟩
    have whole := append_of_pattern? closed
    refine ⟨listed, named, name, delimits, token.pattern ++ ')' :: rest, ?_, ?_⟩
    · rw [whole] at text
      exact List.append_cancel_right (text.trans (by simp))
    · rw [← pattern?_append_iff ends, ← closed, whole]
      simp
  · rintro ⟨listed, named, name, delimits, behind, rfl, closed⟩
    exact ⟨listed, named, name, delimits, behind ++ after, by simp,
      (pattern?_append_iff ends).2 closed⟩

end Token

end Group

namespace Path

open Group.Token (Ends read?)

section Behind

variable {cs after after' : List Char} (ends : Ends after) (ends' : Ends after')
  (fewer : after'.filter (· ≠ '/') <+ after.filter (· ≠ '/'))
include ends ends' fewer

theorem lastGroup?_none_of_fewer (h : lastGroup? (cs ++ after) = none) :
    lastGroup? (cs ++ after') = none := by
  induction cs with
  | nil => rcases ends' with rfl | ⟨tail, rfl⟩ <;> simp [lastGroup?]
  | cons c cs ih =>
      rw [List.cons_append] at h ⊢
      unfold lastGroup? at h ⊢
      split at h
      · next slash => rw [if_pos slash]
      · next no_slash =>
          rw [if_neg no_slash]
          split at h
          · cases h
          · next none_later =>
              rw [ih none_later, Option.map_eq_none_iff]
              rw [Option.map_eq_none_iff] at h
              -- A group that could begin here could also with all that stood behind.
              rw [← Option.not_isSome_iff_eq_none, Group.Token.isSome_read?_iff]
              intro begins
              have before : Group.Begins (c :: cs ++ after) :=
                Group.Begins.of_sublist begins ends' ends fewer
              rw [List.cons_append, ← Group.Token.isSome_read?_iff, h] at before
              cases before

theorem lastGroup?_of_fewer {before rest : List Char} {token : Group.Token}
    (h : lastGroup? (cs ++ after) = some (before, token, rest ++ after)) :
    lastGroup? (cs ++ after') = some (before, token, rest ++ after') := by
  induction cs generalizing before with
  | nil => rcases ends with rfl | ⟨tail, rfl⟩ <;> simp [lastGroup?] at h
  | cons c cs ih =>
      rw [List.cons_append] at h ⊢
      unfold lastGroup? at h ⊢
      split at h
      · cases h
      · next no_slash =>
          rw [if_neg no_slash]
          split at h
          · next before' found later =>
              cases h
              rw [ih later]
          · next none_later =>
              obtain ⟨⟨token', rest'⟩, reads, same⟩ := Option.map_eq_some_iff.1 h
              cases same
              have alone : read? (c :: cs) = some (token, rest) :=
                (Group.Token.read?_append_iff ends).1 reads
              have reads' := (Group.Token.read?_append_iff ends').2 alone
              rw [List.cons_append] at reads'
              rw [lastGroup?_none_of_fewer ends ends' fewer none_later, reads']
              rfl

end Behind

/-- A component that is split off whole, whatever follows it that has no other signs than some of
those given. -/
def WholeBefore (c signs : List Char) : Prop :=
  ∀ rest, Ends rest → rest.filter (· ≠ '/') <+ signs.filter (· ≠ '/') →
    components (c ++ rest) = c :: components rest

theorem WholeBefore.congr {c signs signs' : List Char} (h : WholeBefore c signs)
    (same : signs'.filter (· ≠ '/') = signs.filter (· ≠ '/')) : WholeBefore c signs' :=
  fun rest ends fewer => h rest ends (same ▸ fewer)

theorem WholeBefore.components_eq {c signs : List Char} (h : WholeBefore c signs) :
    components c = [c] := by
  have single := h [] (.inl rfl) (List.nil_sublist _)
  rwa [List.append_nil, components_nil] at single

theorem ends_afterPiece (cs : List Char) : Ends (afterPiece cs) := afterPiece_cases cs

theorem components_tail {rest : List Char} (ends : Ends rest) :
    components rest.tail = components rest := by
  rcases ends with rfl | ⟨tail, rfl⟩
  · rfl
  · rw [components_slash, List.tail_cons]

theorem wholeBefore_of_group {cs before rest : List Char} {token : Group.Token}
    (found : lastGroup? cs = some (before, token, rest)) :
    WholeBefore (before ++ token.text ++ piece rest) (afterPiece rest) := by
  intro after ends fewer
  have text : cs = before ++ token.text ++ piece rest ++ afterPiece rest := by
    rw [text_of_lastGroup? found, List.append_assoc _ (piece rest), piece_append_afterPiece]
  have split : lastGroup? (before ++ token.text ++ piece rest ++ afterPiece rest) =
      some (before, token, piece rest ++ afterPiece rest) := by
    rw [← text, piece_append_afterPiece, found]
  have found' := lastGroup?_of_fewer (ends_afterPiece rest) ends fewer split
  obtain ⟨piece_eq, after_eq⟩ := piece_append (slash_not_mem_piece rest) ends
  rw [components_of_group found', piece_eq, after_eq]

theorem wholeBefore_of_plain {cs : List Char} (none_found : lastGroup? cs = none)
    (nonempty : piece cs ≠ []) : WholeBefore (piece cs) (afterPiece cs) := by
  intro after ends fewer
  rw [← piece_append_afterPiece cs] at none_found
  have none_found' := lastGroup?_none_of_fewer (ends_afterPiece cs) ends fewer none_found
  obtain ⟨piece_eq, after_eq⟩ := piece_append (slash_not_mem_piece cs) ends
  rw [components_of_plain none_found', piece_eq, after_eq, if_neg nonempty, components_tail ends,
    List.singleton_append]

/-- Components each of which is split off whole before the signs of those behind it. -/
inductive Settled : List (List Char) → Prop
  | nil : Settled []
  | cons {c : List Char} {cs : List (List Char)} :
      WholeBefore c cs.flatten → Settled cs → Settled (c :: cs)

theorem settled_components (cs : List Char) : Settled (components cs) := by
  induction 0, cs using induct_pieces with
  | nil i =>
      rw [components_nil]
      exact .nil
  | group i cs before token rest found ih =>
      rw [components_of_group found]
      exact .cons ((wholeBefore_of_group found).congr
        (joined_components (afterPiece rest)).filter_flatten) ih
  | plain i cs nonempty found ih =>
      rw [components_of_plain found]
      split
      · exact ih
      · next some_text =>
          have signs := (joined_components (afterPiece cs)).filter_flatten
          rw [← components_tail (ends_afterPiece cs)] at signs
          exact .cons ((wholeBefore_of_plain found some_text).congr signs) ih

theorem Settled.components_of_joined {cs : List (List Char)} {text : List Char} (h : Settled cs)
    (joined : Joined cs text) : components text = cs := by
  induction joined with
  | nil => exact components_nil
  | slash joined ih => rw [components_slash, ih h]
  | last c =>
      obtain - | ⟨whole, _⟩ := h
      exact whole.components_eq
  | @cons c cs text joined ih =>
      obtain - | ⟨whole, later⟩ := h
      have signs : ('/' :: text).filter (· ≠ '/') = cs.flatten.filter (· ≠ '/') := by
        rw [List.filter_cons_of_neg (by simp), joined.filter_flatten]
      rw [whole _ (.inr ⟨text, rfl⟩) (signs ▸ List.Sublist.refl _), components_slash, ih later]

theorem Settled.components_of_mem {cs : List (List Char)} {c : List Char} (h : Settled cs)
    (hc : c ∈ cs) : components c = [c] := by
  induction h with
  | nil => cases hc
  | cons whole later ih =>
      rcases List.mem_cons.1 hc with rfl | hc
      · exact whole.components_eq
      · exact ih hc

theorem joined_intercalate (cs : List (List Char)) : Joined cs (['/'].intercalate cs) := by
  induction cs with
  | nil => exact .nil
  | cons c cs ih =>
      cases cs with
      | nil =>
          rw [List.intercalate_singleton]
          exact .last c
      | cons next cs =>
          rw [List.intercalate_cons_cons, List.append_assoc]
          exact .cons c ih

/-- A text that is put together from the components of a path, with slashes between them and any
more of them around, is split into these again, and each component by itself is its only one. -/
theorem split_of_joined (path : String) :
    (∀ text : String, Joined ((split path).map String.toList) text.toList →
      split text = split path) ∧
    split ("/".intercalate (split path)) = split path ∧
    ∀ c ∈ split path, split c = [c] := by
  have texts : (split path).map String.toList = components path.toList := by
    simp [split, Function.comp_def]
  have settled := settled_components path.toList
  have again : ∀ text : String, Joined ((split path).map String.toList) text.toList →
      split text = split path := by
    intro text joined
    rw [texts] at joined
    rw [split, settled.components_of_joined joined, split]
  refine ⟨again, again _ ?_, fun c hc => ?_⟩
  · rw [String.toList_intercalate]
    exact joined_intercalate _
  · have listed : c.toList ∈ components path.toList := texts ▸ List.mem_map_of_mem hc
    rw [split, settled.components_of_mem listed, List.map_singleton, String.ofList_toList]

/-- Marks that open no group, before and behind one that has a slash. -/
theorem split_of_joined_odd :
    let path := "(?P<>a//x(?P<b>p/q)y/(?<z"
    let text := "/(?P<>a/x(?P<b>p/q)y//(?<z/"
    Joined ((split path).map String.toList) text.toList ∧
      split path = ["(?P<>a", "x(?P<b>p/q)y", "(?<z"] ∧ split text = split path := by
  intro path text
  have parts : split path = ["(?P<>a", "x(?P<b>p/q)y", "(?<z"] := by decide +kernel
  have joined : Joined ((split path).map String.toList) text.toList := by
    have spelled : text.toList = '/' :: ("(?P<>a".toList ++ '/' :: ("x(?P<b>p/q)y".toList ++
        '/' :: '/' :: ("(?<z".toList ++ ['/']))) := by
      decide +kernel
    rw [parts, spelled]
    exact .slash (.cons _ (.cons _ (.slash (.cons _ .nil))))
  exact ⟨joined, parts, (split_of_joined path).1 text joined⟩

end Path
end RestRoutes
