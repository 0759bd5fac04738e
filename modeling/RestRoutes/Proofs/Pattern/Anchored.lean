import RestRoutes.Proofs.Pattern.Classes
import RestRoutes.Proofs.Pattern.Groups
import RestRoutes.Validator

/-!
What patterns match that are made for whole values. A pattern stands in a group between two anchors,
and all that is read of it there is what is read of it alone, unless it closes that group
(`read_of_anchored`). Such a pattern takes whole values; any other is cut in two by the group's end
(`accepts_whole_iff`).
-/
namespace RestRoutes

namespace Pattern

namespace State

/-- A state with one more group around everything. -/
def within (s : State) (f : Frame) : State := { s with frames := s.frames ++ [f] }

variable {s : State} {f : Frame}

theorem within_frames_ne_nil : (s.within f).frames ≠ [] := by simp [within]

theorem leave_within (open_groups : s.frames ≠ []) :
    (s.within f).leave = s.leave.map (·.within f) := by
  obtain ⟨frames, branches, items, extended, numbered, names⟩ := s
  cases frames with
  | nil => exact absurd rfl open_groups
  | cons g frames => rfl

theorem repeatLast_within (min : Nat) (max : Option Nat) (lazy : Bool) :
    (s.within f).repeatLast min max lazy = (s.repeatLast min max lazy).map (·.within f) := by
  obtain ⟨frames, branches, items, extended, numbered, names⟩ := s
  cases items with
  | nil => rfl
  | cons e items =>
      cases repeats : e.repeatable <;> simp [within, repeatLast, repeats, Except.map]

theorem enterNumbered_within (name : Option String) :
    (s.within f).enterNumbered name = (s.enterNumbered name).map (·.within f) := by
  unfold enterNumbered
  by_cases twice : name.any s.names.contains = true
  · have twice' : name.any (s.within f).names.contains = true := twice
    simp only [if_pos twice, if_pos twice']
    rfl
  · have fresh : ¬name.any (s.within f).names.contains = true := twice
    simp only [if_neg twice, if_neg fresh]
    rfl

theorem opened_within (opening : Opening) :
    (s.within f).opened opening = (s.opened opening).map (·.within f) := by
  cases opening with
  | flags changes => rfl
  | group changes => rfl
  | numbered name => exact enterNumbered_within name

end State

/-- Most characters are read alone, and change nothing about the groups around. -/
theorem step_cases (c : Char) :
    c ∈ ['(', ')', '[', '?', '*', '+', '{', '\\'] ∨
      ∃ g : State → State, (∀ s f, g (s.within f) = (g s).within f) ∧
        ∀ s cs, step s c cs = .ok (g s, cs) := by
  by_cases special : c ∈ ['(', ')', '[', '?', '*', '+', '{', '\\']
  · exact .inl special
  · refine .inr ?_
    by_cases bar : c = '|'
    · subst bar
      exact ⟨State.branch, fun _ _ => rfl, fun _ _ => rfl⟩
    · by_cases dot : c = '.'
      · subst dot
        exact ⟨(·.push .dot), fun _ _ => rfl, fun _ _ => rfl⟩
      · by_cases start : c = '^'
        · subst start
          exact ⟨(·.push (.anchor .lineStart)), fun _ _ => rfl, fun _ _ => rfl⟩
        · by_cases stop : c = '$'
          · subst stop
            exact ⟨(·.push (.anchor .lineEnd)), fun _ _ => rfl, fun _ _ => rfl⟩
          · refine ⟨(·.push (.char c false)), fun _ _ => rfl, fun s cs => ?_⟩
            unfold step
            split <;> first | rfl | simp_all

theorem suffix_repeated {s s' : State} {min : Nat} {max : Option Nat} {cs rest : List Char}
    (h : step.repeated s min max cs = .ok (s', rest)) : rest <:+ cs := by
  obtain ⟨s'', _, same⟩ := bind_eq_ok_iff.1 h
  cases same
  exact suffix_readLazy cs

theorem suffix_step {s s' : State} {c : Char} {cs rest : List Char}
    (h : step s c cs = .ok (s', rest)) : rest <:+ cs := by
  rcases step_cases c with special | ⟨g, _, alone⟩
  · simp only [List.mem_cons, List.not_mem_nil, or_false] at special
    rcases special with rfl | rfl | rfl | rfl | rfl | rfl | rfl | rfl
    · obtain ⟨⟨opening, after⟩, read, h⟩ := bind_eq_ok_iff.1 h
      obtain ⟨s'', _, same⟩ := bind_eq_ok_iff.1 h
      cases same
      exact suffix_readOpening read
    · obtain ⟨s'', _, same⟩ := bind_eq_ok_iff.1 h
      cases same
      exact List.suffix_rfl
    · obtain ⟨⟨c, after⟩, read, same⟩ := bind_eq_ok_iff.1 h
      cases same
      exact suffix_readBracketed read
    · exact suffix_repeated h
    · exact suffix_repeated h
    · exact suffix_repeated h
    · obtain ⟨⟨min, max, after⟩, read, h⟩ := bind_eq_ok_iff.1 h
      exact (suffix_repeated h).trans (suffix_readCount read)
    · obtain ⟨⟨e, after⟩, read, same⟩ := bind_eq_ok_iff.1 h
      cases same
      exact suffix_readEscape read
  · rw [alone] at h
    cases h
    exact List.suffix_rfl

section Within

variable {s s' : State} {f : Frame} {cs rest' : List Char}

theorem repeated_within {min : Nat} {max : Option Nat}
    (h : step.repeated (s.within f) min max (cs ++ closing) = .ok (s', rest')) :
    ∃ inner rest, step.repeated s min max cs = .ok (inner, rest) ∧ s' = inner.within f ∧
      rest' = rest ++ closing := by
  unfold step.repeated at h ⊢
  rw [readLazy_append] at h
  dsimp only at h ⊢
  rw [State.repeatLast_within] at h
  obtain ⟨s'', mapped, same⟩ := bind_eq_ok_iff.1 h
  cases same
  obtain ⟨inner, alone, rfl⟩ := map_eq_ok_iff.1 mapped
  exact ⟨inner, _, bind_eq_ok_iff.2 ⟨_, alone, rfl⟩, rfl, rfl⟩

/-- From here the text cannot be read to its end. -/
def Lost (s' : State) (rest' : List Char) : Prop :=
  s'.frames ≠ [] ∧ (rest' <:+ past ∨ Stuck s'.extended rest')

/-- One part is read as it is in the pattern alone, but for a parenthesis that closes the group
around it. -/
theorem step_within {c : Char} (h : step (s.within f) c (cs ++ closing) = .ok (s', rest'))
    (inside : c = ')' → s.frames ≠ []) :
    (∃ inner rest, step s c cs = .ok (inner, rest) ∧ s' = inner.within f ∧
      rest' = rest ++ closing) ∨ Lost s' rest' := by
  rcases step_cases c with special | ⟨g, around, alone⟩
  · simp only [List.mem_cons, List.not_mem_nil, or_false] at special
    rcases special with rfl | rfl | rfl | rfl | rfl | rfl | rfl | rfl
    · obtain ⟨⟨opening, after⟩, read, h⟩ := bind_eq_ok_iff.1 h
      obtain ⟨s'', mapped, same⟩ := bind_eq_ok_iff.1 h
      cases same
      rw [State.opened_within] at mapped
      obtain ⟨inner, entered, rfl⟩ := map_eq_ok_iff.1 mapped
      rcases agrees_readOpening read with ⟨rest, alone, rfl⟩ | gone
      · exact .inl ⟨inner, rest, bind_eq_ok_iff.2 ⟨_, alone, bind_eq_ok_iff.2 ⟨_, entered, rfl⟩⟩,
          rfl, rfl⟩
      · exact .inr ⟨State.within_frames_ne_nil, .inl gone⟩
    · refine .inl ?_
      obtain ⟨s'', mapped, same⟩ := bind_eq_ok_iff.1 h
      cases same
      rw [State.leave_within (inside rfl)] at mapped
      obtain ⟨inner, left, rfl⟩ := map_eq_ok_iff.1 mapped
      exact ⟨inner, cs, bind_eq_ok_iff.2 ⟨_, left, rfl⟩, rfl, rfl⟩
    · refine .inl ?_
      obtain ⟨⟨c, after⟩, read, same⟩ := bind_eq_ok_iff.1 h
      cases same
      obtain ⟨rest, alone, rfl⟩ := readBracketed_append read
      exact ⟨_, rest, bind_eq_ok_iff.2 ⟨_, alone, rfl⟩, rfl, rfl⟩
    · exact .inl (repeated_within h)
    · exact .inl (repeated_within h)
    · exact .inl (repeated_within h)
    · obtain ⟨⟨min, max, after⟩, read, h⟩ := bind_eq_ok_iff.1 h
      rcases readCount_append read with ⟨rest, alone, rfl⟩ | rfl
      · obtain ⟨inner, rest', alone', around, rfl⟩ := repeated_within h
        exact .inl ⟨inner, rest', bind_eq_ok_iff.2 ⟨_, alone, alone'⟩, around, rfl⟩
      · have nothing := List.suffix_nil.1 (suffix_repeated h)
        obtain ⟨s'', mapped, same⟩ := bind_eq_ok_iff.1 h
        cases same
        rw [State.repeatLast_within] at mapped
        obtain ⟨inner, _, rfl⟩ := map_eq_ok_iff.1 mapped
        exact .inr ⟨State.within_frames_ne_nil, .inl (nothing ▸ List.nil_suffix)⟩
    · obtain ⟨⟨e, after⟩, read, same⟩ := bind_eq_ok_iff.1 h
      cases same
      rcases agrees_readEscape read with (⟨rest, alone, rfl⟩ | gone) | ⟨_, stuck⟩
      · exact .inl ⟨_, rest, bind_eq_ok_iff.2 ⟨_, alone, rfl⟩, rfl, rfl⟩
      · exact .inr ⟨State.within_frames_ne_nil, .inl gone⟩
      · exact .inr ⟨State.within_frames_ne_nil, .inr stuck⟩
  · rw [alone] at h
    cases h
    exact .inl ⟨g s, cs, alone s cs, around s f, rfl⟩

end Within

theorem isBlank_dollar : isBlank '$' = false := by decide +kernel

theorem isBlank_brace : isBlank '{' = false := by decide +kernel

theorem skip_of_plain {extended : Bool} {c : Char} (plain : isBlank c = false) (no_sign : c ≠ '#')
    (cs : List Char) : skip extended (c :: cs) = c :: cs := by
  simp [skip, scan, plain, no_sign]

theorem readCount_closing {extended : Bool} {cs : List Char} (blank : skip extended cs = []) :
    ∃ flaw, readCount extended (cs ++ closing) = .error flaw := by
  have none_given : ∀ text, text = closing ∨ text = [] →
      (readDecimal extended text).1 = .error .badCount := by
    rintro text (rfl | rfl)
    · simp [readDecimal, scan, closing, isBlank_paren, isDigit]
    · exact readDecimal_nil extended
  have either := skip_append extended cs
  rw [blank, List.nil_append] at either
  refine ⟨.badCount, ?_⟩
  unfold readCount readBounds
  dsimp only
  rw [none_given _ either]
  rfl

theorem not_run_nil {steps : Nat} {s : State} (open_groups : s.frames ≠ []) (e : Expr) :
    run steps s [] ≠ .ok e := by
  cases steps with
  | zero => nofun
  | succ steps =>
      have skipped : skip s.extended [] = [] := rfl
      rw [run, skipped]
      simp [open_groups]

theorem not_run_of_past {steps : Nat} {s : State} {rest : List Char} (open_groups : s.frames ≠ [])
    (gone : rest <:+ past) (e : Expr) : run steps s rest ≠ .ok e := by
  rcases List.suffix_cons_iff.1 gone with rfl | none_left
  · cases steps with
    | zero => nofun
    | succ steps =>
        rw [run, skip_of_plain isBlank_dollar (by decide)]
        intro h
        obtain ⟨⟨s', after⟩, pushed, h⟩ := bind_eq_ok_iff.1 h
        cases pushed
        exact not_run_nil (s := s.push (.anchor .lineEnd)) open_groups e h
  · rw [List.suffix_nil.1 none_left]
    exact not_run_nil open_groups e

theorem not_run_of_lost {steps : Nat} {s : State} {rest : List Char} (lost : Lost s rest)
    (e : Expr) : run steps s rest ≠ .ok e := by
  obtain ⟨open_groups, gone | ⟨inner, blank, rfl⟩⟩ := lost
  · exact not_run_of_past open_groups gone e
  · obtain ⟨flaw, wrong⟩ := readCount_closing blank
    cases steps with
    | zero => nofun
    | succ steps =>
        rw [run, skip_of_plain isBlank_brace (by decide)]
        intro h
        obtain ⟨⟨s', after⟩, read, _⟩ := bind_eq_ok_iff.1 h
        obtain ⟨_, count, _⟩ := bind_eq_ok_iff.1 read
        cases wrong.symm.trans count

def outermost : Frame := ⟨[.anchor .lineStart], [], none, false, []⟩

def Expr.enclosed (e : Expr) : Expr :=
  .concat [.anchor .lineStart, .group [] none e, .anchor .lineEnd]

/-- The parenthesis of the closing ends the outermost group, and then the text has to end. -/
theorem eq_enclosed_of_run {steps : Nat} {s : State} (frames : s.frames = []) {e : Expr}
    (h : (do let (s, rest) ← step (s.within outermost) ')' past
             run steps s rest) = .ok e) : e = s.body.enclosed := by
  obtain ⟨frames', branches, items, extended, numbered, names⟩ := s
  cases frames
  obtain ⟨⟨s', rest⟩, left, h⟩ := bind_eq_ok_iff.1 h
  cases left
  cases steps with
  | zero => cases h
  | succ steps =>
      dsimp only at h
      rw [run, past, skip_of_plain isBlank_dollar (by decide)] at h
      obtain ⟨⟨s', rest⟩, pushed, h⟩ := bind_eq_ok_iff.1 h
      cases pushed
      cases steps with
      | zero => cases h
      | succ steps =>
          cases h
          rfl

/-- A text that is read as far as the closing is read alone, unless it closes the group around
it. -/
theorem run_within {steps enough : Nat} {s : State} {cs : List Char} {e : Expr}
    (h : run steps (s.within outermost) (cs ++ closing) = .ok e) (long : cs.length < enough) :
    run enough s cs = .error .unopenedGroup ∨
      ∃ alone, run enough s cs = .ok alone ∧ e = alone.enclosed := by
  induction steps generalizing enough s cs with
  | zero => cases h
  | succ steps ih =>
      obtain ⟨enough, rfl⟩ := Nat.exists_eq_succ_of_ne_zero (Nat.ne_zero_of_lt long)
      have same_flag : (s.within outermost).extended = s.extended := rfl
      rw [run, same_flag] at h
      rw [run]
      rcases skip_append s.extended cs with same | none_left
      · rw [same] at h
        cases behind : skip s.extended cs with
        | nil =>
            rw [behind] at h
            by_cases frames : s.frames = []
            · refine .inr ⟨s.body, ?_, eq_enclosed_of_run frames h⟩
              simp [frames]
            · obtain ⟨⟨s', rest⟩, left, h⟩ := bind_eq_ok_iff.1 h
              obtain ⟨s'', mapped, same⟩ := bind_eq_ok_iff.1 left
              cases same
              rw [State.leave_within frames] at mapped
              obtain ⟨inner, _, rfl⟩ := map_eq_ok_iff.1 mapped
              exact absurd h (not_run_of_past State.within_frames_ne_nil List.suffix_rfl e)
        | cons c inner =>
            have shorter : inner.length < enough :=
              Nat.lt_of_lt_of_le (length_lt_of_skip behind) (Nat.le_of_lt_succ long)
            rw [behind] at h
            by_cases outside : c = ')' ∧ s.frames = []
            · obtain ⟨rfl, frames⟩ := outside
              refine .inl ?_
              have unopened : s.leave = .error .unopenedGroup := by rw [State.leave, frames]
              simp [step, unopened, bind, Except.bind]
            · obtain ⟨⟨s', rest⟩, read, h⟩ := bind_eq_ok_iff.1 h
              rcases step_within read (fun paren none_open => outside ⟨paren, none_open⟩) with
                ⟨s'', rest'', alone, rfl, rfl⟩ | lost
              · simp only [alone, bind, Except.bind]
                exact ih h (Nat.lt_of_le_of_lt (suffix_step alone).length_le shorter)
              · exact absurd h (not_run_of_lost lost e)
      · rw [none_left] at h
        simp [State.within_frames_ne_nil] at h

theorem anchored_toList (source : String) :
    (anchored source).toList = '^' :: '(' :: '?' :: ':' :: (source.toList ++ closing) := by
  simp [anchored, closing]

theorem run_anchored (steps : Nat) (cs : List Char) :
    run (steps + 2) .start ('^' :: '(' :: '?' :: ':' :: cs) =
      run steps (State.start.within outermost) cs := by
  rfl

theorem Expr.height_enclosed (e : Expr) : e.enclosed.height = e.height + 2 := by
  simp [enclosed, height, heights]

theorem read_eq_ok_iff {cs : List Char} {e : Expr} :
    Expr.read cs = .ok e ↔ run (cs.length + 1) .start cs = .ok e ∧ e.height ≤ heightLimit := by
  unfold Expr.read
  cases run (cs.length + 1) .start cs with
  | error flaw => simp [bind, Except.bind]
  | ok e' =>
      by_cases low : e'.height ≤ heightLimit
      · simp only [bind, Except.bind, low, if_true, pure, Except.pure, Except.ok.injEq]
        exact ⟨fun same => ⟨same, same ▸ low⟩, fun both => both.1⟩
      · simp only [bind, Except.bind, low, if_false, throw, throwThe, MonadExceptOf.throw,
          Except.ok.injEq, reduceCtorEq, false_iff]
        rintro ⟨rfl, low'⟩
        exact low low'

/-- A text that is a pattern in the group around it is one alone, unless it closes that group. -/
theorem read_of_anchored {source : String} {e : Expr}
    (h : Expr.read (anchored source).toList = .ok e) :
    Expr.read source.toList = .error .unopenedGroup ∨
      ∃ alone, Expr.read source.toList = .ok alone ∧ e = alone.enclosed := by
  rw [read_eq_ok_iff, anchored_toList] at h
  obtain ⟨ran, low⟩ := h
  simp only [List.length_cons, List.length_append] at ran
  rw [run_anchored] at ran
  rcases run_within ran (Nat.lt_succ_self _) with unopened | ⟨alone, ran', rfl⟩
  · refine .inl ?_
    rw [Expr.read, unopened]
    rfl
  · rw [Expr.height_enclosed] at low
    exact .inr ⟨alone, read_eq_ok_iff.2 ⟨ran', by omega⟩, rfl⟩

/-- What an expression matches that has to take all of a text. -/
def Regex.anchored (r : Regex) : Regex :=
  .seq (.look .textStart) (.seq (.group none r) (.look .textEnd))

theorem regex_enclosed {e : Expr} {r : Regex} {mode : Mode}
    (h : e.enclosed.regex .start = .ok (r, mode)) :
    ∃ inner after, e.regex .start = .ok (inner, after) ∧ r = inner.anchored := by
  simp only [Expr.enclosed, Expr.regex, Expr.sequence] at h
  obtain ⟨_, first, h⟩ := bind_eq_ok_iff.1 h
  cases first
  obtain ⟨⟨rest, after⟩, behind, same⟩ := bind_eq_ok_iff.1 h
  cases same
  obtain ⟨⟨group, after'⟩, grouped, last⟩ := bind_eq_ok_iff.1 behind
  obtain ⟨⟨inner, after''⟩, meant, same⟩ := bind_eq_ok_iff.1 grouped
  cases same
  cases last
  exact ⟨inner, after'', meant, rfl⟩

theorem charBefore_eq_none_iff {t : Array Char} {i : Nat} (within : i ≤ t.size) :
    Regex.charBefore t i = none ↔ i = 0 := by
  cases i with
  | zero => simp [Regex.charBefore]
  | succ i =>
      simp only [Regex.charBefore, Array.getElem?_eq_none_iff]
      omega

theorem Regex.search_anchored_iff {r : Regex} {value : String} :
    r.anchored.search value = true ↔ Spans value.toList.toArray r 0 value.length := by
  rw [search_eq_true_iff]
  have size : value.toList.toArray.size = value.length := by simp [String.length_toList]
  constructor
  · rintro ⟨i, within, j, i', ⟨start, rfl⟩, j', spans, stop, rfl⟩
    have first : i = 0 := (charBefore_eq_none_iff (by omega)).1 (Option.isNone_iff_eq_none.1 start)
    subst first
    have last := Array.getElem?_eq_none_iff.1 (Option.isNone_iff_eq_none.1 stop)
    have reach := spans_forward value.toList.toArray r 0 j' spans
    have whole : j' = value.length := by omega
    rwa [whole] at spans
  · intro spans
    refine ⟨0, Nat.zero_le _, value.length, 0, ⟨rfl, rfl⟩, value.length, spans, ?_, rfl⟩
    exact Option.isNone_iff_eq_none.2 (Array.getElem?_eq_none (by omega))

/-- The text is a pattern on its own, and this is what it matches. -/
def Means (source : String) (r : Regex) : Prop :=
  ∃ e mode, Expr.read source.toList = .ok e ∧ e.regex .start = .ok (r, mode)

/-- The value matches from its first character to its last. -/
def Regex.Whole (r : Regex) (value : String) : Prop :=
  Spans value.toList.toArray r 0 value.length

/-- A pattern that is compiled matches whole values as its text does alone, unless the text closes
the group around it. -/
theorem whole_of_compile {source : String} {r : Regex} (h : compile source = .ok r)
    (inside : Expr.read source.toList ≠ .error .unopenedGroup) :
    ∃ alone, Means source alone ∧ ∀ value, r.search value = true ↔ alone.Whole value := by
  obtain ⟨e, read, h⟩ := bind_eq_ok_iff.1 h
  obtain ⟨⟨r', mode⟩, meant, h⟩ := bind_eq_ok_iff.1 h
  have same : r' = r := by
    dsimp only at h
    split at h <;> cases h
    rfl
  subst same
  rcases read_of_anchored read with unopened | ⟨alone, own, rfl⟩
  · exact absurd unopened inside
  · obtain ⟨inner, after, within, rfl⟩ := regex_enclosed meant
    exact ⟨inner, ⟨alone, after, own, within⟩, fun _ => Regex.search_anchored_iff⟩

end Pattern

namespace Validator

open Pattern

/-- A validator for a pattern accepts the values that the pattern matches as a whole, and the
pattern is one on its own, exactly if it closes no group that it has not opened. -/
theorem accepts_whole_iff {source : String} {v : Validator} (filled : source ≠ "")
    (made : ofPattern source = .ok v) :
    (∃ r, Means source r ∧ ∀ value, v.accepts value = true ↔ r.Whole value) ↔
      Expr.read source.toList ≠ .error .unopenedGroup := by
  constructor
  · rintro ⟨r, ⟨e, mode, read, _⟩, _⟩ unopened
    cases read.symm.trans unopened
  · intro inside
    have some_text : source.isEmpty = false := by simpa using filled
    rw [ofPattern, some_text] at made
    cases found : Pattern.ofSource source with
    | error flaw =>
        rw [found] at made
        cases made
    | ok p =>
        rw [found] at made
        cases made
        have own := p.compiled
        rw [Pattern.ofSource_eq_ok_iff.1 found] at own
        exact whole_of_compile own inside

/-- One of two letters. -/
theorem accepts_whole_iff_letters :
    ∃ v, ofPattern "a|b" = .ok v ∧
      ∃ r, Means "a|b" r ∧ ∀ value, v.accepts value = true ↔ r.Whole value := by
  have usable : (ofPattern "a|b").toOption.any (fun _ => true) = true := by decide +kernel
  obtain ⟨v, made, _⟩ := exists_ok_of_any usable
  exact ⟨v, made, (accepts_whole_iff (by decide) made).2 nofun⟩

/-- The group around the pattern is closed early, so that half of the value is enough on either
side. -/
theorem half_accepted :
    let source := "a)|(?:b"
    (ofPattern source).toOption.any (fun v => v.accepts "ax" && v.accepts "xb") = true ∧
      ¬∃ r, Means source r := by
  intro source
  refine ⟨by decide +kernel, ?_⟩
  rintro ⟨r, e, mode, read, _⟩
  have refused : Expr.read "a)|(?:b".toList = .error .unopenedGroup := by rfl
  cases refused.symm.trans read

end Validator
end RestRoutes
