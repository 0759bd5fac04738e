import RestRoutes.Proofs.Path.Pieces
import RestRoutes.Segment

/-!
Writing routes and reading them again. Segments that are written one after the other with slashes
between them are what splitting gives back, and each is classified as what was written
(`split_written`). What counts is that no segment opens a group other than the one it is
(`NoOpener`), so that none is claimed by a group that opens too late.
-/
namespace RestRoutes

namespace Group

namespace Token

def NoOpener (cs : List Char) : Prop := ∀ opener ∈ openers, ¬opener <:+: cs

instance (cs : List Char) : Decidable (NoOpener cs) :=
  inferInstanceAs (Decidable (∀ opener ∈ openers, ¬opener <:+: cs))

theorem NoOpener.tail {c : Char} {cs : List Char} (h : NoOpener (c :: cs)) : NoOpener cs :=
  fun opener listed within => h opener listed (List.infix_cons within)

/-- An opener begins with a parenthesis, so none begins in a text without any. -/
theorem NoOpener.append {before cs : List Char} (plain : '(' ∉ before) (h : NoOpener cs) :
    NoOpener (before ++ cs) := by
  have heads : ∀ opener ∈ openers, opener.head? = some '(' := by decide
  induction before with
  | nil => exact h
  | cons c before ih =>
      rw [List.mem_cons, not_or] at plain
      intro opener listed within
      rw [List.cons_append, List.infix_cons_iff] at within
      rcases within with begins | later
      · have head := heads opener listed
        obtain ⟨rest, same⟩ := begins
        cases opener with
        | nil => cases head
        | cons o opener =>
            cases head
            exact plain.1 (List.cons.inj same).1
      · exact ih plain.2 opener listed later

theorem NoOpener.concat_paren {cs : List Char} (h : NoOpener cs) : NoOpener (cs ++ [')']) := by
  have open_still : ∀ opener ∈ openers, ')' ∉ opener := by decide
  intro opener listed within
  rcases List.infix_concat_iff.1 within with ends | inside
  · rcases List.suffix_concat_iff.1 ends with rfl | ⟨front, rfl, _⟩
    · cases length_of_mem_openers _ listed with
      | intro long _ => cases long
    · exact open_still _ listed (by simp)
  · exact h opener listed inside

/-- What may follow a component: nothing, or a slash and more. -/
def Ends (rest : List Char) : Prop := rest = [] ∨ ∃ tail, rest = '/' :: tail

/-- An opener has no slash, so none reaches into what follows a component. -/
theorem opener?_of_noOpener {cs rest : List Char} (h : NoOpener cs) (ends : Ends rest) :
    opener? (cs ++ rest) = none := by
  have no_slash : ∀ opener ∈ openers, '/' ∉ opener := by decide
  rw [Option.eq_none_iff_forall_ne_some]
  intro found opened
  obtain ⟨listed, split⟩ := opener?_eq_some_iff.1 opened
  rcases List.append_eq_append_iff.1 split with ⟨more, opener_eq, rest_eq⟩ | ⟨more, cs_eq, _⟩
  · cases more with
    | nil => exact h _ listed (by simp [opener_eq])
    | cons c more =>
        rcases ends with rfl | ⟨tail, rfl⟩
        · cases rest_eq
        · obtain ⟨rfl, _⟩ := List.cons.inj rest_eq
          exact no_slash _ listed (by rw [opener_eq]; simp)
  · exact h _ listed (by rw [cs_eq]; exact (List.prefix_append _ _).isInfix)

theorem read?_of_noOpener {cs rest : List Char} (h : NoOpener cs) (ends : Ends rest) :
    read? (cs ++ rest) = none := by
  unfold read?
  rw [opener?_of_noOpener h ends]
  rfl

theorem find?_of_noOpener {cs : List Char} (h : NoOpener cs) : find? cs = none := by
  induction cs with
  | nil => rfl
  | cons c cs ih =>
      have here := read?_of_noOpener h (.inl rfl)
      rw [List.append_nil] at here
      unfold find?
      rw [here, ih h.tail]
      rfl

end Token

inductive Style where
  /-- As in `(?P<id>.+)`. -/
  | named
  /-- As in `(?<id>.+)`. -/
  | angled
  /-- As in `(?'id'.+)`. -/
  | quoted
deriving DecidableEq, Repr

namespace Style

def opener : Style → List Char
  | .named => ['(', '?', 'P', '<']
  | .angled => ['(', '?', '<']
  | .quoted => ['(', '?', '\'']

def delimiter : Style → Char
  | .named => '>'
  | .angled => '>'
  | .quoted => '\''

end Style

def token (g : Group) (style : Style) : Token :=
  ⟨style.opener, g.name.toList, style.delimiter, g.pattern.toList⟩

/-- A group that can be told from its text: its name is plain, and its pattern opens no group and
closes at most once more, at its end. -/
structure Plain (g : Group) : Prop where
  named : g.name ≠ ""
  name : ∀ c ∈ g.name.toList, c ∉ ['>', '\'', '/', '(']
  no_opener : Token.NoOpener g.pattern.toList
  pattern : ∃ body, ')' ∉ body ∧
    (g.pattern.toList = body ∨ g.pattern.toList = body ++ [')'] ∨
      g.pattern.toList = body ++ [')', '?'])

namespace Plain

variable {g : Group}

theorem pattern?_eq (h : g.Plain) {rest : List Char} (ends : Token.Ends rest) :
    Token.pattern? (g.pattern.toList ++ ')' :: rest) = some (g.pattern.toList, rest) := by
  apply Token.pattern?_of_closesAtEnd h.pattern
  rcases ends with rfl | ⟨tail, rfl⟩ <;> simp

theorem read?_eq (h : g.Plain) (style : Style) {rest : List Char} (ends : Token.Ends rest) :
    Token.read? ((g.token style).text ++ rest) = some (g.token style, rest) := by
  refine Token.read?_eq_some_iff.2 ⟨?_, ?_, ?_, ?_, g.pattern.toList ++ ')' :: rest, ?_, ?_⟩
  · cases style <;> simp [token, Style.opener, Token.openers]
  · simpa [token] using h.named
  · intro c hc
    have plain := h.name c hc
    simp only [List.mem_cons, List.not_mem_nil, or_false, not_or] at plain
    simp [Token.endsName, plain]
  · cases style <;> rfl
  · simp [token, Token.text]
  · exact h.pattern?_eq ends

theorem noOpener_tail (h : g.Plain) (style : Style) :
    ∃ tail, (g.token style).text = '(' :: tail ∧ Token.NoOpener tail := by
  have plain_name : '(' ∉ g.name.toList := fun hc => h.name _ hc (by simp)
  have behind : Token.NoOpener (g.name.toList ++ style.delimiter :: g.pattern.toList ++ [')']) := by
    apply Token.NoOpener.concat_paren
    rw [List.append_cons]
    apply Token.NoOpener.append _ h.no_opener
    cases style <;> simp [plain_name, Style.delimiter]
  refine ⟨style.opener.tail ++ (g.name.toList ++ style.delimiter :: g.pattern.toList ++ [')']),
    ?_, ?_⟩
  · cases style <;> simp [token, Token.text, Style.opener]
  · apply Token.NoOpener.append _ behind
    cases style <;> decide

end Plain

end Group

namespace Path

/-- A component that stays whole whatever follows it. -/
def Whole (c : List Char) : Prop :=
  ∀ rest, Group.Token.Ends rest → components (c ++ rest) = c :: components rest

theorem components_slash (cs : List Char) : components ('/' :: cs) = components cs := by
  rw [components_of_plain (by simp [lastGroup?])]
  rfl

theorem piece_append {c rest : List Char} (no_slash : '/' ∉ c) (ends : Group.Token.Ends rest) :
    piece (c ++ rest) = c ∧ afterPiece (c ++ rest) = rest := by
  have inside : ∀ x ∈ c, decide (x ≠ '/') = true :=
    fun x hx => decide_eq_true fun same => no_slash (same ▸ hx)
  unfold piece afterPiece
  rw [List.takeWhile_append_of_pos inside, List.dropWhile_append_of_pos inside]
  rcases ends with rfl | ⟨tail, rfl⟩ <;> simp

theorem lastGroup?_of_noOpener {cs rest : List Char} (h : Group.Token.NoOpener cs)
    (ends : Group.Token.Ends rest) : lastGroup? (cs ++ rest) = none := by
  induction cs with
  | nil => rcases ends with rfl | ⟨tail, rfl⟩ <;> simp [lastGroup?]
  | cons c cs ih =>
      have here := Group.Token.read?_of_noOpener h ends
      rw [List.cons_append] at here ⊢
      unfold lastGroup?
      split
      · rfl
      · rw [ih h.tail, here]
        rfl

theorem whole_of_literal {text : List Char} (nonempty : text ≠ []) (no_slash : '/' ∉ text)
    (no_opener : Group.Token.NoOpener text) : Whole text := by
  intro rest ends
  obtain ⟨piece_eq, after_eq⟩ := piece_append no_slash ends
  rw [components_of_plain (lastGroup?_of_noOpener no_opener ends), piece_eq, after_eq,
    if_neg nonempty, List.singleton_append]
  rcases ends with rfl | ⟨tail, rfl⟩
  · rfl
  · rw [components_slash, List.tail_cons]

theorem whole_of_group {g : Group} (h : g.Plain) (style : Group.Style) :
    Whole (g.token style).text := by
  intro rest ends
  obtain ⟨tail, text_eq, no_opener⟩ := h.noOpener_tail style
  have found : lastGroup? ((g.token style).text ++ rest) = some ([], g.token style, rest) := by
    have here := h.read?_eq style ends
    rw [text_eq, List.cons_append] at here ⊢
    unfold lastGroup?
    rw [if_neg (by decide), lastGroup?_of_noOpener no_opener ends, here]
    rfl
  obtain ⟨piece_eq, after_eq⟩ := piece_append (c := []) List.not_mem_nil ends
  rw [List.nil_append] at piece_eq after_eq
  rw [components_of_group found, piece_eq, after_eq, List.nil_append, List.append_nil]

/-- Components in a row: one or more slashes between them, any number before and behind them. -/
inductive Joined : List (List Char) → List Char → Prop
  | nil : Joined [] []
  | slash {cs : List (List Char)} {text : List Char} : Joined cs text → Joined cs ('/' :: text)
  | last (c : List Char) : Joined [c] c
  | cons (c : List Char) {cs : List (List Char)} {text : List Char} :
      Joined cs text → Joined (c :: cs) (c ++ '/' :: text)

theorem components_of_joined {cs : List (List Char)} {text : List Char} (joined : Joined cs text)
    (whole : ∀ c ∈ cs, Whole c) : components text = cs := by
  induction joined with
  | nil => exact components_nil
  | slash joined ih => rw [components_slash, ih whole]
  | last c =>
      have single := whole c List.mem_cons_self [] (.inl rfl)
      rwa [List.append_nil, components_nil] at single
  | cons c joined ih =>
      obtain ⟨first, rest⟩ := List.forall_mem_cons.1 whole
      rw [first _ (.inr ⟨_, rfl⟩), components_slash, ih rest]

end Path

inductive Written where
  | literal (text : String)
  | group (style : Group.Style) (g : Group)
deriving DecidableEq, Repr

namespace Written

def text : Written → String
  | .literal text => text
  | .group style g => String.ofList (g.token style).text

def segment : Written → Segment
  | .literal text => .literal text
  | .group _ g => .dynamic g

/-- What can be told apart from the segments around it and from other segments. -/
def Plain : Written → Prop
  | .literal text => text ≠ "" ∧ '/' ∉ text.toList ∧ Group.Token.NoOpener text.toList
  | .group _ g => g.Plain

theorem Plain.whole {w : Written} (h : w.Plain) : Path.Whole w.text.toList := by
  cases w with
  | literal text =>
      obtain ⟨nonempty, no_slash, no_opener⟩ := h
      exact Path.whole_of_literal (fun e => nonempty (String.toList_eq_nil_iff.1 e)) no_slash
        no_opener
  | group style g =>
      rw [text, String.toList_ofList]
      exact Path.whole_of_group h style

theorem Plain.classify {w : Written} (h : w.Plain) : Segment.classify w.text = w.segment := by
  cases w with
  | literal text =>
      have none_found := Group.Token.find?_of_noOpener h.2.2
      rw [Written.text, Segment.classify, Group.extract?, none_found]
      rfl
  | group style g =>
      obtain ⟨tail, text_eq, _⟩ := h.noOpener_tail style
      have found : Group.Token.find? (g.token style).text = some ([], g.token style, []) := by
        have here := h.read?_eq style (.inl rfl)
        rw [List.append_nil, text_eq] at here
        rw [text_eq, Group.Token.find?, here]
      have group_eq : (g.token style).group = g := by
        simp [Group.Token.group, Group.token]
      rw [Written.text, Segment.classify, Group.extract?, String.toList_ofList, found]
      simp [Group.Found.spans, Group.byteLength, group_eq, segment]

/-- Segments that are written in a row are what the path is split into, and each is classified as
what was written. -/
theorem split_written {ws : List Written} (plain : ∀ w ∈ ws, w.Plain) {path : String}
    (joined : Path.Joined (ws.map (·.text.toList)) path.toList) :
    Path.split path = ws.map (·.text) ∧ ∀ w ∈ ws, Segment.classify w.text = w.segment := by
  refine ⟨?_, fun w hw => (plain w hw).classify⟩
  have whole : ∀ c ∈ ws.map (·.text.toList), Path.Whole c := by
    intro c hc
    obtain ⟨w, hw, rfl⟩ := List.mem_map.1 hc
    exact (plain w hw).whole
  rw [Path.split, Path.components_of_joined joined whole, List.map_map]
  exact List.map_congr_left fun w _ => String.ofList_toList

/-- A pattern with slashes and a group of its own, between two literals. -/
def plugins : List Written :=
  [.literal "plugins", .group .quoted ⟨"plugin", "[^./]+(?:/[^./]+)?"⟩, .literal "x"]

theorem split_written_plugins :
    let path := "//plugins/(?'plugin'[^./]+(?:/[^./]+)?)//x/"
    (∀ w ∈ plugins, w.Plain) ∧ Path.Joined (plugins.map (·.text.toList)) path.toList ∧
      Path.split path = plugins.map (·.text) ∧
      ∀ w ∈ plugins, Segment.classify w.text = w.segment := by
  intro path
  have group : Group.Plain ⟨"plugin", "[^./]+(?:/[^./]+)?"⟩ := by
    refine ⟨by decide, by simp, by decide +kernel, "[^./]+(?:/[^./]+".toList, ?_, ?_⟩
    · decide +kernel
    · decide +kernel
  have plain : ∀ w ∈ plugins, w.Plain := by
    intro w hw
    simp only [plugins, List.mem_cons, List.not_mem_nil, or_false] at hw
    rcases hw with rfl | rfl | rfl
    · exact ⟨by decide, by decide +kernel, by decide +kernel⟩
    · exact group
    · exact ⟨by decide, by decide +kernel, by decide +kernel⟩
  have joined : Path.Joined (plugins.map (·.text.toList)) path.toList := by
    have texts : plugins.map (·.text.toList) =
        ["plugins".toList, "(?'plugin'[^./]+(?:/[^./]+)?)".toList, "x".toList] := by
      decide +kernel
    have spelled : path.toList = '/' :: '/' :: ("plugins".toList ++ '/' ::
        ("(?'plugin'[^./]+(?:/[^./]+)?)".toList ++ '/' :: '/' :: ("x".toList ++ ['/']))) := by
      decide +kernel
    rw [texts, spelled]
    exact .slash (.slash (.cons _ (.cons _ (.slash (.cons _ .nil)))))
  exact ⟨plain, joined, split_written plain joined⟩

end Written

end RestRoutes
