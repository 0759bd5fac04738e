import RestRoutes.Proofs.Path.Groups
import RestRoutes.Segment

/-!
Which texts have a group, which one is found, and where it ends. A group begins with a head: an
opener, a name and its delimiter. One is found wherever a parenthesis closes somewhere behind a
head. Of several the first is reported, up to the first parenthesis that closes behind its head or
the one that closes right after that. A component is dynamic exactly if it is written as a head, a
pattern that closes only at its end, and a closing parenthesis (`extract?_exact`).
-/
namespace RestRoutes

/-- A part of a string from one byte to another, both of them between characters. -/
structure Slice (s : String) (start stop : Nat) (part : String) : Prop where
  start_valid : (⟨start⟩ : String.Pos.Raw).IsValid s
  stop_valid : (⟨stop⟩ : String.Pos.Raw).IsValid s
  bytes : s.toByteArray.extract start stop = part.toByteArray

namespace Slice

theorem of_append (before part after : String) :
    Slice (before ++ part ++ after) before.utf8ByteSize
      (before.utf8ByteSize + part.utf8ByteSize) part where
  start_valid := String.Pos.Raw.isValid_iff_exists_append.2
    ⟨before, part ++ after, String.append_assoc, rfl⟩
  stop_valid := String.Pos.Raw.isValid_iff_exists_append.2
    ⟨before ++ part, after, rfl, by simp [String.Pos.Raw.ext_iff]⟩
  bytes := by
    rw [String.toByteArray_append, String.toByteArray_append, ByteArray.append_assoc]
    have shift := ByteArray.extract_append_size_add (a := before.toByteArray)
      (b := part.toByteArray ++ after.toByteArray) (i := 0) (j := part.toByteArray.size)
    exact shift.trans (ByteArray.extract_append_eq_left rfl)

theorem unique {s part part' : String} {start stop : Nat} (h : Slice s start stop part)
    (h' : Slice s start stop part') : part = part' :=
  String.toByteArray_inj.1 (h.bytes.symm.trans h'.bytes)

end Slice

namespace Group

theorem foldl_utf8Size (cs : List Char) (n : Nat) :
    cs.foldl (fun n c => n + c.utf8Size) n = n + (String.ofList cs).utf8ByteSize := by
  induction cs generalizing n with
  | nil => simp
  | cons c cs ih =>
      rw [List.foldl_cons, ih, String.ofList_cons, String.utf8ByteSize_append,
        String.utf8ByteSize_singleton, Nat.add_assoc]

theorem byteLength_eq (cs : List Char) : byteLength cs = (String.ofList cs).utf8ByteSize := by
  rw [byteLength, foldl_utf8Size, Nat.zero_add]

theorem byteLength_append (cs cs' : List Char) :
    byteLength (cs ++ cs') = byteLength cs + byteLength cs' := by
  simp only [byteLength_eq, String.ofList_append, String.utf8ByteSize_append]

theorem byteLength_eq_zero_iff {cs : List Char} : byteLength cs = 0 ↔ cs = [] := by
  rw [byteLength_eq, String.utf8ByteSize_eq_zero_iff, String.ofList_eq_empty_iff]

theorem slice_of_append {s : String} {before part after : List Char}
    (h : s.toList = before ++ part ++ after) :
    Slice s (byteLength before) (byteLength before + byteLength part) (String.ofList part) := by
  have whole : s = String.ofList before ++ String.ofList part ++ String.ofList after := by
    rw [← String.ofList_append, ← String.ofList_append, ← h, String.ofList_toList]
  rw [whole, byteLength_eq, byteLength_eq]
  exact Slice.of_append _ _ _

/-- How a group begins: an opener, a name without delimiters, and a delimiter. -/
structure Head where
  opener : List Char
  name : List Char
  delimiter : Char
  opener_mem : opener ∈ Token.openers
  name_ne_nil : name ≠ []
  name_plain : ∀ c ∈ name, c ≠ '>' ∧ c ≠ '\''
  delimiter_ends : delimiter = '>' ∨ delimiter = '\''

namespace Head

def text (h : Head) : List Char := h.opener ++ h.name ++ [h.delimiter]

def token (h : Head) (pattern : List Char) : Token := ⟨h.opener, h.name, h.delimiter, pattern⟩

theorem text_token (h : Head) (pattern : List Char) :
    (h.token pattern).text = h.text ++ pattern ++ [')'] := by
  simp [token, text, Token.text]

end Head

def Begins (cs : List Char) : Prop :=
  ∃ (head : Head) (after : List Char), cs = head.text ++ after ∧ ')' ∈ after

namespace Token

theorem endsName_iff {c : Char} : endsName c = true ↔ c = '>' ∨ c = '\'' := by
  simp [endsName]

theorem endsName_eq_false_iff {c : Char} : endsName c = false ↔ c ≠ '>' ∧ c ≠ '\'' := by
  simp [endsName]

theorem read?_head (head : Head) {after pattern rest : List Char}
    (closed : pattern? after = some (pattern, rest)) :
    read? (head.text ++ after) = some (head.token pattern, rest) :=
  read?_eq_some_iff.2 ⟨head.opener_mem, head.name_ne_nil,
    fun c hc => endsName_eq_false_iff.2 (head.name_plain c hc),
    endsName_iff.2 head.delimiter_ends, after, by simp [Head.text, Head.token], closed⟩

theorem exists_head_of_read? {cs rest : List Char} {t : Token} (h : read? cs = some (t, rest)) :
    ∃ (head : Head) (after : List Char), cs = head.text ++ after ∧ t = head.token t.pattern ∧
      pattern? after = some (t.pattern, rest) := by
  obtain ⟨listed, named, plain, ends, after, rfl, closed⟩ := read?_eq_some_iff.1 h
  exact ⟨⟨t.opener, t.name, t.delimiter, listed, named,
    fun c hc => endsName_eq_false_iff.1 (plain c hc), endsName_iff.1 ends⟩, after,
    by simp [Head.text], rfl, closed⟩

theorem isSome_read?_iff {cs : List Char} : (read? cs).isSome = true ↔ Begins cs := by
  rw [Option.isSome_iff_exists]
  constructor
  · rintro ⟨⟨t, rest⟩, reads⟩
    obtain ⟨head, after, rfl, _, closed⟩ := exists_head_of_read? reads
    exact ⟨head, after, rfl, by rw [append_of_pattern? closed]; simp⟩
  · rintro ⟨head, after, rfl, closes⟩
    obtain ⟨body, rest, rfl, open_still⟩ := List.eq_append_cons_of_mem closes
    obtain ⟨pattern, tail, closed, _⟩ := exists_pattern? open_still rest
    exact ⟨_, read?_head head closed⟩

theorem not_begins_nil : ¬Begins [] := by
  rw [← isSome_read?_iff]
  simp [read?, opener?]

theorem find?_of_read? {cs rest : List Char} {t : Token} (h : read? cs = some (t, rest)) :
    find? cs = some ([], t, rest) := by
  cases cs with
  | nil => exact absurd (isSome_read?_iff.1 (by rw [h]; rfl)) not_begins_nil
  | cons c cs =>
      unfold find?
      rw [h]

theorem find?_of_not_begins {c : Char} {cs : List Char} (h : ¬Begins (c :: cs)) :
    find? (c :: cs) = (find? cs).map fun (before, found) => (c :: before, found) := by
  have unread : read? (c :: cs) = none := by
    rwa [← isSome_read?_iff, Option.not_isSome_iff_eq_none] at h
  rw [find?, unread]

theorem find?_of_least {cs before tail rest : List Char} {t : Token} (text : cs = before ++ tail)
    (least : ∀ i < before.length, ¬Begins (cs.drop i)) (reads : read? tail = some (t, rest)) :
    find? cs = some (before, t, rest) := by
  subst text
  induction before with
  | nil => exact find?_of_read? reads
  | cons c before ih =>
      have none_here := least 0 (Nat.succ_pos _)
      have none_later : ∀ i < before.length, ¬Begins ((before ++ tail).drop i) :=
        fun i hi => least (i + 1) (Nat.succ_lt_succ hi)
      have below := find?_of_not_begins none_here
      rw [List.append_eq, ih none_later] at below
      exact below

theorem not_begins_of_find? {cs before rest : List Char} {t : Token}
    (h : find? cs = some (before, t, rest)) : ∀ i < before.length, ¬Begins (cs.drop i) := by
  induction cs generalizing before with
  | nil => cases h
  | cons c cs ih =>
      by_cases here : Begins (c :: cs)
      · obtain ⟨⟨t', rest'⟩, reads⟩ := Option.isSome_iff_exists.1 (isSome_read?_iff.2 here)
        rw [find?_of_read? reads] at h
        cases h
        simp
      · rw [find?_of_not_begins here, Option.map_eq_some_iff] at h
        obtain ⟨⟨before', found⟩, below, same⟩ := h
        cases same
        intro i hi
        cases i with
        | zero => exact here
        | succ i => exact ih below i (Nat.lt_of_succ_lt_succ hi)

theorem isSome_find?_iff {cs : List Char} :
    (find? cs).isSome = true ↔ ∃ i, Begins (cs.drop i) := by
  constructor
  · rw [Option.isSome_iff_exists]
    rintro ⟨⟨before, t, rest⟩, found⟩
    exact ⟨before.length, isSome_read?_iff.1 (by rw [read?_of_find? found]; rfl)⟩
  · intro some_begins
    induction cs with
    | nil =>
        obtain ⟨i, begins⟩ := some_begins
        rw [List.drop_nil] at begins
        exact absurd begins not_begins_nil
    | cons c cs ih =>
        by_cases here : Begins (c :: cs)
        · obtain ⟨⟨t, rest⟩, reads⟩ := Option.isSome_iff_exists.1 (isSome_read?_iff.2 here)
          rw [find?_of_read? reads]
          rfl
        · obtain ⟨i, begins⟩ := some_begins
          cases i with
          | zero => exact absurd begins here
          | succ i =>
              rw [find?_of_not_begins here, Option.isSome_map]
              exact ih ⟨i, begins⟩

end Token

theorem extract?_of_find? {component : String} {before rest : List Char} {t : Token}
    (h : Token.find? component.toList = some (before, t, rest)) :
    extract? component =
      some ⟨t.group, byteLength before, byteLength before + byteLength t.text⟩ := by
  rw [extract?, h]
  rfl

/-- Where the first group of a text stands: what comes before it, its head, what comes before the
first parenthesis that closes behind its head, and what comes behind that. -/
structure First (cs : List Char) where
  before : List Char
  head : Head
  body : List Char
  rest : List Char
  text : cs = before ++ head.text ++ body ++ ')' :: rest
  open_still : ')' ∉ body
  least : ∀ i < before.length, ¬Begins (cs.drop i)

namespace First

variable {cs : List Char}

def close (f : First cs) : Nat := byteLength (f.before ++ f.head.text ++ f.body)

/-- The byte behind the group, which takes another parenthesis right behind the first one, and also
a question mark with a parenthesis. -/
def stop (f : First cs) : Nat :=
  if [')'] <+: f.rest then f.close + 2
  else if ['?', ')'] <+: f.rest then f.close + 3
  else f.close + 1

theorem stop_eq (f : First cs) : f.stop = f.close + byteLength (')' :: Token.beyond f.rest) := by
  unfold stop Token.beyond
  split
  · rfl
  · split <;> rfl

structure Reported {component : String} (f : First component.toList) (found : Found) : Prop where
  name : found.group.name = String.ofList f.head.name
  start : found.start = byteLength f.before
  stop : found.stop = f.stop
  slice : Slice component found.start found.stop
    (String.ofList f.head.text ++ found.group.pattern ++ ")")

theorem Reported.unique {component : String} {f : First component.toList} {found found' : Found}
    (h : f.Reported found) (h' : f.Reported found') : found = found' := by
  have start := h.start.trans h'.start.symm
  have stop := h.stop.trans h'.stop.symm
  have name := h.name.trans h'.name.symm
  have pattern := (start ▸ stop ▸ h.slice).unique h'.slice
  rw [String.append_left_inj, String.append_right_inj] at pattern
  obtain ⟨⟨_, _⟩, _, _⟩ := found
  obtain ⟨⟨_, _⟩, _, _⟩ := found'
  cases start
  cases stop
  cases name
  cases pattern
  rfl

theorem exists_reported {component : String} (f : First component.toList) :
    ∃ found, extract? component = some found ∧ f.Reported found := by
  obtain ⟨pattern, tail, closed, whole, _⟩ := Token.exists_pattern? f.open_still f.rest
  have split := f.text
  rw [List.append_assoc, List.append_assoc] at split
  have found := Token.find?_of_least split f.least (Token.read?_head f.head closed)
  refine ⟨_, extract?_of_find? found, rfl, rfl, ?_, ?_⟩
  · have text : f.before ++ (f.head.token pattern).text =
        f.before ++ f.head.text ++ f.body ++ ')' :: Token.beyond f.rest := by
      rw [Head.text_token, List.append_assoc, whole]
      simp only [List.append_assoc]
    rw [stop_eq, close, ← byteLength_append, ← byteLength_append, text]
  · have part := slice_of_append (Token.text_of_find? found)
    have parts : String.ofList (f.head.token pattern).text =
        String.ofList f.head.text ++ String.ofList pattern ++ ")" := by
      rw [Head.text_token, String.ofList_append, String.ofList_append]
    exact parts ▸ part

theorem exists_of_extract? {component : String} {found : Found}
    (h : extract? component = some found) : Nonempty (First component.toList) := by
  obtain ⟨⟨before, t, tail⟩, hit, _⟩ := Option.map_eq_some_iff.1 h
  have reads := Token.read?_of_find? hit
  obtain ⟨head, after, text, _, closed⟩ := Token.exists_head_of_read? reads
  obtain ⟨body, rest, rfl, open_still, _⟩ := Token.exists_body_of_pattern? closed
  have whole := List.take_append_drop before.length component.toList
  have front : component.toList.take before.length = before := by
    rw [Token.text_of_find? hit, List.append_assoc, List.take_left]
  rw [text, front] at whole
  refine ⟨⟨before, head, body, rest, ?_, open_still, Token.not_begins_of_find? hit⟩⟩
  rw [← whole]
  simp only [List.append_assoc]

end First

/-- A text is a group as written, from its head to its closing parenthesis. -/
def Spells (cs : List Char) (g : Group) : Prop :=
  ∃ head : Head, g.name = String.ofList head.name ∧ Token.ClosesAtEnd g.pattern.toList ∧
    cs = head.text ++ g.pattern.toList ++ [')']

theorem extract?_of_spells {component : String} {g : Group} (h : Spells component.toList g) :
    extract? component = some ⟨g, 0, byteLength component.toList⟩ := by
  obtain ⟨head, name, shape, text⟩ := h
  have closed : Token.pattern? (g.pattern.toList ++ [')']) = some (g.pattern.toList, []) :=
    Token.pattern?_of_closesAtEnd shape (by simp)
  have found := Token.find?_of_read? (Token.read?_head head closed)
  rw [← List.append_assoc, ← text] at found
  have group : (head.token g.pattern.toList).group = g := by
    simp [Head.token, Token.group, ← name]
  rw [extract?_of_find? found, group, Head.text_token, ← text]
  simp [byteLength]

theorem spells_of_read? {cs rest : List Char} {t : Token} (h : Token.read? cs = some (t, rest)) :
    Spells t.text t.group := by
  obtain ⟨head, after, _, token, closed⟩ := Token.exists_head_of_read? h
  have pattern : t.group.pattern.toList = t.pattern := String.toList_ofList
  refine ⟨head, ?_, ?_, ?_⟩
  · rw [token]
    rfl
  · rw [pattern]
    obtain ⟨_, _, _, _, _, shape⟩ := Token.exists_body_of_pattern? closed
    exact shape
  · rw [pattern, ← Head.text_token, ← token]

theorem Spells.begins {cs : List Char} {g : Group} (h : Spells cs g) (after : List Char) :
    Begins (cs ++ after) := by
  obtain ⟨head, _, _, rfl⟩ := h
  exact ⟨head, g.pattern.toList ++ [')'] ++ after, by simp only [List.append_assoc], by simp⟩

theorem spells_of_extract? {component : String} {found : Found}
    (h : extract? component = some found) (spans : found.spans component = true) :
    Spells component.toList found.group := by
  obtain ⟨⟨before, t, tail⟩, hit, rfl⟩ := Option.map_eq_some_iff.1 h
  have text := Token.text_of_find? hit
  simp only [Found.spans, Bool.and_eq_true, decide_eq_true_eq, byteLength_eq_zero_iff] at spans
  obtain ⟨rfl, stop⟩ := spans
  have no_tail : tail = [] := by
    rw [text, byteLength_append, byteLength_append] at stop
    exact byteLength_eq_zero_iff.1 (by omega)
  subst no_tail
  rw [text, List.nil_append, List.append_nil]
  exact spells_of_read? (Token.read?_of_find? hit)

theorem classify_eq_dynamic_iff {component : String} {g : Group} :
    Segment.classify component = .dynamic g ↔ Spells component.toList g := by
  constructor
  · intro h
    unfold Segment.classify at h
    split at h
    · next found hit =>
        split at h
        · next spans =>
            cases h
            exact spells_of_extract? hit spans
        · cases h
    · cases h
  · intro h
    rw [Segment.classify, extract?_of_spells h]
    simp [Found.spans]

theorem classify_eq_literal_iff {component : String} :
    Segment.classify component = .literal component ↔ ¬∃ g, Spells component.toList g := by
  constructor
  · rintro literal ⟨g, spells⟩
    cases literal.symm.trans (classify_eq_dynamic_iff.2 spells)
  · intro unspelled
    unfold Segment.classify
    split
    · next found hit =>
        split
        · next spans => exact absurd ⟨_, spells_of_extract? hit spans⟩ unspelled
        · rfl
    · rfl

/-- A component has a group if a head stands somewhere in it with a closing parenthesis behind it,
and the first such place is reported. The component is dynamic if it is a group from end to end, and
a literal otherwise. -/
theorem extract?_exact (component : String) :
    ((extract? component).isSome = true ↔ ∃ i, Begins (component.toList.drop i)) ∧
      (∀ found, extract? component = some found ↔
        ∃ first : First component.toList, first.Reported found) ∧
      (∀ g, Segment.classify component = .dynamic g ↔ Spells component.toList g) ∧
      (Segment.classify component = .literal component ↔ ¬∃ g, Spells component.toList g) := by
  refine ⟨?_, fun found => ⟨fun h => ?_, ?_⟩, fun _ => classify_eq_dynamic_iff,
    classify_eq_literal_iff⟩
  · rw [extract?, Option.isSome_map]
    exact Token.isSome_find?_iff
  · obtain ⟨first⟩ := First.exists_of_extract? h
    obtain ⟨found', hit, reported⟩ := first.exists_reported
    cases h.symm.trans hit
    exact ⟨first, reported⟩
  · rintro ⟨first, reported⟩
    obtain ⟨found', hit, reported'⟩ := first.exists_reported
    rw [reported.unique reported']
    exact hit

/-- The delimiters need not match, and a pattern may end in a question mark. -/
example : extract? "é(?'id>a)?)/x" = some ⟨⟨"id", "a)?"⟩, 2, 12⟩ := by decide +kernel

end Group
end RestRoutes
