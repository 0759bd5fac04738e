import Mathlib.Logic.Function.Iterate
import RestRoutes.Text.CamelCase
import RestRoutes.Proofs.Text.Case

/-!
Separators in joined names. A separator stays in a name when it clings to a neighbour: to a sign
before it or to a mark after it, with which it is one cluster (`clinging`). Converting a name leaves
such separators and no others (`filter_camelCaseBy`). As long as they all cling, a second conversion
finds one word and writes it in lower case, which undoes the capitals of the first. They may cease
to cling, since there is one mark whose capital is a letter; then the next conversion leaves fewer
(`iterate_settles`). All this holds however far the capital of a word reaches.
-/
namespace RestRoutes

open CaseMap (Small)

variable {extent : List Char → Nat}

def ledBy (before : Option Char) : Bool := before.any (Recent.leads ·.toNat)

def followedBy (after : Option Char) : Bool := after.any (Recent.attaches ·.toNat)

/-- A sign before a place or a mark after it makes one cluster with what stands there. -/
def drawn (before after : Option Char) : Bool := ledBy before || followedBy after

theorem separates_eq (before : Option Char) (c : Char) (after : Option Char) :
    separates before c after = (isSeparator c && !drawn before after) := by
  simp [separates, drawn, ledBy, followedBy, Bool.and_assoc]

/-- The separators of the text that make one cluster with a neighbour, in their order. -/
def clinging (before : Option Char) : List Char → List Char
  | [] => []
  | c :: cs =>
    if isSeparator c && drawn before cs.head? then c :: clinging (some c) cs
    else clinging (some c) cs

theorem clinging_sublist (before : Option Char) (cs : List Char) :
    (clinging before cs).Sublist (cs.filter isSeparator) := by
  induction cs generalizing before with
  | nil => exact .slnil
  | cons c cs ih =>
      rw [clinging]
      split
      · next joined =>
          rw [List.filter_cons_of_pos (Bool.and_eq_true_iff.1 joined).1]
          exact (ih _).cons_cons c
      · exact (ih _).trans ((List.sublist_cons_self c cs).filter _)

/-! What case conversion does to separators and to their neighbours -/

theorem separator_cases {c : Char} (h : isSeparator c = true) : c = '_' ∨ c = '-' := by
  simpa [isSeparator] using h

theorem toNat_of_separator {c : Char} (h : isSeparator c = true) : c.toNat ∈ [0x2D, 0x5F] := by
  rcases separator_cases h with rfl | rfl <;> decide

theorem not_attaches_of_separator {c : Char} (h : isSeparator c = true) :
    Recent.attaches c.toNat = false := by
  rcases separator_cases h with rfl | rfl <;> decide +kernel

theorem not_leads_of_separator {c : Char} (h : isSeparator c = true) :
    Recent.leads c.toNat = false := by
  rcases separator_cases h with rfl | rfl <;> decide +kernel

/-- What `p` may be when it is put in the place of `c`: separators and leading signs stay, and
nothing else becomes a separator. -/
structure Replaces (p : List Char) (c : Char) : Prop where
  kept : isSeparator c = true ∨ Recent.leads c.toNat = true → p = [c]
  plain : ∀ d ∈ p, isSeparator d = true → d = c

theorem Replaces.filter_eq {p : List Char} {c : Char} (h : Replaces p c) :
    p.filter isSeparator = [c].filter isSeparator := by
  by_cases separator : isSeparator c = true
  · rw [h.kept (.inl separator)]
  · have none_left : ∀ d ∈ p, ¬isSeparator d = true :=
      fun d hd other => separator (h.plain d hd other ▸ other)
    rw [List.filter_eq_nil_iff.2 none_left, List.filter_cons_of_neg separator, List.filter_nil]

/-- A table that neither maps a separator nor maps to one, and that spares the leading signs. -/
theorem replaces_lookup {sequences : List (Nat × List Nat)} {runs : CodeMap}
    (separators : ∀ n ∈ [0x2D, 0x5F], (∀ e ∈ sequences, e.1 ≠ n ∧ n ∉ e.2) ∧
      runs.image? n = none ∧ runs.preimage n = [])
    (signs : CaseMap.spares sequences runs Break.prepend = true) (c : Char) :
    Replaces (CaseMap.lookup sequences runs c) c where
  kept := by
    rintro (separator | leads)
    · obtain ⟨unlisted, unmapped, _⟩ := separators _ (toNat_of_separator separator)
      exact CaseMap.lookup_of_unlisted (fun e he => (unlisted e he).1) unmapped
    · simp only [Recent.leads, Bool.and_eq_true] at leads
      exact CaseMap.lookup_of_spares signs leads.2
  plain := by
    intro d hd separator
    obtain ⟨unlisted, _, unreached⟩ := separators _ (toNat_of_separator separator)
    have positive : 0 < d.toNat := by rcases separator_cases separator with rfl | rfl <;> decide
    exact CaseMap.eq_of_mem_lookup positive (fun e he => (unlisted e he).2) unreached hd

theorem replaces_lower (c : Char) : Replaces (CaseMap.lower c) c :=
  replaces_lookup (by decide +kernel) (by decide +kernel) c

theorem replaces_upper (c : Char) : Replaces (CaseMap.upper c) c :=
  replaces_lookup (by decide +kernel) (by decide +kernel) c

theorem replaces_lowerPiece (before : List Char) (c : Char) (after : List Char) :
    Replaces (lowerPiece before c after) c := by
  unfold lowerPiece
  split
  · next sigma =>
      have other : isSeparator (lowerSigma before after) = false := by
        rcases lowerSigma_cases before after with small | small <;> rw [small] <;> decide
      subst sigma
      constructor
      · exact fun h => absurd h (by decide +kernel)
      · intro d hd separator
        rw [List.mem_singleton.1 hd, other] at separator
        cases separator
  · exact replaces_lower c

def marks : List CodeSet :=
  [Category.spacingMark, Category.nonspacingMark, Category.enclosingMark,
    Property.otherGraphemeExtend, Property.emojiModifier, Break.attachedVowel, Break.joiner,
    Recent.newMark]

theorem lookup_of_attaches {sequences : List (Nat × List Nat)} {runs : CodeMap} {c : Char}
    (spared : ∀ s ∈ marks, CaseMap.spares sequences runs s = true)
    (h : Recent.attaches c.toNat = true) : CaseMap.lookup sequences runs c = [c] := by
  simp only [Recent.attaches, Bool.or_eq_true, List.any_eq_true, Bool.and_eq_true] at h
  rcases h with ⟨s, listed, member⟩ | ⟨member, _⟩
  · exact CaseMap.lookup_of_spares (spared s (List.mem_cons_of_mem _ listed)) member
  · exact CaseMap.lookup_of_spares (spared _ List.mem_cons_self) member

theorem small_of_attaches {c : Char} (h : Recent.attaches c.toNat = true) : Small c :=
  lookup_of_attaches (by decide +kernel) h

/-- One mark has an upper case, which is a letter with a lower case of its own. -/
theorem upper_of_attaches {c : Char} (h : Recent.attaches c.toNat = true)
    (small : ∀ d ∈ CaseMap.upper c, Small d) : CaseMap.upper c = [c] := by
  by_cases iota : c = '\u0345'
  · subst iota
    exact absurd (small '\u0399' (by decide +kernel)) (by decide +kernel)
  · let others : CodeRun → Bool := fun r => !(r.first == 0x345 && r.last == 0x345)
    have apart : c.toNat ≠ 0x345 := fun same => iota (Char.toNat_inj.1 same)
    have elsewhere : ∀ r, others r = false → r.image? c.toNat = none := by
      intro r only
      simp only [others, Bool.not_eq_false', Bool.and_eq_true, beq_iff_eq] at only
      rw [CodeRun.image?, if_neg]
      omega
    rw [CaseMap.upper, ← CaseMap.lookup_filter elsewhere]
    exact lookup_of_attaches (by decide +kernel) h

theorem filter_lowerFrom (before cs : List Char) :
    (lowerFrom before cs).filter isSeparator = cs.filter isSeparator := by
  induction cs generalizing before with
  | nil => rfl
  | cons c cs ih =>
      rw [lowerFrom_cons, List.filter_append, (replaces_lowerPiece before c cs).filter_eq, ih,
        ← List.filter_append, List.singleton_append]

theorem filter_flatMap_upper (cs : List Char) :
    (cs.flatMap CaseMap.upper).filter isSeparator = cs.filter isSeparator := by
  induction cs with
  | nil => rfl
  | cons c cs ih =>
      rw [List.flatMap_cons, List.filter_append, (replaces_upper c).filter_eq, ih,
        ← List.filter_append, List.singleton_append]

theorem filter_capitalizedBy (word : List Char) :
    (capitalizedBy extent word).filter isSeparator = word.filter isSeparator := by
  rw [capitalizedBy, lowerChars, List.filter_append, filter_flatMap_upper, filter_lowerFrom,
    ← List.filter_append, List.take_append_drop]

theorem filter_joinWords (ws : List (List Char)) :
    (joinWords extent ws).filter isSeparator = ws.flatten.filter isSeparator := by
  cases ws with
  | nil => rfl
  | cons first rest =>
      rw [joinWords, lowerChars, List.filter_append, filter_lowerFrom, List.filter_flatMap,
        List.flatten_cons, List.filter_append, List.filter_flatten, ← List.flatMap_def]
      simp only [filter_capitalizedBy]

theorem small_joinWords_iff {ws : List (List Char)} :
    (∀ d ∈ joinWords extent ws, Small d) ↔
      ∀ word ∈ ws.tail, ∀ c ∈ word.take (extent word), ∀ d ∈ CaseMap.upper c, Small d := by
  have lowered (cs : List Char) : ∀ d ∈ lowerChars cs, Small d :=
    fun d hd => small_of_mem_lowerFrom hd
  have capital (word : List Char) : (∀ d ∈ capitalizedBy extent word, Small d) ↔
      ∀ c ∈ word.take (extent word), ∀ d ∈ CaseMap.upper c, Small d := by
    rw [capitalizedBy, List.forall_mem_append, List.forall_mem_flatMap]
    exact and_iff_left (lowered _)
  cases ws with
  | nil => simp [joinWords]
  | cons first rest =>
      simp only [joinWords, List.forall_mem_append, List.forall_mem_flatMap, capital,
        List.tail_cons]
      exact and_iff_right (lowered first)

/-! Separators within words -/

theorem filter_runsFrom (before : Option Char) (word cs : List Char) :
    (runsFrom before word cs).flatten.filter isSeparator =
      word.reverse.filter isSeparator ++ clinging before cs := by
  induction cs generalizing before word with
  | nil => simp [runsFrom, clinging]
  | cons c cs ih =>
      rw [runsFrom, clinging, separates_eq]
      cases separator : isSeparator c <;> cases joined : drawn before cs.head? <;>
        simp [ih, separator]

/-- A converted name has the separators that cling to a neighbour, in their order, and no others. -/
theorem filter_camelCaseBy (extent : List Char → Nat) (name : String) :
    (camelCaseBy extent name).toList.filter isSeparator = clinging none name.toList := by
  unfold camelCaseBy
  split
  · rw [String.toList_ofList, filter_joinWords, words, List.flatten_filter_not_isEmpty,
      filter_runsFrom]
    rfl
  · next plain =>
      have absent : name.toList.filter isSeparator = [] := by
        simpa [List.filter_eq_nil_iff] using plain
      have apart := clinging_sublist none name.toList
      rw [absent] at apart ⊢
      exact (List.sublist_nil.1 apart).symm

/-! Names that a second conversion takes for one word -/

/-- No separator of the text separates, when it stands behind `before`. -/
def Whole : Option Char → List Char → Prop
  | _, [] => True
  | before, c :: rest => separates before c rest.head? = false ∧ Whole (some c) rest

theorem separates_of_more {before before' after after' : Option Char} {c : Char}
    (h : separates before c after = false)
    (led : ledBy before = true → ledBy before' = true)
    (followed : followedBy after = true → followedBy after' = true) :
    separates before' c after' = false := by
  simp only [separates_eq, drawn, Bool.and_eq_false_iff, Bool.not_eq_false', Bool.or_eq_true] at h ⊢
  exact h.imp_right (Or.imp led followed)

theorem Whole.of_more {before before' : Option Char} {cs : List Char} (h : Whole before cs)
    (led : ledBy before = true → ledBy before' = true) :
    Whole before' cs := by
  cases cs with
  | nil => trivial
  | cons c cs => exact ⟨separates_of_more h.1 led id, h.2⟩

theorem Whole.append {before : Option Char} {cs ds : List Char} (h : Whole before cs)
    (h' : Whole none ds) : Whole before (cs ++ ds) := by
  induction cs generalizing before with
  | nil => exact h'.of_more nofun
  | cons c cs ih =>
      refine ⟨separates_of_more h.1 id ?_, ih h.2⟩
      cases cs with
      | nil => exact nofun
      | cons => exact id

theorem whole_of_plain {before : Option Char} {cs : List Char}
    (h : ∀ c ∈ cs, isSeparator c = false) : Whole before cs := by
  induction cs generalizing before with
  | nil => trivial
  | cons c cs ih =>
      obtain ⟨plain, later⟩ := List.forall_mem_cons.1 h
      exact ⟨by rw [separates_eq, plain, Bool.false_and], ih later⟩

/-- A character of the text may be replaced, if what follows it still holds on to it. -/
theorem Replaces.whole {before before' after : Option Char} {c : Char} {p rest : List Char}
    (h : Replaces p c) (joined : separates before c after = false) (later : Whole (some c) rest)
    (led : ledBy before = true → ledBy before' = true)
    (followed : followedBy after = true → followedBy rest.head? = true) :
    Whole before' (p ++ rest) := by
  by_cases stays : isSeparator c = true ∨ Recent.leads c.toNat = true
  -- Only these two kinds take part in a cluster with a separator, and they are still there.
  · rw [h.kept stays]
    exact ⟨separates_of_more joined led followed, later⟩
  · obtain ⟨plain, unled⟩ := not_or.1 stays
    have none_left : ∀ d ∈ p, isSeparator d = false := by
      intro d hd
      rw [Bool.eq_false_iff]
      intro separator
      exact plain (h.plain d hd separator ▸ separator)
    exact (whole_of_plain none_left).append (later.of_more fun led => absurd led unled)

theorem followedBy_lowerFrom {before cs : List Char} (h : followedBy cs.head? = true) :
    followedBy (lowerFrom before cs).head? = true := by
  cases cs with
  | nil => cases h
  | cons c cs =>
      rw [lowerFrom_cons, lowerPiece_of_small (small_of_attaches h)]
      exact h

theorem Whole.lowerFrom {before before' : Option Char} {passed cs : List Char}
    (h : Whole before cs)
    (led : ledBy before = true → ledBy before' = true) :
    Whole before' (lowerFrom passed cs) := by
  induction cs generalizing before before' passed with
  | nil => trivial
  | cons c cs ih =>
      rw [lowerFrom_cons]
      exact (replaces_lowerPiece passed c cs).whole h.1 (ih h.2 id) led followedBy_lowerFrom

/-- What is written in capitals may be replaced, if no mark behind the first of it is. -/
theorem Whole.raised {before before' : Option Char} {head rest : List Char}
    (h : Whole before (head ++ rest))
    (kept : ∀ c ∈ head.tail, followedBy (some c) = true → CaseMap.upper c = [c])
    (led : ledBy before = true → ledBy before' = true) :
    Whole before' (head.flatMap CaseMap.upper ++ lowerChars rest) := by
  induction head generalizing before before' with
  | nil => exact h.lowerFrom led
  | cons c head ih =>
      rw [List.flatMap_cons, List.append_assoc]
      refine (replaces_upper c).whole h.1 (ih h.2 ?_ id) led ?_
      · exact fun d hd => kept d (List.mem_of_mem_tail hd)
      · cases head with
        | nil => exact followedBy_lowerFrom
        | cons d head =>
            intro followed
            rw [List.flatMap_cons, kept d List.mem_cons_self followed]
            exact followed

theorem Whole.capitalizedBy {word : List Char} (h : Whole none word)
    (kept : ∀ c ∈ (word.take (extent word)).tail,
      followedBy (some c) = true → CaseMap.upper c = [c]) :
    Whole none (capitalizedBy extent word) := by
  rw [← List.take_append_drop (extent word) word] at h
  exact h.raised kept id

theorem whole_flatMap {convert : List Char → List Char} {ws : List (List Char)}
    (h : ∀ word ∈ ws, Whole none (convert word)) : Whole none (ws.flatMap convert) := by
  induction ws with
  | nil => trivial
  | cons word ws ih =>
      obtain ⟨here, later⟩ := List.forall_mem_cons.1 h
      exact here.append (ih later)

theorem whole_joinWords {ws : List (List Char)} (h : ∀ word ∈ ws, Whole none word)
    (kept : ∀ word ∈ ws.tail, ∀ c ∈ (word.take (extent word)).tail,
      followedBy (some c) = true → CaseMap.upper c = [c]) :
    Whole none (joinWords extent ws) := by
  cases ws with
  | nil => trivial
  | cons first rest =>
      obtain ⟨whole, others⟩ := List.forall_mem_cons.1 h
      exact (whole.lowerFrom id).append
        (whole_flatMap fun word listed => (others word listed).capitalizedBy (kept word listed))

/-- Where a text is cut, the separator is lost as a neighbour, but nothing clings to a separator. -/
theorem exists_runs (before : Option Char) (cs : List Char) :
    ∃ first others, (∀ word, runsFrom before word cs = (word.reverse ++ first) :: others) ∧
      Whole before first ∧ (∀ run ∈ others, Whole none run) ∧
      (followedBy cs.head? = true → followedBy first.head? = true) := by
  induction cs generalizing before with
  | nil => exact ⟨[], [], by simp [runsFrom], trivial, nofun, id⟩
  | cons c cs ih =>
      obtain ⟨first, others, runs, whole, apart, followed⟩ := ih (some c)
      by_cases cut : separates before c cs.head? = true
      -- The run that begins here has a separator before it, which is not a leading sign.
      · have separator : isSeparator c = true := by
          rw [separates_eq, Bool.and_eq_true] at cut
          exact cut.1
        refine ⟨[], first :: others, ?_, trivial, ?_, ?_⟩
        · intro word
          simp [runsFrom, cut, runs]
        · refine List.forall_mem_cons.2 ⟨whole.of_more ?_, apart⟩
          simp [ledBy, not_leads_of_separator separator]
        · simp [followedBy, not_attaches_of_separator separator]
      -- The run may end before the next character, but then that one is a separator and no mark.
      · have joined : separates before c cs.head? = false := by simpa using cut
        refine ⟨c :: first, others, ?_, ⟨separates_of_more joined id followed, whole⟩, apart, id⟩
        intro word
        simp [runsFrom, cut, runs]

theorem whole_of_mem_words {cs word : List Char} (h : word ∈ words cs) : Whole none word := by
  obtain ⟨first, others, runs, whole, apart, _⟩ := exists_runs none cs
  have listed := (List.mem_filter.1 h).1
  rw [runs] at listed
  rcases List.mem_cons.1 listed with rfl | listed
  · exact whole
  · exact apart word listed

theorem whole_iff {before : Option Char} {cs : List Char} :
    Whole before cs ↔ clinging before cs = cs.filter isSeparator := by
  induction cs generalizing before with
  | nil => simp [Whole, clinging]
  | cons c cs ih =>
      rw [Whole, clinging, separates_eq, ih]
      cases separator : isSeparator c with
      | false => simp [separator]
      | true =>
          cases drawn before cs.head? with
          | true => simp [separator]
          | false =>
              have fewer := (clinging_sublist (some c) cs).length_le
              refine iff_of_false (by simp) fun same => ?_
              have lengths := congrArg List.length same
              simp [separator] at lengths
              omega

theorem runsFrom_of_whole {before : Option Char} {word cs : List Char} (h : Whole before cs) :
    runsFrom before word cs = [word.reverse ++ cs] := by
  induction cs generalizing before word with
  | nil => simp [runsFrom]
  | cons c cs ih => simp [runsFrom, h.1, ih h.2]

theorem words_of_whole {cs : List Char} (h : Whole none cs) (some_text : cs ≠ []) :
    words cs = [cs] := by
  simp [words, runsFrom_of_whole h, some_text]

theorem tail_words_of_whole {cs : List Char} (h : Whole none cs) : (words cs).tail = [] := by
  cases cs with
  | nil => rfl
  | cons c cs => rw [words_of_whole h (List.cons_ne_nil c cs), List.tail_cons]

theorem camelCaseBy_of_whole {name : String} (h : Whole none name.toList)
    (inside : name.toList.any isSeparator = true) :
    camelCaseBy extent name = toLower name := by
  have some_text : name.toList ≠ [] := by
    intro empty
    rw [empty] at inside
    cases inside
  rw [camelCaseBy, if_pos inside, words_of_whole h some_text]
  simp [joinWords, toLower]

theorem camelCaseBy_eq_self_iff {name : String} (inside : name.toList.any isSeparator = true) :
    camelCaseBy extent name = name ↔ Whole none name.toList ∧ ∀ c ∈ name.toList, Small c := by
  constructor
  · intro same
    have left := filter_camelCaseBy extent name
    rw [same] at left
    have whole := whole_iff.2 left.symm
    rw [camelCaseBy_of_whole whole inside] at same
    exact ⟨whole, toLower_eq_self_iff.1 same⟩
  · rintro ⟨whole, small⟩
    rw [camelCaseBy_of_whole whole inside]
    exact toLower_eq_self_iff.2 small

theorem any_camelCaseBy_iff (extent : List Char → Nat) (name : String) :
    (camelCaseBy extent name).toList.any isSeparator = true ↔ clinging none name.toList ≠ [] := by
  rw [← filter_camelCaseBy extent]
  simp [List.filter_eq_nil_iff]

theorem camelCaseBy_twice_iff (extent : List Char → Nat) (name : String) :
    camelCaseBy extent (camelCaseBy extent name) = camelCaseBy extent name ↔
      clinging none name.toList = [] ∨
      ∀ word ∈ (words name.toList).tail, ∀ c ∈ word.take (extent word),
        ∀ d ∈ CaseMap.upper c, Small d := by
  have separators := any_camelCaseBy_iff extent name
  by_cases free : clinging none name.toList = []
  · have plain := Bool.eq_false_iff.2 fun inside => separators.1 inside free
    exact iff_of_true (camelCaseBy_of_no_separator plain) (.inl free)
  · have inside := separators.2 free
    have given : name.toList.any isSeparator = true := by
      by_contra plain
      rw [camelCaseBy, if_neg plain] at inside
      exact plain inside
    have joined : camelCaseBy extent name = String.ofList (joinWords extent (words name.toList)) :=
      if_pos given
    rw [camelCaseBy_eq_self_iff inside, or_iff_right free, joined, String.toList_ofList,
      ← small_joinWords_iff]
    -- Capitals that have no other lower case are no marks with an upper case, so all stays whole.
    refine and_iff_right_of_imp fun small => whole_joinWords (fun _ => whole_of_mem_words) ?_
    intro word listed c hc followed
    exact upper_of_attaches followed
      (small_joinWords_iff.1 small word listed c (List.mem_of_mem_tail hc))

/-- Once all separators cling, the next conversion is the last that changes anything. -/
theorem camelCaseBy_twice_of_whole {name : String} (h : Whole none name.toList) :
    camelCaseBy extent (camelCaseBy extent name) = camelCaseBy extent name := by
  refine (camelCaseBy_twice_iff extent name).2 (.inr ?_)
  rw [tail_words_of_whole h]
  exact nofun

/-- A conversion that does not settle a name loses one of its separators. -/
theorem iterate_settles {n : Nat} {name : String} (h : (clinging none name.toList).length ≤ n) :
    (camelCaseBy extent)^[n + 2] name = (camelCaseBy extent)^[n + 1] name := by
  induction n generalizing name with
  | zero =>
      have free := List.eq_nil_of_length_eq_zero (Nat.le_zero.1 h)
      exact (camelCaseBy_twice_iff extent name).2 (.inl free)
  | succ n ih =>
      rw [Function.iterate_succ_apply, Function.iterate_succ_apply _ (n + 1)]
      by_cases whole : Whole none (camelCaseBy extent name).toList
      · rw [Function.iterate_succ_apply, Function.iterate_succ_apply,
          camelCaseBy_twice_of_whole whole, ← Function.iterate_succ_apply]
      · refine ih ?_
        have sublist := clinging_sublist none (camelCaseBy extent name).toList
        have shorter : (clinging none (camelCaseBy extent name).toList).length ≠
            (clinging none name.toList).length := by
          rw [← filter_camelCaseBy extent name]
          exact fun same => whole (whole_iff.2 (sublist.eq_of_length same))
        have fewer := sublist.length_le
        rw [filter_camelCaseBy] at fewer
        omega

/-- Where the capital is a single character, all separators that are left cling, so a third
conversion changes nothing. -/
theorem camelCase_thrice (name : String) :
    camelCase (camelCase (camelCase name)) = camelCase (camelCase name) := by
  have first_alone (word : List Char) : (word.take 1).tail = [] := by cases word <;> rfl
  refine camelCaseBy_twice_of_whole ?_
  unfold camelCase camelCaseBy
  split
  · rw [String.toList_ofList]
    refine whole_joinWords (fun _ => whole_of_mem_words) fun word _ c hc => ?_
    rw [first_alone] at hc
    cases hc
  · next plain => exact whole_of_plain (by simpa using plain)

/-- The length of the first cluster of a word: of the signs that lead it, a character and the marks
behind it. -/
def clusterExtent (word : List Char) : Nat :=
  let signs := (word.takeWhile (Recent.leads ·.toNat)).length
  signs + 1 + ((word.drop (signs + 1)).takeWhile (Recent.attaches ·.toNat)).length

/-- However far capitals reach, a converted name has the separators that cling to a neighbour, in
their order, and no others. A second conversion leaves it as it is if and only if there are none, or
all capitals of the words behind the first have no other lower case. With `n` such separators,
nothing changes after `n + 1` conversions. -/
theorem camelCaseBy_repeated (extent : List Char → Nat) (name : String) :
    (camelCaseBy extent name).toList.filter isSeparator = clinging none name.toList ∧
    (camelCaseBy extent (camelCaseBy extent name) = camelCaseBy extent name ↔
      clinging none name.toList = [] ∨
      ∀ word ∈ (words name.toList).tail, ∀ c ∈ word.take (extent word),
        ∀ d ∈ CaseMap.upper c, Small d) ∧
    (camelCaseBy extent)^[(clinging none name.toList).length + 2] name =
      (camelCaseBy extent)^[(clinging none name.toList).length + 1] name :=
  ⟨filter_camelCaseBy extent name, camelCaseBy_twice_iff extent name,
    iterate_settles (Nat.le_refl _)⟩

/-- An underscore with an accent stays, and a second conversion takes back the capital. -/
theorem accented_underscore_kept :
    let name := "x_\u0301_y"
    ∀ convert ∈ [camelCase, camelCaseBy clusterExtent], convert name = "x_\u0301Y" ∧
      '_' ∈ (convert name).toList ∧ convert (convert name) ≠ convert name := by
  decide +kernel

/-- A digit with a mark below it stands for itself, but not its whole cluster. -/
example :
    let name := "x_\u0301_1\u0345"
    camelCase (camelCase name) = camelCase name ∧
      camelCaseBy clusterExtent (camelCaseBy clusterExtent name) ≠
        camelCaseBy clusterExtent name := by
  decide +kernel

end RestRoutes
