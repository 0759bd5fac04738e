import RestRoutes.Proofs.Tree.Merging

/-!
Positions and the texts that lead to them. A position is one level below its parent, and it agrees
with each text that stands for it: texts with one key are dynamic or literal together and accept the
same values (`stands_of_at?`).
-/
namespace RestRoutes

namespace MergeKey

def label? : MergeKey → Option String
  | .literal text => some text
  | .pattern _ => none
  | .name text => some text

def validator : MergeKey → Validator
  | .literal text => .literal text
  | .pattern source =>
    match Pattern.ofSource source with
    | .ok p => .pattern p
    | .error _ => .any
  | .name _ => .any

end MergeKey

namespace Segment

theorem key_cases (s : Segment) :
    (∃ text, s = .literal text ∧ s.key = .literal text) ∨
      (∃ group, s = .dynamic group ∧ group.pattern = "" ∧ s.key = .name group.name) ∨
      ∃ group, s = .dynamic group ∧ group.pattern ≠ "" ∧ s.key = .pattern group.pattern := by
  cases s with
  | literal text => exact .inl ⟨text, rfl, rfl⟩
  | dynamic group =>
      by_cases blank : group.pattern = ""
      · exact .inr (.inl ⟨group, rfl, blank, by simp [key, blank]⟩)
      · exact .inr (.inr ⟨group, rfl, blank, by simp [key, blank]⟩)

theorem label_of_label? {s : Segment} {label : String} (h : s.key.label? = some label) :
    s.label = label := by
  rcases s.key_cases with ⟨text, rfl, key⟩ | ⟨group, rfl, _, key⟩ | ⟨group, rfl, _, key⟩ <;>
    rw [key] at h <;> cases h <;> rfl

theorem isDynamic_iff {s : Segment} : s.isDynamic = true ↔ ∀ text, s.key ≠ .literal text := by
  rcases s.key_cases with ⟨text, rfl, key⟩ | ⟨group, rfl, _, key⟩ | ⟨group, rfl, _, key⟩ <;>
    simp [key, isDynamic]

theorem isDynamic_of_key {s t : Segment} (h : s.key = t.key) : s.isDynamic = t.isDynamic := by
  rw [Bool.eq_iff_iff, isDynamic_iff, isDynamic_iff, h]

theorem classify_of_not_isDynamic {text : String} (h : (classify text).isDynamic = false) :
    classify text = .literal text := by
  unfold classify at h ⊢
  split
  · split
    · simp_all [isDynamic]
    · rfl
  · rfl

end Segment

theorem Component.validator_lenient (text : String) :
    (lenient text).validator = (Segment.classify text).key.validator := by
  unfold lenient
  rcases (Segment.classify text).key_cases with
    ⟨_, classified, key⟩ | ⟨group, classified, blank, key⟩ | ⟨group, classified, filled, key⟩
  · rw [classified] at key ⊢
    simp only [key]
    rfl
  · rw [key, classified, Segment.validator, blank]
    rfl
  · have some_text : group.pattern.isEmpty = false := by simpa using filled
    rw [key, classified, Segment.validator, Validator.ofPattern, some_text, MergeKey.validator]
    cases Pattern.ofSource group.pattern <;> rfl

theorem Arrival.key_of_follow? {ks : List MergeKey} {k : MergeKey} {a b : Arrival}
    (h : a.follow? (ks ++ [k]) = some b) : b.component.segment.key = k := by
  obtain ⟨keys, component, _⟩ := of_follow? h
  have there : a.below[ks.length]? = some b.component := by
    rw [List.length_append] at component
    exact component
  have key : a.keys[ks.length]? = some k := by
    rw [keys, List.append_assoc]
    simp
  rw [Arrival.keys, List.getElem?_map, there] at key
  exact Option.some.inj key

theorem exists_text_of_mem_arrivalsAt {name : String} {bs : List Branch} {ks : List MergeKey}
    {k : MergeKey} {a : Arrival} (h : a ∈ arrivalsAt name bs (ks ++ [k])) :
    ∃ text, a.component = .lenient text ∧ (Segment.classify text).key = k := by
  obtain ⟨b, _, followed⟩ := mem_arrivalsAt.1 h
  have there := (Arrival.of_follow? followed).2.1
  have of_texts : a.component ∈ (name :: b.below).map Component.lenient :=
    List.mem_of_getElem? there
  obtain ⟨text, _, same⟩ := List.mem_map.1 of_texts
  refine ⟨text, same.symm, ?_⟩
  rw [← Arrival.key_of_follow? followed, ← same]
  rfl

theorem exists_key_of_arrivalsAt (name : String) (bs : List Branch) (ks : List MergeKey) :
    ∃ k, ∀ a ∈ arrivalsAt name bs ks,
      ∃ text, a.component = .lenient text ∧ (Segment.classify text).key = k := by
  rcases List.eq_nil_or_concat ks with rfl | ⟨before, k, rfl⟩
  · refine ⟨(Segment.classify name).key, fun a ha => ⟨name, ?_, rfl⟩⟩
    obtain ⟨b, _, followed⟩ := mem_arrivalsAt.1 ha
    cases followed
    rfl
  · rw [List.concat_eq_append]
    exact ⟨k, fun a ha => exists_text_of_mem_arrivalsAt ha⟩

theorem Node.Coherent.isDynamic_iff {n : Node} (h : n.Coherent) :
    n.isDynamic = true ↔ ∀ text, n.key ≠ .literal text := by
  rw [h.isDynamic_eq, h.key_eq]
  exact Segment.isDynamic_iff

/-- What a position has in common with a text that leads to it. -/
structure Node.Stands (n : Node) (text : String) : Prop where
  name_mem : (Segment.classify text).label ∈ n.names
  isDynamic_eq : n.isDynamic = (Segment.classify text).isDynamic
  validator_eq : n.validator = (Component.lenient text).validator
  literal_eq : n.isDynamic = false → n.names.head?.getD n.component = text

theorem Node.Stands.accepts_text {n : Node} {text : String} (h : n.Stands text)
    (literal : n.isDynamic = false) : n.validator.accepts text = true := by
  have classified := Segment.classify_of_not_isDynamic (h.isDynamic_eq ▸ literal)
  rw [h.validator_eq, Component.lenient, classified]
  exact Validator.literal_accepts_self text

/-- A position stands for a text if that has the key of all texts that led there. -/
theorem Node.Reflects.stands {n : Node} {level : Nat} {as : List Arrival} {text : String}
    (h : n.Reflects level as) (name_mem : (Segment.classify text).label ∈ n.names)
    (shared : ∀ a ∈ as, ∃ text', a.component = .lenient text' ∧
      (Segment.classify text').key = (Segment.classify text).key) : n.Stands text := by
  have isDynamic_eq : n.isDynamic = (Segment.classify text).isDynamic := by
    obtain ⟨a, ha, component⟩ := Option.map_eq_some_iff.1 h.component_eq
    obtain ⟨text', same, key⟩ := shared a (List.mem_of_head? ha)
    rw [same] at component
    rw [h.coherent.isDynamic_eq, ← component]
    exact Segment.isDynamic_of_key key
  refine ⟨name_mem, isDynamic_eq, ?_, fun literal => ?_⟩
  · obtain ⟨a, ha, validator⟩ := Option.map_eq_some_iff.1 h.validator_eq
    obtain ⟨text', same, key⟩ := shared a (List.mem_of_getLast? ha)
    rw [← validator, same, Component.validator_lenient, Component.validator_lenient, key]
  · have classified := Segment.classify_of_not_isDynamic (isDynamic_eq ▸ literal)
    have all_text : ∀ called ∈ n.names, called = text := by
      intro called hcalled
      obtain ⟨a, ha, rfl⟩ := (h.mem_names called).1 hcalled
      obtain ⟨text', same, key⟩ := shared a ha
      rw [classified] at key
      rw [same]
      exact Segment.label_of_label? (congrArg MergeKey.label? key)
    cases hhead : n.names.head? with
    | none =>
        rw [List.head?_eq_none_iff.1 hhead] at name_mem
        cases name_mem
    | some called => exact all_text called (List.mem_of_head? hhead)

namespace RouteTree

variable {entries : List (String × RouteDefinition)} {ns name : String} {tree : ResourceTree}

theorem reflects_root (h : (grown entries).resource? ns name = some tree) :
    tree.root.Reflects 0 (arrivalsAt name (branches ns name entries) []) := by
  have here : tree.root.at? [] = some tree.root := rfl
  exact reflects_of_at? h here

theorem name_of_resource? (h : (grown entries).resource? ns name = some tree) :
    tree.name = name := by
  rw [resource?_grown] at h
  exact ResourceTree.name_foldl_graft (fun _ none_yet => by cases none_yet) tree h

theorem component_root (h : (grown entries).resource? ns name = some tree) :
    tree.root.component = name := by
  obtain ⟨a, ha, same⟩ := Option.map_eq_some_iff.1 (reflects_root h).component_eq
  obtain ⟨b, _, followed⟩ := mem_arrivalsAt.1 (List.mem_of_head? ha)
  cases followed
  exact same.symm

theorem validator_root (h : (grown entries).resource? ns name = some tree) :
    tree.root.validator = (Component.lenient name).validator := by
  obtain ⟨a, ha, same⟩ := Option.map_eq_some_iff.1 (reflects_root h).validator_eq
  obtain ⟨b, _, followed⟩ := mem_arrivalsAt.1 (List.mem_of_getLast? ha)
  cases followed
  exact same.symm

theorem mem_root (tree : ResourceTree) : tree.root ∈ tree.root.preorder := by
  rw [Node.preorder_eq]
  exact List.mem_cons_self

theorem exists_at?_of_mem (h : (grown entries).resource? ns name = some tree) {n : Node}
    (hn : n ∈ tree.root.preorder) : ∃ ks, tree.root.at? ks = some n ∧ n.level = ks.length := by
  obtain ⟨ks, hks⟩ := (distinct_root h).exists_at? hn
  exact ⟨ks, hks, (reflects_of_at? h hks).level_eq⟩

theorem level_of_child (h : (grown entries).resource? ns name = some tree) {n c : Node}
    (hn : n ∈ tree.root.preorder) (hc : c ∈ n.children) : c.level = n.level + 1 := by
  obtain ⟨ks, hks, level⟩ := exists_at?_of_mem h hn
  have below := (distinct_root h).at?_of_child hks hc
  rw [(reflects_of_at? h below).level_eq, level, List.length_append]
  rfl

/-- Going down a tree stays in it and meets one level after the other. -/
theorem levels_of_descent (h : (grown entries).resource? ns name = some tree) {n : Node}
    (hn : n ∈ tree.root.preorder) {ms : List Node} (down : n.Descent ms) :
    (∀ m ∈ ms, m ∈ tree.root.preorder) ∧
      ms.map (·.level) = List.range' (n.level + 1) ms.length := by
  induction ms generalizing n with
  | nil => exact ⟨fun _ hm => (List.not_mem_nil hm).elim, rfl⟩
  | cons c ms ih =>
      obtain ⟨hc, rest⟩ := down
      have inside := (distinct_root h).mem_preorder_of_child hn hc
      obtain ⟨members, levels⟩ := ih inside rest
      refine ⟨fun m hm => ?_, ?_⟩
      · rcases List.mem_cons.1 hm with rfl | hm
        · exact inside
        · exact members m hm
      · rw [List.map_cons, levels, level_of_child h hn hc]
        rfl

theorem exists_text_of_mem_names (h : (grown entries).resource? ns name = some tree) {n : Node}
    (hn : n ∈ tree.root.preorder) (below : n.level ≠ 0) {called : String}
    (hcalled : called ∈ n.names) :
    ∃ b ∈ branches ns name entries, ∃ text ∈ b.below, (Segment.classify text).label = called := by
  obtain ⟨ks, hks, level⟩ := exists_at?_of_mem h hn
  obtain ⟨b, hb, _, labelled⟩ := ((reflects_of_at? h hks).mem_names_iff called).1 hcalled
  obtain ⟨text, there, same⟩ := Option.map_eq_some_iff.1 labelled
  obtain ⟨depth, deeper⟩ := Nat.exists_eq_succ_of_ne_zero (level ▸ below)
  rw [deeper, List.getElem?_cons_succ] at there
  exact ⟨b, hb, text, List.mem_of_getElem? there, same⟩

theorem stands_of_at? (h : (grown entries).resource? ns name = some tree) {b : Branch}
    (hb : b ∈ branches ns name entries) {before after : List String} {text : String}
    (split : b.below = before ++ text :: after) {n : Node}
    (hn : tree.root.at? ((before ++ [text]).map fun t => (Segment.classify t).key) = some n) :
    n.Stands text := by
  rw [List.map_append, List.map_singleton] at hn
  have reflects := reflects_of_at? h hn
  have shared : ∀ a ∈ arrivalsAt name (branches ns name entries)
      (before.map (fun t => (Segment.classify t).key) ++ [(Segment.classify text).key]),
      ∃ text', a.component = .lenient text' ∧
        (Segment.classify text').key = (Segment.classify text).key :=
    fun a ha => exists_text_of_mem_arrivalsAt ha
  have name_mem : (Segment.classify text).label ∈ n.names := by
    refine (reflects.mem_names_iff _).2 ⟨b, hb, ?_, ?_⟩
    · rw [Branch.keys, split]
      simp
    · rw [Branch.labelAt, split]
      simp
  exact reflects.stands name_mem shared

theorem exists_stands (h : (grown entries).resource? ns name = some tree) {n : Node}
    (hn : n ∈ tree.root.preorder) : ∃ text, n.Stands text := by
  obtain ⟨ks, hks, _⟩ := exists_at?_of_mem h hn
  have reflects := reflects_of_at? h hks
  obtain ⟨k, shared⟩ := exists_key_of_arrivalsAt name (branches ns name entries) ks
  obtain ⟨a, ha, _⟩ := Option.map_eq_some_iff.1 reflects.component_eq
  obtain ⟨text, component, key⟩ := shared a (List.mem_of_head? ha)
  have name_mem : (Segment.classify text).label ∈ n.names :=
    (reflects.mem_names _).2 ⟨a, List.mem_of_head? ha, by rw [component]; rfl⟩
  refine ⟨text, reflects.stands name_mem fun b hb => ?_⟩
  obtain ⟨text', component', key'⟩ := shared b hb
  exact ⟨text', component', key'.trans key.symm⟩

end RouteTree
end RestRoutes
