import RestRoutes.Proofs.Tree.Addresses
import RestRoutes.Proofs.Tree.Places
import RestRoutes.Setter

/-!
The same routes in another order. Their trees have the same positions, which stand in another order
and may be spelled after other routes, but agree on everything else (`RouteTree.alike_of_perm`); so
their setters are the same (`Node.Alike.setter_eq`).
-/
namespace RestRoutes

theorem MethodSet.ofList_of_perm {ms ms' : List Method} (h : ms.Perm ms') :
    ofList ms = ofList ms' := by
  apply ext_contains
  intro m
  simp only [contains_ofList, pairs, h.contains_eq]

theorem arrivalsAt_perm (name : String) {bs bs' : List Branch} (h : bs.Perm bs')
    (ks : List MergeKey) : (arrivalsAt name bs ks).Perm (arrivalsAt name bs' ks) :=
  (h.map _).filterMap _

theorem Setter.promotion?_of_perm {n m : Node}
    (h : (n.dynamicChildren.map fun c => (c.level, c.methods)).Perm
      (m.dynamicChildren.map fun c => (c.level, c.methods))) : promotion? n = promotion? m := by
  unfold promotion?
  generalize n.dynamicChildren = cs, m.dynamicChildren = ds at h
  rcases cs with _ | ⟨c, _ | ⟨c', cs⟩⟩
  · rw [List.map_eq_nil_iff.1 (List.nil_perm.1 h)]
  · obtain ⟨d, rfl, same⟩ := List.map_eq_singleton_iff.1 (List.singleton_perm.1 h).symm
    obtain ⟨level, methods⟩ := Prod.mk.inj same
    simp only [level, methods]
  · rcases ds with _ | ⟨d, _ | ⟨d', ds⟩⟩
    · cases h.length_eq
    · cases h.length_eq
    · rfl

namespace Node

theorem endMethods_of_perm {as as' : List Arrival} (h : as.Perm as') :
    endMethods as = endMethods as' := by
  unfold endMethods
  rw [h.all_eq, MethodSet.ofList_of_perm ((h.filter _).flatMap_right _)]

/-- Positions that routes in another order cannot tell apart. How they are spelled and in which
order they list their names is left open. -/
structure Agrees (n m : Node) : Prop where
  level_eq : n.level = m.level
  isDynamic_eq : n.isDynamic = m.isDynamic
  mem_names : ∀ name, name ∈ n.names ↔ name ∈ m.names
  validator_eq : n.validator = m.validator
  methods_eq : n.methods = m.methods
  text_eq : n.isDynamic = false → n.names.head?.getD n.component = m.names.head?.getD m.component

theorem Agrees.symm {n m : Node} (h : n.Agrees m) : m.Agrees n where
  level_eq := h.level_eq.symm
  isDynamic_eq := h.isDynamic_eq.symm
  mem_names name := (h.mem_names name).symm
  validator_eq := h.validator_eq.symm
  methods_eq := h.methods_eq.symm
  text_eq literal := (h.text_eq (h.isDynamic_eq.trans literal)).symm

/-- Positions that the same routes come to agree, provided that all of them have one key. -/
theorem Reflects.agrees {level : Nat} {as as' : List Arrival} {n m : Node} {k : MergeKey}
    (hn : n.Reflects level as) (hm : m.Reflects level as') (perm : as.Perm as')
    (shared : ∀ a ∈ as, ∃ text, a.component = .lenient text ∧ (Segment.classify text).key = k) :
    n.Agrees m := by
  obtain ⟨first, hfirst, _⟩ := Option.map_eq_some_iff.1 hn.component_eq
  have member := List.mem_of_head? hfirst
  obtain ⟨text, component, key⟩ := shared first member
  have label : first.component.segment.label = (Segment.classify text).label := by
    rw [component]
    rfl
  have same_key : ∀ a ∈ as, ∃ text', a.component = .lenient text' ∧
      (Segment.classify text').key = (Segment.classify text).key :=
    fun a ha => key.symm ▸ shared a ha
  have stands : n.Stands text :=
    hn.stands ((hn.mem_names _).2 ⟨first, member, label⟩) same_key
  have stands' : m.Stands text :=
    hm.stands ((hm.mem_names _).2 ⟨first, perm.mem_iff.1 member, label⟩)
      fun a ha => same_key a (perm.mem_iff.2 ha)
  exact {
    level_eq := hn.level_eq.trans hm.level_eq.symm
    isDynamic_eq := stands.isDynamic_eq.trans stands'.isDynamic_eq.symm
    mem_names := fun name => by
      rw [hn.mem_names, hm.mem_names]
      simp only [perm.mem_iff]
    validator_eq := stands.validator_eq.trans stands'.validator_eq.symm
    methods_eq := by rw [hn.methods_eq, hm.methods_eq, endMethods_of_perm perm]
    text_eq := fun literal => by
      have literal' : m.isDynamic = false := by
        rw [stands'.isDynamic_eq, ← stands.isDynamic_eq, literal]
      rw [stands.literal_eq literal, stands'.literal_eq literal'] }

/-- The same sequences of keys lead to positions, and these agree. -/
structure Alike (n m : Node) : Prop where
  isSome_at? : ∀ ks, (n.at? ks).isSome = (m.at? ks).isSome
  agrees_at? : ∀ ks, ∀ a ∈ n.at? ks, ∀ b ∈ m.at? ks, a.Agrees b

namespace Alike

variable {n m : Node}

theorem agrees (h : n.Alike m) : n.Agrees m := h.agrees_at? [] n rfl m rfl

theorem symm (h : n.Alike m) : m.Alike n where
  isSome_at? ks := (h.isSome_at? ks).symm
  agrees_at? ks b hb a ha := (h.agrees_at? ks a ha b hb).symm

theorem exists_at? (h : n.Alike m) {ks : List MergeKey} {a : Node} (ha : n.at? ks = some a) :
    ∃ b, m.at? ks = some b ∧ a.Alike b := by
  have found : (m.at? ks).isSome = true := by rw [← h.isSome_at? ks, ha, Option.isSome_some]
  obtain ⟨b, hb⟩ := Option.isSome_iff_exists.1 found
  have below : ∀ ls, a.at? ls = n.at? (ks ++ ls) ∧ b.at? ls = m.at? (ks ++ ls) := by
    intro ls
    simp [at?_append, ha, hb]
  refine ⟨b, hb, fun ls => ?_, fun ls => ?_⟩
  · rw [(below ls).1, (below ls).2, h.isSome_at?]
  · rw [(below ls).1, (below ls).2]
    exact h.agrees_at? _

/-- What agreeing positions have in common is the same at the end of every sequence of keys. -/
theorem map_at? {β : Type} {f : Node → β} (h : n.Alike m) (kept : ∀ {a b}, Agrees a b → f a = f b)
    (ks : List MergeKey) : (n.at? ks).map f = (m.at? ks).map f := by
  cases ha : n.at? ks with
  | none =>
      have none_there : m.at? ks = none := by simpa [ha] using (h.isSome_at? ks).symm
      rw [none_there]
  | some a =>
      obtain ⟨b, hb, alike⟩ := h.exists_at? ha
      rw [hb]
      exact congrArg some (kept alike.agrees)

theorem preorder_perm {β : Type} {f : Node → β} (h : n.Alike m) (hn : n.Distinct)
    (hm : m.Distinct) (kept : ∀ {a b}, Agrees a b → f a = f b) :
    (n.preorder.map f).Perm (m.preorder.map f) :=
  hn.preorder_perm hm (h.map_at? kept)

/-- There is one dynamic position below in both or in neither, and then it is the same one. -/
theorem promotion?_eq (h : n.Alike m) (hn : n.Distinct) (hm : m.Distinct) :
    Setter.promotion? n = Setter.promotion? m := by
  have same : ∀ k, (n.child? k).map (fun c => (c.isDynamic, c.level, c.methods)) =
      (m.child? k).map (fun c => (c.isDynamic, c.level, c.methods)) := by
    intro k
    have child : ∀ l : Node, l.at? [k] = l.child? k := fun l => by simp [at?]
    rw [← child, ← child]
    exact h.map_at? (fun agrees => by
      rw [agrees.isDynamic_eq, agrees.level_eq, agrees.methods_eq]) [k]
  have dynamic := ((hn.children_perm hm same).filter (·.1)).map (·.2)
  rw [List.filter_map, List.filter_map, List.map_map, List.map_map] at dynamic
  exact Setter.promotion?_of_perm dynamic

theorem setter_eq (h : n.Alike m) (hn : n.Distinct) (hm : m.Distinct) (options : Options) :
    Setter.ofNode options n = Setter.ofNode options m := by
  have agrees := h.agrees
  unfold Setter.ofNode
  rw [h.promotion?_eq hn hm, agrees.isDynamic_eq, agrees.level_eq, agrees.methods_eq]
  cases literal : m.isDynamic with
  | true => rfl
  | false => simp [agrees.text_eq (agrees.isDynamic_eq.trans literal)]

end Alike
end Node

namespace RouteTree

variable {entries entries' : List (String × RouteDefinition)} {ns name : String}
  {tree tree' : ResourceTree}

theorem branches_perm (h : entries.Perm entries') (ns name : String) :
    (branches ns name entries).Perm (branches ns name entries') :=
  h.filterMap _

theorem resource?_isSome_of_perm (h : entries.Perm entries') (ns name : String) :
    ((grown entries).resource? ns name).isSome = ((grown entries').resource? ns name).isSome := by
  have perm := branches_perm h ns name
  rw [Bool.eq_iff_iff, resource?_isSome_iff, resource?_isSome_iff]
  exact not_congr ⟨fun e => List.perm_nil.1 (e ▸ perm.symm), fun e => List.perm_nil.1 (e ▸ perm)⟩

theorem alike_of_perm (h : entries.Perm entries')
    (made : (grown entries).resource? ns name = some tree)
    (made' : (grown entries').resource? ns name = some tree') : tree.root.Alike tree'.root := by
  have perm := arrivalsAt_perm name (branches_perm h ns name)
  refine ⟨fun ks => ?_, fun ks a ha b hb => ?_⟩
  · have vacant : tree.root.at? ks = none ↔ tree'.root.at? ks = none := by
      rw [at?_root made, at?_root made', Node.grow_eq_none_iff, Node.grow_eq_none_iff]
      exact ⟨fun e => List.perm_nil.1 (e ▸ (perm ks).symm), fun e => List.perm_nil.1 (e ▸ perm ks)⟩
    cases hn : tree.root.at? ks <;> cases hm : tree'.root.at? ks <;> simp_all
  · obtain ⟨k, shared⟩ := exists_key_of_arrivalsAt name (branches ns name entries) ks
    exact (reflects_of_at? made ha).agrees (reflects_of_at? made' hb) (perm ks) shared

end RouteTree
end RestRoutes
