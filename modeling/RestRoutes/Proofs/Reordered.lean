import RestRoutes.Proofs.Labels
import RestRoutes.Proofs.Tree.Agreement

/-!
Blueprints of the same routes in another order. A blueprint says how positions are spelled, in which
order they stand and which of two setters keeps a label, and all of this may come out differently.
What it accepts, which setters are put forward and where they are in conflict does not
(`RouteTree.blueprints_of_perm`).
-/
namespace RestRoutes

def Shape.accepted (s : Shape) : Validator × Option MethodSet := (s.validator, s.methods)

def Node.accepted (n : Node) : Nat × Validator × Option MethodSet :=
  (n.level, n.validator, n.methods)

theorem Node.Agrees.accepted_eq {n m : Node} (h : n.Agrees m) : n.accepted = m.accepted := by
  rw [accepted, h.level_eq, h.validator_eq, h.methods_eq, accepted]

section Levels

variable {ns ms : List Node} (h : (ns.map Node.accepted).Perm (ms.map Node.accepted))
include h

theorem Levels.contains_of_perm (level : Nat) :
    (Levels.ofNodes ns).contains level = (Levels.ofNodes ms).contains level := by
  have met : level ∈ _ ↔ level ∈ _ := (h.map (·.1)).mem_iff
  rw [List.map_map, List.map_map, List.mem_map, List.mem_map] at met
  rw [Bool.eq_iff_iff, contains_ofNodes, contains_ofNodes]
  exact met

theorem Levels.accepted_of_perm (level : Nat) :
    ((((Levels.ofNodes ns).get? level).getD []).map Shape.accepted).Perm
      ((((Levels.ofNodes ms).get? level).getD []).map Shape.accepted) := by
  have met := (h.filter (·.1 = level)).map (·.2)
  rw [List.filter_map, List.filter_map, List.map_map, List.map_map] at met
  rw [get?_ofNodes, get?_ofNodes, List.map_map, List.map_map]
  exact met

end Levels

theorem Dict.eq_of_contains {d e : Dict String Unit}
    (h : ∀ k, d.contains k = true ↔ e.contains k = true) : d = e := by
  apply ext_get?
  intro k
  have same := Bool.eq_iff_iff.2 (h k)
  unfold contains at same
  cases hd : d.get? k <;> cases he : e.get? k <;> simp_all

namespace Blueprint

variable {options : Options} {ns label : String} {tree tree' : ResourceTree} {setter : Setter}

/-- A setter is put forward under a label, whether or not it gets it. -/
def Offers (options : Options) (tree : ResourceTree) (label : String) (setter : Setter) : Prop :=
  ∃ c ∈ candidates options tree.root.preorder, c.label = label ∧ c.setter = setter

theorem offers_iff : Offers options tree label setter ↔
    ∃ n ∈ tree.root.preorder, n.level ≠ 0 ∧ (∃ name ∈ n.names, camelCase name = label) ∧
      Setter.ofNode options n = setter := by
  unfold Offers
  constructor
  · rintro ⟨c, hc, rfl, rfl⟩
    obtain ⟨n, hn, below, name, hname, rfl⟩ := mem_candidates.1 hc
    exact ⟨n, hn, below, ⟨name, hname, rfl⟩, rfl⟩
  · rintro ⟨n, hn, below, ⟨name, hname, rfl⟩, rfl⟩
    exact ⟨_, mem_candidates.2 ⟨n, hn, below, name, hname, rfl⟩, rfl, rfl⟩

theorem contains_setters_iff :
    (ofTree options ns tree).value.setters.entries.contains label = true ↔
      ∃ setter, Offers options tree label setter := by
  rw [setters_ofTree, AliasTable.contains_enterAll]
  constructor
  · rintro ⟨c, hc, called⟩
    exact ⟨c.setter, c, hc, called, rfl⟩
  · rintro ⟨_, c, hc, called, _⟩
    exact ⟨c, hc, called⟩

theorem exists_conflict_iff :
    (∃ x ∈ (ofTree options ns tree).value.conflicts, x.label = label) ↔
      ∃ first second, Offers options tree label first ∧ Offers options tree label second ∧
        first ≠ second := by
  rw [conflicts, setters_ofTree, AliasTable.exists_conflict_of_empty_iff]
  constructor
  · rintro ⟨c, hc, d, hd, called, called', differ⟩
    exact ⟨c.setter, d.setter, ⟨c, hc, called, rfl⟩, ⟨d, hd, called', rfl⟩, differ⟩
  · rintro ⟨_, _, ⟨c, hc, called, rfl⟩, ⟨d, hd, called', rfl⟩, differ⟩
    exact ⟨c, hc, d, hd, called, called', differ⟩

theorem eq_nil_iff_no_label {xs : List AliasConflict} :
    xs = [] ↔ ∀ label, ¬∃ x ∈ xs, x.label = label := by
  cases xs with
  | nil => simp
  | cons x xs =>
      refine ⟨fun e => (List.cons_ne_nil _ _ e).elim, fun none_called => ?_⟩
      exact (none_called x.label ⟨x, List.mem_cons_self, rfl⟩).elim

/-- Blueprints that take the same requests as far as their labels are not in conflict. -/
structure Interchangeable (options : Options) (ns : String) (tree tree' : ResourceTree) :
    Prop where
  levels : ∀ level, (ofTree options ns tree).value.levels.contains level =
    (ofTree options ns tree').value.levels.contains level
  shapes : ∀ level,
    ((((ofTree options ns tree).value.levels.get? level).getD []).map Shape.accepted).Perm
      ((((ofTree options ns tree').value.levels.get? level).getD []).map Shape.accepted)
  labels : ∀ label, (ofTree options ns tree).value.setters.entries.contains label =
    (ofTree options ns tree').value.setters.entries.contains label
  setters : ∀ label setter,
    Offers options tree label setter ↔ Offers options tree' label setter
  getArgs : (ofTree options ns tree).value.getArgs = (ofTree options ns tree').value.getArgs
  conflicts : ∀ label, (∃ x ∈ (ofTree options ns tree).value.conflicts, x.label = label) ↔
    ∃ x ∈ (ofTree options ns tree').value.conflicts, x.label = label
  contested : ∀ label, (∃ x ∈ (ofTree options ns tree).value.conflicts, x.label = label) ↔
    ∃ first second, Offers options tree label first ∧ Offers options tree label second ∧
      first ≠ second
  quiet : (ofTree options ns tree).value.conflicts = [] ↔
    (ofTree options ns tree').value.conflicts = []

theorem offers_of_alike (alike : tree.root.Alike tree'.root) (distinct : tree.root.Distinct)
    (distinct' : tree'.root.Distinct) (h : Offers options tree label setter) :
    Offers options tree' label setter := by
  rw [offers_iff] at h ⊢
  obtain ⟨n, hn, below, ⟨name, hname, called⟩, rfl⟩ := h
  obtain ⟨ks, hks⟩ := distinct.exists_at? hn
  obtain ⟨m, hm, same⟩ := alike.exists_at? hks
  refine ⟨m, Node.mem_preorder_of_at? hm, same.agrees.level_eq ▸ below,
    ⟨name, (same.agrees.mem_names name).1 hname, called⟩, ?_⟩
  exact (same.setter_eq (distinct.of_at? hks) (distinct'.of_at? hm) options).symm

theorem interchangeable_of_alike (alike : tree.root.Alike tree'.root)
    (distinct : tree.root.Distinct) (distinct' : tree'.root.Distinct)
    (args : tree.getArgs = tree'.getArgs) (options : Options) (ns : String) :
    Interchangeable options ns tree tree' := by
  have listed : (tree.root.preorder.map Node.accepted).Perm
      (tree'.root.preorder.map Node.accepted) :=
    alike.preorder_perm distinct distinct' fun agrees => agrees.accepted_eq
  have setters : ∀ label setter,
      Offers options tree label setter ↔ Offers options tree' label setter := by
    intro label setter
    exact ⟨offers_of_alike alike distinct distinct',
      offers_of_alike alike.symm distinct' distinct⟩
  have labels : ∀ label, (ofTree options ns tree).value.setters.entries.contains label =
      (ofTree options ns tree').value.setters.entries.contains label := by
    intro label
    rw [Bool.eq_iff_iff, contains_setters_iff, contains_setters_iff]
    simp only [setters]
  have conflicts : ∀ label, (∃ x ∈ (ofTree options ns tree).value.conflicts, x.label = label) ↔
      ∃ x ∈ (ofTree options ns tree').value.conflicts, x.label = label := by
    intro label
    rw [exists_conflict_iff, exists_conflict_iff]
    simp only [setters]
  have quiet : (ofTree options ns tree).value.conflicts = [] ↔
      (ofTree options ns tree').value.conflicts = [] := by
    rw [eq_nil_iff_no_label, eq_nil_iff_no_label]
    simp only [conflicts]
  exact ⟨Levels.contains_of_perm listed, Levels.accepted_of_perm listed, labels, setters, args,
    conflicts, fun _ => exists_conflict_iff, quiet⟩

end Blueprint

namespace RouteTree

theorem getArgs_of_perm {entries entries' : List (String × RouteDefinition)} {ns name : String}
    {tree tree' : ResourceTree} (h : entries.Perm entries')
    (made : (grown entries).resource? ns name = some tree)
    (made' : (grown entries').resource? ns name = some tree') : tree.getArgs = tree'.getArgs := by
  rw [resource?_grown] at made made'
  apply Dict.eq_of_contains
  intro arg
  rw [ResourceTree.getArgs_foldl_graft made, ResourceTree.getArgs_foldl_graft made']
  simp only [(branches_perm h ns name).mem_iff]

/-- Routes that are not taken strictly make the same resources in any order, and of each resource a
tree that holds what they say and a blueprint that the order does not change in substance. -/
theorem blueprints_of_perm {options : Options} (lenient : options.strictPatterns = false)
    {entries entries' : List (String × RouteDefinition)} (h : entries.Perm entries') :
    ∃ t t', (ofList options entries).outcome = .ok t ∧ (ofList options entries').outcome = .ok t' ∧
      ∀ ns name, ((t.resource? ns name).isSome = true ↔ branches ns name entries ≠ []) ∧
        (t.resource? ns name).isSome = (t'.resource? ns name).isSome ∧
        ∀ tree tree', t.resource? ns name = some tree → t'.resource? ns name = some tree' →
          tree.Merges name (branches ns name entries) ∧
          Blueprint.Interchangeable options ns tree tree' := by
  refine ⟨grown entries, grown entries', outcome_ofList lenient entries,
    outcome_ofList lenient entries', ?_⟩
  intro ns name
  refine ⟨resource?_isSome_iff entries ns name, resource?_isSome_of_perm h ns name, ?_⟩
  intro tree tree' made made'
  refine ⟨merges made, ?_⟩
  exact Blueprint.interchangeable_of_alike (alike_of_perm h made made') (distinct_root made)
    (distinct_root made') (getArgs_of_perm h made made') options ns

def rivals : List (String × RouteDefinition) :=
  [("/wp/v2/posts/(?P<name>)", ⟨"wp/v2", [.get], []⟩),
    ("/wp/v2/posts/by-author/(?P<name>)", ⟨"wp/v2", [.get], []⟩)]

/-- The trees differ, for each order puts another position first, but the conflict does not. -/
theorem blueprints_of_perm_rivals :
    ({} : Options).strictPatterns = false ∧ rivals.Perm rivals.reverse ∧
      ∃ t t' tree tree', (ofList {} rivals).outcome = .ok t ∧
        (ofList {} rivals.reverse).outcome = .ok t' ∧ t ≠ t' ∧
        t.resource? "wp/v2" "posts" = some tree ∧ t'.resource? "wp/v2" "posts" = some tree' ∧
        tree.Merges "posts" (branches "wp/v2" "posts" rivals) ∧
        Blueprint.Interchangeable {} "wp/v2" tree tree' ∧
        ∃ x ∈ (Blueprint.ofTree {} "wp/v2" tree').value.conflicts, x.label = "name" := by
  have perm : rivals.Perm rivals.reverse := .swap _ _ _
  obtain ⟨t, t', ht, ht', resources⟩ :=
    blueprints_of_perm (rfl : ({} : Options).strictPatterns = false) perm
  obtain ⟨_, both, interchangeable⟩ := resources "wp/v2" "posts"
  have built : (ofList {} rivals).outcome.toOption.any (fun t =>
      (t.resource? "wp/v2" "posts").any fun tree =>
        (Blueprint.ofTree {} "wp/v2" tree).value.conflicts.any (·.label = "name")) = true := by
    decide +kernel
  have differ : (ofList {} rivals).outcome.toOption ≠
      (ofList {} rivals.reverse).outcome.toOption := by
    decide +kernel
  rw [ht, Except.toOption, Option.any_some] at built
  rw [ht, ht'] at differ
  obtain ⟨tree, found, conflicting⟩ := (Option.any_eq_true _ _).1 built
  obtain ⟨x, hx, called⟩ := List.any_eq_true.1 conflicting
  have found' : (t'.resource? "wp/v2" "posts").isSome = true := by
    rw [← both, found, Option.isSome_some]
  obtain ⟨tree', htree'⟩ := Option.isSome_iff_exists.1 found'
  obtain ⟨holds, same⟩ := interchangeable tree tree' found htree'
  refine ⟨rfl, perm, t, t', tree, tree', ht, ht', ?_, found, htree', holds, same, ?_⟩
  · intro e
    exact differ (by rw [e])
  · exact (same.conflicts "name").1 ⟨x, hx, of_decide_eq_true called⟩

end RouteTree
end RestRoutes
