import RestRoutes.Proofs.Reordered
import RestRoutes.Proofs.Tree.Invariant

/-!
The level table of a blueprint. A position knows its level from the route that made it; that this is
how far down it stands is what makes the table the tree laid flat: it has a list for each depth that
the tree has, and in it the shapes of the positions there, in the order of the tree
(`RouteTree.levels_flatten`).
-/
namespace RestRoutes

namespace Node

/-- The positions that a number of keys lead to, in the order of the tree. -/
def atDepth (n : Node) (k : Nat) : List Node :=
  (n.addressed.filter (·.1.length = k)).map (·.2)

mutual

def depth : Node → Nat
  | ⟨_, _, _, _, _, _, _, none⟩ => 0
  | ⟨_, _, _, _, _, _, _, some children⟩ => depthAll children

def depthAll : List Node → Nat
  | [] => 0
  | n :: ns => max (n.depth + 1) (depthAll ns)

end

theorem mem_atDepth {n m : Node} {k : Nat} :
    m ∈ n.atDepth k ↔ ∃ ks, (ks, m) ∈ n.addressed ∧ ks.length = k := by
  simp [atDepth]

theorem depth_eq (n : Node) : n.depth = depthAll n.children := by
  obtain ⟨_, _, _, _, _, _, _, _ | children⟩ := n <;> rfl

theorem lt_depthAll_iff {ns : List Node} {k : Nat} :
    k < depthAll ns ↔ ∃ n ∈ ns, k ≤ n.depth := by
  induction ns with
  | nil => simp [depthAll]
  | cons n ns ih =>
      have first : k < max (n.depth + 1) (depthAll ns) ↔ k ≤ n.depth ∨ k < depthAll ns := by omega
      rw [depthAll, first, ih]
      simp

theorem exists_mem_atDepth_iff {n : Node} {k : Nat} : (∃ m, m ∈ n.atDepth k) ↔ k ≤ n.depth := by
  induction n using induct generalizing k with
  | step n ih =>
      cases k with
      | zero =>
          have here : n ∈ n.atDepth 0 := mem_atDepth.2 ⟨[], mem_addressed_nil.2 rfl, rfl⟩
          exact iff_of_true ⟨n, here⟩ (Nat.zero_le _)
      | succ k =>
          have deeper : k + 1 ≤ n.depth ↔ ∃ c ∈ n.children, k ≤ c.depth := by
            rw [depth_eq]
            exact lt_depthAll_iff
          rw [deeper]
          constructor
          · rintro ⟨m, hm⟩
            obtain ⟨ks, there, length⟩ := mem_atDepth.1 hm
            cases ks with
            | nil => cases length
            | cons key ks =>
                obtain ⟨c, hc, _, below⟩ := mem_addressed_cons.1 there
                exact ⟨c, hc, (ih c hc).1 ⟨m, mem_atDepth.2 ⟨ks, below, Nat.succ.inj length⟩⟩⟩
          · rintro ⟨c, hc, reaches⟩
            obtain ⟨m, hm⟩ := (ih c hc).2 reaches
            obtain ⟨ks, below, rfl⟩ := mem_atDepth.1 hm
            exact ⟨m, mem_atDepth.2
              ⟨c.key :: ks, mem_addressed_cons.2 ⟨c, hc, rfl, below⟩, rfl⟩⟩

theorem filter_level_eq {n : Node} (level : ∀ p ∈ n.addressed, p.2.level = p.1.length) (k : Nat) :
    n.preorder.filter (·.level = k) = n.atDepth k := by
  rw [← map_snd_addressed, List.filter_map, atDepth]
  congr 1
  refine List.filter_congr fun p hp => ?_
  simp [level p hp]

end Node

theorem Levels.mem_keys_iff {nodes : List Node} {level : Nat} :
    level ∈ (ofNodes nodes).keys ↔ ∃ n ∈ nodes, n.level = level := by
  rw [← contains_ofNodes, Dict.contains, Option.isSome_iff_exists]
  simp [Dict.keys, Dict.get?_eq_some_iff]

/-- The keys of a map are fixed by their members and come in order. -/
theorem Dict.keys_eq_of_mem_iff {α : Type} {d : Dict Nat α} {ks : List Nat}
    (ascending : ks.Pairwise (· < ·)) (same : ∀ k, k ∈ d.keys ↔ k ∈ ks) : d.keys = ks := by
  have ordered : d.keys.Pairwise (· < ·) := by
    rw [keys, List.pairwise_map]
    exact d.ascending.imp Nat.compare_eq_lt.1
  have nodup : ∀ {ks : List Nat}, ks.Pairwise (· < ·) → ks.Nodup :=
    fun h => h.imp Nat.ne_of_lt
  have perm := (List.perm_ext_iff_of_nodup (nodup ordered) (nodup ascending)).2 same
  exact perm.eq_of_pairwise (fun _ _ _ _ below above => absurd above (Nat.lt_asymm below))
    ordered ascending

namespace RouteTree

variable {as : List Attempt} {ns name : String} {tree : ResourceTree}

theorem level_of_mem_addressed (found : (run as).resource? ns name = some tree) :
    ∀ p ∈ tree.root.addressed, p.2.level = p.1.length := by
  obtain ⟨entries, folded⟩ := exists_folded_run as
  rw [folded.eq_grown] at found
  rintro ⟨ks, n⟩ hp
  have there := (distinct_root found).mem_addressed_iff.1 hp
  exact (reflects_of_at? found there).level_eq

theorem addresses_nodup (found : (run as).resource? ns name = some tree) :
    (tree.root.addressed.map (·.1)).Nodup := by
  obtain ⟨entries, folded⟩ := exists_folded_run as
  rw [folded.eq_grown] at found
  exact (distinct_root found).addresses_nodup

/-- However routes are folded, the levels of a blueprint are the depths of the tree, and each lists
the shapes of the positions there, in their order and each once. So a value is accepted at a level
just when a position at that depth accepts it. -/
theorem levels_flatten (found : (run as).resource? ns name = some tree) (options : Options) :
    let levels := (Blueprint.ofTree options ns tree).value.levels
    tree.root.addressed.map (·.2) = tree.root.preorder ∧
      (tree.root.addressed.map (·.1)).Nodup ∧
      levels.keys = List.range (tree.root.depth + 1) ∧
      (∀ k ≤ tree.root.depth,
        levels.get? k = some ((tree.root.atDepth k).map Shape.ofNode)) ∧
      ∀ k value, (∃ shapes, levels.get? k = some shapes ∧
          ∃ shape ∈ shapes, shape.validator.accepts value = true) ↔
        ∃ n ∈ tree.root.atDepth k, n.validator.accepts value = true := by
  intro levels
  have depths := Node.filter_level_eq (level_of_mem_addressed found)
  have met : ∀ k, k ∈ levels.keys ↔ ∃ n, n ∈ tree.root.atDepth k := by
    intro k
    simp only [← depths, List.mem_filter, decide_eq_true_eq]
    exact Levels.mem_keys_iff
  have all : ∀ k, (levels.get? k).getD [] = (tree.root.atDepth k).map Shape.ofNode := by
    intro k
    rw [← depths]
    exact Levels.get?_ofNodes tree.root.preorder k
  refine ⟨tree.root.map_snd_addressed, addresses_nodup found,
    Dict.keys_eq_of_mem_iff List.pairwise_lt_range fun k => ?_, fun k reaches => ?_,
    fun k value => ?_⟩
  · rw [List.mem_range, Nat.lt_succ_iff, met, Node.exists_mem_atDepth_iff]
  · obtain ⟨⟨_, shapes⟩, listed, rfl⟩ :=
      List.mem_map.1 ((met k).2 (Node.exists_mem_atDepth_iff.2 reaches))
    have found := Dict.get?_eq_some_iff.2 listed
    rw [found, ← all, found, Option.getD_some]
  · have accepting : (∃ shapes, levels.get? k = some shapes ∧
        ∃ shape ∈ shapes, shape.validator.accepts value = true) ↔
        ∃ shape ∈ (levels.get? k).getD [], shape.validator.accepts value = true := by
      cases levels.get? k <;> simp
    rw [accepting, all]
    constructor
    · rintro ⟨shape, hshape, accepts⟩
      obtain ⟨n, hn, rfl⟩ := List.mem_map.1 hshape
      exact ⟨n, hn, accepts⟩
    · rintro ⟨n, hn, accepts⟩
      exact ⟨.ofNode n, List.mem_map_of_mem hn, accepts⟩

/-- Routes of several depths, one of which is refused on the way. -/
def branching : List Attempt :=
  [⟨{}, "/wp/v2/posts/(?P<id>)/revisions/(?P<revision>)", ⟨"wp/v2", [.get], []⟩⟩,
    ⟨{}, "/wp/v2/posts/drafts", ⟨"wp/v2", [.get], []⟩⟩,
    ⟨{ strictPatterns := true }, "/wp/v2/posts/(?P<slug>[)", ⟨"wp/v2", [.get], []⟩⟩,
    ⟨{}, "/wp/v2/posts/(?P<id>)/autosaves", ⟨"wp/v2", [.post], []⟩⟩]

/-- The second level of posts lists the children of one position, in the order they came. -/
theorem levels_flatten_branching :
    ∃ tree, (run branching).resource? "wp/v2" "posts" = some tree ∧
      let levels := (Blueprint.ofTree {} "wp/v2" tree).value.levels
      levels.keys = [0, 1, 2, 3] ∧
        levels.get? 2 = some [⟨"revisions", .literal "revisions", none⟩,
          ⟨"autosaves", .literal "autosaves", some (.ofList [.post])⟩] := by
  have built : ((run branching).resource? "wp/v2" "posts").any (fun tree =>
      tree.root.depth = 3 ∧ (tree.root.atDepth 2).map Shape.ofNode =
        [⟨"revisions", .literal "revisions", none⟩,
          ⟨"autosaves", .literal "autosaves", some (.ofList [.post])⟩]) = true := by
    decide +kernel
  obtain ⟨tree, found, holds⟩ := (Option.any_eq_true _ _).1 built
  obtain ⟨depth, second⟩ := of_decide_eq_true holds
  obtain ⟨_, _, keys, listed, _⟩ := levels_flatten found {}
  rw [depth] at keys listed
  refine ⟨tree, found, keys, ?_⟩
  rw [← second]
  exact listed 2 (by decide)

end RouteTree
end RestRoutes
