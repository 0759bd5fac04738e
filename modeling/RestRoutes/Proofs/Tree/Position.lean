import RestRoutes.Tree.Node

/-!
Positions of a tree by the keys on the way down to them. Where no two children of a position share a
key, a sequence of keys leads to at most one position (`nodesAt_eq_toList`), and every position of
the tree is at the end of one (`exists_at?`).
-/
namespace RestRoutes.Node

theorem induct {P : Node → Prop} (step : ∀ n, (∀ c ∈ n.children, P c) → P n) : ∀ n, P n
  | ⟨_, _, _, _, _, _, _, none⟩ => step _ fun _ hc => (List.not_mem_nil hc).elim
  | ⟨_, _, _, _, _, _, _, some children⟩ => step _ fun c _ => induct step c
termination_by n => n
decreasing_by
  have := List.sizeOf_lt_of_mem (show c ∈ children from ‹_›)
  simp only [mk.sizeOf_spec, Option.some.sizeOf_spec]
  omega

theorem preorderAll_eq_flatMap (ns : List Node) : preorderAll ns = ns.flatMap preorder := by
  induction ns with
  | nil => rfl
  | cons n ns ih => rw [preorderAll, ih, List.flatMap_cons]

theorem preorder_eq (n : Node) : n.preorder = n :: n.children.flatMap preorder := by
  obtain ⟨_, _, _, _, _, _, _, _ | children⟩ := n
  · rfl
  · rw [preorder, preorderAll_eq_flatMap]
    rfl

def child? (n : Node) (k : MergeKey) : Option Node := n.children.find? (·.key = k)

/-- Goes down from a position, each time to the first child with the next key. -/
def at? (n : Node) : List MergeKey → Option Node
  | [] => some n
  | k :: ks => (n.child? k).bind (·.at? ks)

def nodesAt (n : Node) : List MergeKey → List Node
  | [] => [n]
  | k :: ks => (n.children.filter (·.key = k)).flatMap (·.nodesAt ks)

/-- No two children share a key, here and everywhere below. -/
inductive Distinct : Node → Prop
  | intro {n : Node} : (n.children.map key).Nodup → (∀ c ∈ n.children, Distinct c) → Distinct n

theorem mem_of_child? {n c : Node} {k : MergeKey} (h : n.child? k = some c) : c ∈ n.children :=
  List.mem_of_find?_eq_some h

theorem Distinct.keys {n : Node} (h : n.Distinct) : (n.children.map key).Nodup := by
  cases h with
  | intro keys _ => exact keys

theorem Distinct.of_mem {n c : Node} (h : n.Distinct) (hc : c ∈ n.children) : c.Distinct := by
  cases h with
  | intro _ below => exact below c hc

theorem filter_key_eq {ns : List Node} (h : (ns.map key).Nodup) (k : MergeKey) :
    ns.filter (·.key = k) = (ns.find? (·.key = k)).toList := by
  induction ns with
  | nil => rfl
  | cons n ns ih =>
      obtain ⟨fresh, rest⟩ := List.nodup_cons.1 h
      by_cases hk : n.key = k
      · have none_left : ns.filter (·.key = k) = [] := by
          rw [List.filter_eq_nil_iff]
          intro m hm same
          exact fresh (List.mem_map.2 ⟨m, hm, (of_decide_eq_true same).trans hk.symm⟩)
        simp [hk, none_left]
      · simpa [hk] using ih rest

theorem Distinct.nodesAt_eq_toList {n : Node} (h : n.Distinct) (ks : List MergeKey) :
    n.nodesAt ks = (n.at? ks).toList := by
  induction ks generalizing n with
  | nil => rfl
  | cons k ks ih =>
      rw [nodesAt, at?, filter_key_eq h.keys]
      cases hc : n.child? k with
      | none =>
          rw [child?] at hc
          simp [hc]
      | some c =>
          have below := ih (h.of_mem (mem_of_child? hc))
          rw [child?] at hc
          simpa [hc] using below

theorem Distinct.child?_of_mem {n c : Node} (h : n.Distinct) (hc : c ∈ n.children) :
    n.child? c.key = some c := by
  have found : c ∈ n.children.filter (·.key = c.key) := List.mem_filter.2 ⟨hc, by simp⟩
  rw [filter_key_eq h.keys] at found
  exact Option.mem_toList.1 found

theorem at?_append (n : Node) (ks ls : List MergeKey) :
    n.at? (ks ++ ls) = (n.at? ks).bind (·.at? ls) := by
  induction ks generalizing n with
  | nil => rfl
  | cons k ks ih =>
      rw [List.cons_append, at?, at?, Option.bind_assoc]
      exact congrArg (Option.bind _) (funext ih)

theorem mem_preorder_of_at? {n m : Node} {ks : List MergeKey} (h : n.at? ks = some m) :
    m ∈ n.preorder := by
  induction ks generalizing n with
  | nil =>
      cases h
      rw [preorder_eq]
      exact List.mem_cons_self
  | cons k ks ih =>
      rw [at?, Option.bind_eq_some_iff] at h
      obtain ⟨c, hc, hm⟩ := h
      rw [preorder_eq]
      exact List.mem_cons_of_mem _ (List.mem_flatMap.2 ⟨c, mem_of_child? hc, ih hm⟩)

theorem Distinct.exists_at? {n : Node} (h : n.Distinct) {m : Node} (hm : m ∈ n.preorder) :
    ∃ ks, n.at? ks = some m := by
  induction n using induct with
  | step n ih =>
      rw [preorder_eq] at hm
      rcases List.mem_cons.1 hm with rfl | below
      · exact ⟨[], rfl⟩
      · obtain ⟨c, hc, hmc⟩ := List.mem_flatMap.1 below
        obtain ⟨ks, hks⟩ := ih c hc (h.of_mem hc) hmc
        exact ⟨c.key :: ks, by rw [at?, h.child?_of_mem hc]; exact hks⟩

theorem Distinct.of_at? {n m : Node} (h : n.Distinct) {ks : List MergeKey}
    (hm : n.at? ks = some m) : m.Distinct := by
  induction ks generalizing n with
  | nil => cases hm; exact h
  | cons k ks ih =>
      rw [at?, Option.bind_eq_some_iff] at hm
      obtain ⟨c, hc, hm⟩ := hm
      exact ih (h.of_mem (mem_of_child? hc)) hm

theorem Distinct.at?_of_child {n m c : Node} (h : n.Distinct) {ks : List MergeKey}
    (hm : n.at? ks = some m) (hc : c ∈ m.children) : n.at? (ks ++ [c.key]) = some c := by
  rw [at?_append, hm, Option.bind_some, at?, (h.of_at? hm).child?_of_mem hc]
  rfl

theorem Distinct.mem_preorder_of_child {n m c : Node} (h : n.Distinct) (hm : m ∈ n.preorder)
    (hc : c ∈ m.children) : c ∈ n.preorder := by
  obtain ⟨ks, hks⟩ := h.exists_at? hm
  exact mem_preorder_of_at? (h.at?_of_child hks hc)

/-- Each position of a list is a child of the one before it. -/
def Descent : Node → List Node → Prop
  | _, [] => True
  | n, c :: rest => c ∈ n.children ∧ c.Descent rest

end RestRoutes.Node
