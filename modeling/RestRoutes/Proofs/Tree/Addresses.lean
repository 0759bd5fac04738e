import RestRoutes.Proofs.Tree.Position

/-!
Positions together with the keys on the way down to them. Where no two children of a position share
a key, each position has an address of its own, so two trees that say the same at the end of every
sequence of keys list the same, whatever order their children stand in (`Distinct.preorder_perm`).
-/
namespace RestRoutes

/-- Lists whose entries have keys of their own say the same if they do so for every key. -/
theorem perm_of_keyed {κ α β : Type} {f : α → β} {es fs : List (κ × α)}
    (he : (es.map (·.1)).Nodup) (hf : (fs.map (·.1)).Nodup)
    (same : ∀ k b, (∃ a, (k, a) ∈ es ∧ f a = b) ↔ ∃ a, (k, a) ∈ fs ∧ f a = b) :
    (es.map fun e => f e.2).Perm (fs.map fun e => f e.2) := by
  have nodup : ∀ {gs : List (κ × α)}, (gs.map (·.1)).Nodup →
      (gs.map fun e => (e.1, f e.2)).Nodup := by
    intro gs h
    have firsts : (gs.map fun e => (e.1, f e.2)).map (·.1) = gs.map (·.1) := by
      rw [List.map_map]
      rfl
    exact List.Pairwise.of_map _ (fun _ _ differ e => differ (congrArg Prod.fst e)) (firsts ▸ h)
  have members : ∀ {gs : List (κ × α)} {p : κ × β},
      p ∈ (gs.map fun e => (e.1, f e.2)) ↔ ∃ a, (p.1, a) ∈ gs ∧ f a = p.2 := by
    intro gs p
    rw [List.mem_map]
    constructor
    · rintro ⟨⟨k, a⟩, there, rfl⟩
      exact ⟨a, there, rfl⟩
    · rintro ⟨a, there, value⟩
      exact ⟨(p.1, a), there, by rw [value]⟩
  have keyed : (es.map fun e => (e.1, f e.2)).Perm (fs.map fun e => (e.1, f e.2)) :=
    (List.perm_ext_iff_of_nodup (nodup he) (nodup hf)).2 fun p => by
      rw [members, members, same]
  have values := keyed.map (·.2)
  rwa [List.map_map, List.map_map] at values

namespace Node

mutual

/-- The position and all below it, each with its keys and before its children. -/
def addressed : Node → List (List MergeKey × Node)
  | n@⟨_, _, _, _, _, _, _, none⟩ => [([], n)]
  | n@⟨_, _, _, _, _, _, _, some children⟩ => ([], n) :: addressedAll children

def addressedAll : List Node → List (List MergeKey × Node)
  | [] => []
  | n :: ns => n.addressed.map (fun p => (n.key :: p.1, p.2)) ++ addressedAll ns

end

theorem addressedAll_eq_flatMap (ns : List Node) :
    addressedAll ns = ns.flatMap fun n => n.addressed.map fun p => (n.key :: p.1, p.2) := by
  induction ns with
  | nil => rfl
  | cons n ns ih => rw [addressedAll, ih, List.flatMap_cons]

theorem addressed_eq (n : Node) :
    n.addressed =
      ([], n) :: n.children.flatMap fun c => c.addressed.map fun p => (c.key :: p.1, p.2) := by
  obtain ⟨_, _, _, _, _, _, _, _ | children⟩ := n
  · rfl
  · rw [addressed, addressedAll_eq_flatMap]
    rfl

theorem map_snd_addressed (n : Node) : n.addressed.map (·.2) = n.preorder := by
  induction n using induct with
  | step n ih =>
      rw [addressed_eq, preorder_eq, List.map_cons, List.map_flatMap]
      have below : ∀ c ∈ n.children,
          (c.addressed.map fun p => (c.key :: p.1, p.2)).map (·.2) = c.preorder := by
        intro c hc
        rw [List.map_map]
        exact ih c hc
      rw [List.flatMap_def, List.flatMap_def, List.map_congr_left below]

theorem key_of_child? {n c : Node} {k : MergeKey} (h : n.child? k = some c) : c.key = k := by
  simpa using List.find?_some h

theorem mem_addressed_cons {n m : Node} {k : MergeKey} {ks : List MergeKey} :
    (k :: ks, m) ∈ n.addressed ↔ ∃ c ∈ n.children, c.key = k ∧ (ks, m) ∈ c.addressed := by
  rw [addressed_eq, List.mem_cons, List.mem_flatMap]
  constructor
  · rintro (same | ⟨c, hc, below⟩)
    · cases same
    · obtain ⟨⟨ls, m'⟩, there, same⟩ := List.mem_map.1 below
      cases same
      exact ⟨c, hc, rfl, there⟩
  · rintro ⟨c, hc, rfl, there⟩
    exact .inr ⟨c, hc, List.mem_map.2 ⟨(ks, m), there, rfl⟩⟩

theorem mem_addressed_nil {n m : Node} : ([], m) ∈ n.addressed ↔ m = n := by
  rw [addressed_eq]
  simp

theorem Distinct.mem_addressed_iff {n : Node} (h : n.Distinct) {ks : List MergeKey} {m : Node} :
    (ks, m) ∈ n.addressed ↔ n.at? ks = some m := by
  induction ks generalizing n with
  | nil => rw [mem_addressed_nil, at?, Option.some.injEq, eq_comm]
  | cons k ks ih =>
      rw [mem_addressed_cons, at?, Option.bind_eq_some_iff]
      constructor
      · rintro ⟨c, hc, rfl, there⟩
        exact ⟨c, h.child?_of_mem hc, (ih (h.of_mem hc)).1 there⟩
      · rintro ⟨c, hc, there⟩
        have inside := mem_of_child? hc
        exact ⟨c, inside, key_of_child? hc, (ih (h.of_mem inside)).2 there⟩

theorem Distinct.addresses_nodup {n : Node} (h : n.Distinct) : (n.addressed.map (·.1)).Nodup := by
  induction n using induct with
  | step n ih =>
      rw [addressed_eq, List.map_cons, List.map_flatMap]
      refine List.nodup_cons.2 ⟨by simp, List.pairwise_flatMap.2 ⟨fun c hc => ?_, ?_⟩⟩
      · have deeper : (c.addressed.map fun p => (c.key :: p.1, p.2)).map (·.1) =
            (c.addressed.map (·.1)).map (c.key :: ·) := by
          rw [List.map_map, List.map_map]
          rfl
        rw [deeper]
        refine List.Pairwise.map _ (fun _ _ differ e => ?_) (ih c hc (h.of_mem hc))
        exact differ (List.cons.inj e).2
      · -- Addresses below different children begin differently.
        refine (List.pairwise_map.1 h.keys).imp fun differ x hx y hy e => ?_
        obtain ⟨p, hp, rfl⟩ := List.mem_map.1 hx
        obtain ⟨q, hq, rfl⟩ := List.mem_map.1 hy
        obtain ⟨_, _, rfl⟩ := List.mem_map.1 hp
        obtain ⟨_, _, rfl⟩ := List.mem_map.1 hq
        exact differ (List.cons.inj e).1

/-- Two trees that say the same at the end of every sequence of keys list the same. -/
theorem Distinct.preorder_perm {β : Type} {n m : Node} (hn : n.Distinct) (hm : m.Distinct)
    {f : Node → β} (same : ∀ ks, (n.at? ks).map f = (m.at? ks).map f) :
    (n.preorder.map f).Perm (m.preorder.map f) := by
  have listed := perm_of_keyed (f := f) hn.addresses_nodup hm.addresses_nodup fun ks b => by
    simp only [hn.mem_addressed_iff, hm.mem_addressed_iff, ← Option.map_eq_some_iff, same]
  rw [← map_snd_addressed n, ← map_snd_addressed m, List.map_map, List.map_map]
  exact listed

theorem Distinct.children_perm {β : Type} {n m : Node} (hn : n.Distinct) (hm : m.Distinct)
    {f : Node → β} (same : ∀ k, (n.child? k).map f = (m.child? k).map f) :
    (n.children.map f).Perm (m.children.map f) := by
  have keys : ∀ {l : Node}, l.Distinct →
      ((l.children.map fun c => (c.key, c)).map (·.1)).Nodup := by
    intro l h
    rw [List.map_map]
    exact h.keys
  have members : ∀ {l : Node}, l.Distinct → ∀ {k c},
      (k, c) ∈ (l.children.map fun c => (c.key, c)) ↔ l.child? k = some c := by
    intro l h k c
    rw [List.mem_map]
    constructor
    · rintro ⟨c', hc, e⟩
      cases e
      exact h.child?_of_mem hc
    · intro found
      exact ⟨c, mem_of_child? found, by rw [key_of_child? found]⟩
  have listed := perm_of_keyed (f := f) (keys hn) (keys hm) fun k b => by
    simp only [members hn, members hm, ← Option.map_eq_some_iff, same]
  rwa [List.map_map, List.map_map] at listed

end Node
end RestRoutes
