import RestRoutes.Proofs.Compiled

/-!
Where sets of methods come from. A set gathers the methods that are supplied to it when it has them,
`get` and `head` together, and nothing else (`MethodSet.Gathers`); it is then fixed by what was
supplied. However a set is built it gathers what it was built from (`MethodSet.Built.eq_ofList`),
and all sets of a tree and of its blueprint gather the methods of the routes that end at one
position (`RouteTree.gathers_of_at?`, `Blueprint.gathers_of_mem_methodSets`).
-/
namespace RestRoutes

namespace MethodSet

/-- The set has what is supplied, and of `get` and `head` both when either is. -/
structure Gathers (s : MethodSet) (Supplied : Method → Prop) : Prop where
  paired : s.Paired
  contains_iff : ∀ m, s.contains m = true ↔
    Supplied m ∨ (m = .get ∧ Supplied .head) ∨ (m = .head ∧ Supplied .get)

theorem Gathers.unique {s t : MethodSet} {Supplied Supplied' : Method → Prop}
    (hs : s.Gathers Supplied) (ht : t.Gathers Supplied') (same : ∀ m, Supplied m ↔ Supplied' m) :
    s = t := by
  apply ext_contains
  intro m
  rw [Bool.eq_iff_iff, hs.contains_iff, ht.contains_iff, same, same, same]

theorem gathers_ofList {ms : List Method} {Supplied : Method → Prop}
    (listed : ∀ m, m ∈ ms ↔ Supplied m) : (ofList ms).Gathers Supplied where
  paired := ofList_paired ms
  contains_iff m := by
    rw [contains_ofList, ← listed, ← listed, ← listed]
    simp only [pairs, Bool.or_eq_true, Bool.and_eq_true, List.contains_iff_mem, beq_iff_eq]
    exact or_assoc.trans (or_congr_right or_comm)

theorem ofList_congr {ms ms' : List Method} (same : ∀ m, m ∈ ms ↔ m ∈ ms') :
    ofList ms = ofList ms' :=
  (gathers_ofList fun _ => .rfl).unique (gathers_ofList fun _ => .rfl) same

theorem extend_ofList (ms more : List Method) : (ofList ms).extend more = ofList (ms ++ more) := by
  rw [extend, ← union_ofList, (ofList_paired ms).ofList_toList, union_ofList]

/-- Sets that are built from listed methods, in steps. -/
inductive Built : List Method → MethodSet → Prop
  | new : Built [] .empty
  | collected (ms : List Method) : Built ms (.ofList ms)
  | extended {ms : List Method} {s : MethodSet} (more : List Method) :
      Built ms s → Built (ms ++ more) (s.extend more)
  | merged {ms ms' : List Method} {s t : MethodSet} :
      Built ms s → Built ms' t → Built (ms ++ ms') (s.union t)

/-- The steps do not matter. A union does not pair its methods, but its parts are paired. -/
theorem Built.eq_ofList {ms : List Method} {s : MethodSet} (h : Built ms s) : s = ofList ms := by
  induction h with
  | new =>
      apply ext_contains
      intro m
      cases m <;> rfl
  | collected ms => rfl
  | extended more _ ih => rw [ih, extend_ofList]
  | merged _ _ left right => rw [left, right, union_ofList]

theorem Built.gathers {ms : List Method} {s : MethodSet} (h : Built ms s) :
    s.Gathers (· ∈ ms) := by
  rw [h.eq_ofList]
  exact gathers_ofList fun _ => .rfl

end MethodSet

namespace RouteTree

/-- Trees that routes have been folded into, each with options of its own. A route that is refused
leaves no tree. -/
inductive Folded : List (String × RouteDefinition) → RouteTree → Prop
  | empty : Folded [] .empty
  | added {entries : List (String × RouteDefinition)} {t t' : RouteTree} {options : Options}
      {route : String} {d : RouteDefinition} :
      Folded entries t → (t.withRoute options route d).outcome = .ok t' →
        Folded (entries ++ [(route, d)]) t'

theorem Folded.eq_grown {entries : List (String × RouteDefinition)} {t : RouteTree}
    (h : Folded entries t) : t = grown entries := by
  induction h with
  | empty => rfl
  | added _ adds ih =>
      rw [outcome_withRoute _ _ (_, _), Build.verdict_eq_ok_iff] at adds
      rw [adds.2, ih, grown, grown, List.foldl_append]
      rfl

/-- A method of a route of the resource that ends at the position with these keys. -/
def SuppliedAt (entries : List (String × RouteDefinition)) (ns name : String) (ks : List MergeKey)
    (m : Method) : Prop :=
  ∃ b ∈ branches ns name entries, b.keys = ks ∧ m ∈ b.definition.methods

variable {entries : List (String × RouteDefinition)} {ns name : String} {tree : ResourceTree}

theorem gathers_of_at? (found : (grown entries).resource? ns name = some tree)
    {ks : List MergeKey} {n : Node} (hn : tree.root.at? ks = some n) {s : MethodSet}
    (hs : n.methods = some s) : s.Gathers (SuppliedAt entries ns name ks) := by
  rw [(reflects_of_at? found hn).eq_of_methods hs]
  refine MethodSet.gathers_ofList fun m => ?_
  simp [SuppliedAt, and_assoc]

theorem exists_gathers (found : (grown entries).resource? ns name = some tree) {n : Node}
    (hn : n ∈ tree.root.preorder) {s : MethodSet} (hs : n.methods = some s) :
    ∃ ks, s.Gathers (SuppliedAt entries ns name ks) := by
  obtain ⟨ks, hks, _⟩ := exists_at?_of_mem found hn
  exact ⟨ks, gathers_of_at? found hks hs⟩

end RouteTree

namespace Setter

/-- The sets of methods that a setter may put in place of those allowed so far. -/
def methodSets : Setter → List MethodSet
  | .dynamic _ methods => methods.toList
  | .static _ _ methods promotion => methods.toList ++ (promotion.bind (·.methods)).toList

/-- They are those of the position and of the one that a value is passed on to. -/
theorem exists_node_of_mem_methodSets {options : Options} {n : Node} {s : MethodSet}
    (h : s ∈ (ofNode options n).methodSets) :
    ∃ m, (m = n ∨ m ∈ n.children) ∧ m.methods = some s := by
  unfold ofNode at h
  split at h
  · exact ⟨n, .inl rfl, Option.mem_toList.1 h⟩
  · rw [methodSets, List.mem_append, Option.mem_toList, Option.mem_toList] at h
    rcases h with own | passed
    · exact ⟨n, .inl rfl, own⟩
    · obtain ⟨p, promotes, methods⟩ := Option.bind_eq_some_iff.1 passed
      split at promotes
      · obtain ⟨child, below, rfl⟩ := exists_child_of_promotion? promotes
        exact ⟨child, .inr below, methods⟩
      · cases promotes

/-- Setters bring methods of the routes that end at one position. -/
theorem gathers_of_mem_methodSets {entries : List (String × RouteDefinition)} {ns name : String}
    {tree : ResourceTree} (found : (RouteTree.grown entries).resource? ns name = some tree)
    {options : Options} {n : Node} (hn : n ∈ tree.root.preorder) {s : MethodSet}
    (h : s ∈ (ofNode options n).methodSets) :
    ∃ ks, s.Gathers (RouteTree.SuppliedAt entries ns name ks) := by
  obtain ⟨m, rfl | below, hs⟩ := exists_node_of_mem_methodSets h
  · exact RouteTree.exists_gathers found hn hs
  · have inside := (RouteTree.distinct_root found).mem_preorder_of_child hn below
    exact RouteTree.exists_gathers found inside hs

end Setter

theorem Levels.exists_node {nodes : List Node} {level : Nat} {shapes : List Shape}
    (listed : (ofNodes nodes).get? level = some shapes) {shape : Shape} (h : shape ∈ shapes) :
    ∃ n ∈ nodes, Shape.ofNode n = shape := by
  have all := get?_ofNodes nodes level
  rw [listed, Option.getD_some] at all
  rw [all] at h
  obtain ⟨n, hn, made⟩ := List.mem_map.1 h
  exact ⟨n, (List.mem_filter.1 hn).1, made⟩

namespace Blueprint

/-- All sets of methods in a blueprint: those of its shapes, and those of its setters and of what
they pass values on to. -/
def methodSets (b : Blueprint) : List MethodSet :=
  b.levels.values.flatMap (·.filterMap (·.methods)) ++
    b.setters.entries.values.flatMap (·.setter.methodSets)

theorem gathers_of_mem_methodSets {entries : List (String × RouteDefinition)} {ns name : String}
    {tree : ResourceTree} (found : (RouteTree.grown entries).resource? ns name = some tree)
    {options : Options} {s : MethodSet} (h : s ∈ (ofTree options ns tree).value.methodSets) :
    ∃ ks, s.Gathers (RouteTree.SuppliedAt entries ns name ks) := by
  rcases List.mem_append.1 h with shaped | set_by
  · obtain ⟨shapes, hshapes, member⟩ := List.mem_flatMap.1 shaped
    obtain ⟨shape, hshape, hs⟩ := List.mem_filterMap.1 member
    obtain ⟨⟨level, _⟩, listed, rfl⟩ := List.mem_map.1 hshapes
    obtain ⟨n, hn, rfl⟩ := Levels.exists_node (Dict.get?_eq_some_iff.2 listed) hshape
    exact RouteTree.exists_gathers found hn hs
  · obtain ⟨entry, hentry, member⟩ := List.mem_flatMap.1 set_by
    obtain ⟨⟨label, _⟩, listed, rfl⟩ := List.mem_map.1 hentry
    rw [setters_ofTree] at listed
    obtain ⟨c, hc, _, setter⟩ := AliasTable.exists_candidate (Dict.get?_eq_some_iff.2 listed)
    obtain ⟨n, hn, _, _, _, rfl⟩ := mem_candidates.1 hc
    rw [← setter] at member
    exact Setter.gathers_of_mem_methodSets found hn member

end Blueprint

def RouteMap.withMethods (routes : RouteMap) (listing : String → List Method) : RouteMap where
  entries := routes.entries.map fun entry => (entry.1, { entry.2 with methods := listing entry.1 })
  ascending := List.pairwise_map.2 routes.ascending

theorem RouteTree.withRoute_congr (t : RouteTree) (options : Options) (route : String)
    (d : RouteDefinition) {ms : List Method}
    (same : MethodSet.ofList ms = MethodSet.ofList d.methods) :
    t.withRoute options route { d with methods := ms } = t.withRoute options route d := by
  unfold withRoute
  simp only [insert_congr t d same]

theorem RouteTree.foldlM_withMethods (options : Options) (t : RouteTree)
    {entries : List (String × RouteDefinition)} {listing : String → List Method}
    (same : ∀ entry ∈ entries, ∀ m, m ∈ listing entry.1 ↔ m ∈ entry.2.methods) :
    (entries.map fun entry => (entry.1, { entry.2 with methods := listing entry.1 })).foldlM
        (fun t entry => t.withRoute options entry.1 entry.2) t =
      entries.foldlM (fun t entry => t.withRoute options entry.1 entry.2) t := by
  induction entries generalizing t with
  | nil => rfl
  | cons entry entries ih =>
      have first := MethodSet.ofList_congr (same entry List.mem_cons_self)
      have rest := fun t' => ih t' fun e he => same e (List.mem_cons_of_mem _ he)
      rw [List.map_cons, List.foldlM_cons, List.foldlM_cons,
        withRoute_congr t options entry.1 entry.2 first]
      exact congrArg _ (funext rest)

/-- Listing methods in another order, or more than once, changes no step of folding the routes. -/
theorem RouteTree.ofRoutes_withMethods (options : Options) {routes : RouteMap}
    {listing : String → List Method}
    (same : ∀ entry ∈ routes.entries, ∀ m, m ∈ listing entry.1 ↔ m ∈ entry.2.methods) :
    ofRoutes options (routes.withMethods listing) = ofRoutes options routes :=
  foldlM_withMethods options empty same

theorem Catalog.bootstrap_withMethods (options : Options) (mixins : MixinTable) {routes : RouteMap}
    {listing : String → List Method}
    (same : ∀ entry ∈ routes.entries, ∀ m, m ∈ listing entry.1 ↔ m ∈ entry.2.methods) :
    bootstrap options mixins (routes.withMethods listing) = bootstrap options mixins routes := by
  have size : (routes.withMethods listing).size = routes.size := List.length_map _
  unfold bootstrap
  rw [RouteTree.ofRoutes_withMethods options same, size]

theorem Registration.endpoint_withMethods (r : Registration) (ns base : String)
    {ms ms' : List Method} (same : ∀ m, m ∈ ms ↔ m ∈ ms') :
    { r with methods := some ms }.endpoint ns base =
      { r with methods := some ms' }.endpoint ns base := by
  unfold endpoint mixin
  simp only [Option.map_some, MethodSet.ofList_congr same]

end RestRoutes
