import RestRoutes.Catalog
import RestRoutes.Proofs.Labels
import RestRoutes.Proofs.Tree.Places

/-!
What a catalog is made from. Bootstrapping fails for the first route that is refused, or else for
the conflicts of all resources, and otherwise gives the catalog of one tree
(`Catalog.outcome_bootstrap`). Each resource of the tree has its own endpoint there
(`Catalog.get?_ofTree`).
-/
namespace RestRoutes

namespace RouteTree

theorem mem_treeEntries_iff {t : RouteTree} {ns : String} {tree : ResourceTree} :
    (ns, tree) ∈ Catalog.treeEntries t ↔ ∃ name, t.resource? ns name = some tree := by
  unfold Catalog.treeEntries resource?
  constructor
  · intro h
    obtain ⟨⟨ns', known⟩, hns, h⟩ := List.mem_flatMap.1 h
    obtain ⟨tree', htree, same⟩ := List.mem_map.1 h
    cases same
    obtain ⟨⟨name, _⟩, hname, rfl⟩ := List.mem_map.1 htree
    refine ⟨name, ?_⟩
    rw [Dict.get?_eq_some_iff.2 hns, Option.bind_some]
    exact Dict.get?_eq_some_iff.2 hname
  · rintro ⟨name, h⟩
    obtain ⟨known, hns, hname⟩ := Option.bind_eq_some_iff.1 h
    refine List.mem_flatMap.2 ⟨(ns, known), Dict.get?_eq_some_iff.1 hns, ?_⟩
    refine List.mem_map.2 ⟨tree, List.mem_map.2 ⟨(name, tree), ?_, rfl⟩, rfl⟩
    exact Dict.get?_eq_some_iff.1 hname

/-- A resource is listed with its own name. -/
theorem mem_treeEntries_grown_iff {entries : List (String × RouteDefinition)} {ns : String}
    {tree : ResourceTree} : (ns, tree) ∈ Catalog.treeEntries (grown entries) ↔
      (grown entries).resource? ns tree.name = some tree := by
  rw [mem_treeEntries_iff]
  constructor
  · rintro ⟨name, h⟩
    rw [name_of_resource? h]
    exact h
  · intro h
    exact ⟨tree.name, h⟩

end RouteTree

namespace Catalog

def get? (c : Catalog) (ns name : String) : Option Endpoint :=
  (c.namespaces.get? ns).bind (·.get? name)

theorem resource_eq_ok_iff {c : Catalog} {ns name : String} {e : Endpoint} :
    c.resource ns name = .ok e ↔ c.get? ns name = some e := by
  unfold resource resources get?
  cases c.namespaces.get? ns with
  | none => simp [bind, Except.bind]
  | some known =>
      cases found : known.get? name <;>
        simp [bind, Except.bind, pure, Except.pure, throw, throwThe, MonadExceptOf.throw, found]

theorem mem_endpoints_iff {c : Catalog} {e : Endpoint} :
    e ∈ c.endpoints ↔ ∃ ns name, c.get? ns name = some e := by
  unfold endpoints get?
  constructor
  · intro h
    obtain ⟨known, hknown, he⟩ := List.mem_flatMap.1 h
    obtain ⟨⟨ns, _⟩, hns, rfl⟩ := List.mem_map.1 hknown
    obtain ⟨⟨name, _⟩, hname, rfl⟩ := List.mem_map.1 he
    refine ⟨ns, name, ?_⟩
    rw [Dict.get?_eq_some_iff.2 hns, Option.bind_some]
    exact Dict.get?_eq_some_iff.2 hname
  · rintro ⟨ns, name, h⟩
    obtain ⟨known, hns, hname⟩ := Option.bind_eq_some_iff.1 h
    refine List.mem_flatMap.2 ⟨known, List.mem_map.2 ⟨(ns, known), ?_, rfl⟩, ?_⟩
    · exact Dict.get?_eq_some_iff.1 hns
    · exact List.mem_map.2 ⟨(name, e), Dict.get?_eq_some_iff.1 hname, rfl⟩

theorem get?_insert (c : Catalog) (e : Endpoint) (ns name : String) :
    (c.insert e).get? ns name =
      if e.ns = ns ∧ e.resource = name then some e else c.get? ns name := by
  unfold insert get?
  by_cases hns : e.ns = ns
  · subst hns
    rw [Dict.get?_insert_self, Option.bind_some]
    by_cases hname : e.resource = name
    · subst hname
      rw [Dict.get?_insert_self, if_pos ⟨rfl, rfl⟩]
    · rw [Dict.get?_insert_of_ne _ _ (Ne.symm hname), if_neg fun h => hname h.2]
      cases c.namespaces.get? e.ns <;> rfl
  · rw [Dict.get?_insert_of_ne _ _ (Ne.symm hns), if_neg fun h => hns h.1]

theorem mem_of_get?_foldl_insert {c : Catalog} {es : List Endpoint} {ns name : String}
    {e : Endpoint} (h : (es.foldl insert c).get? ns name = some e) :
    (e ∈ es ∧ e.ns = ns ∧ e.resource = name) ∨ c.get? ns name = some e := by
  induction es generalizing c with
  | nil => exact .inr h
  | cons first es ih =>
      rcases ih h with ⟨later, place⟩ | before
      · exact .inl ⟨List.mem_cons_of_mem _ later, place⟩
      · rw [get?_insert] at before
        split at before
        · next here =>
            cases before
            exact .inl ⟨List.mem_cons_self, here⟩
        · exact .inr before

theorem isSome_get?_foldl_insert {c : Catalog} {es : List Endpoint} {ns name : String}
    (h : (c.get? ns name).isSome ∨ ∃ e ∈ es, e.ns = ns ∧ e.resource = name) :
    ((es.foldl insert c).get? ns name).isSome := by
  induction es generalizing c with
  | nil => simpa using h
  | cons first es ih =>
      refine ih ?_
      rw [get?_insert]
      rcases h with known | ⟨e, he, place⟩
      · left
        split
        · rfl
        · exact known
      · rcases List.mem_cons.1 he with rfl | later
        · left
          rw [if_pos place, Option.isSome_some]
        · exact .inr ⟨e, later, place⟩

def compile (options : Options) (mixins : MixinTable) (entry : String × ResourceTree) : Endpoint :=
  .ofTree options entry.1 entry.2 (entry.2.getArgs.keys.filterMap mixins.get?)

theorem value_addTree (options : Options) (mixins : MixinTable) (c : Catalog)
    (entry : String × ResourceTree) :
    (addTree options mixins c entry).value = c.insert (compile options mixins entry) := by
  simp only [addTree, Logged.value_bind, Logged.value_pure, Endpoint.value_ofBlueprint]
  rfl

def ofTree (options : Options) (mixins : MixinTable) (t : RouteTree) : Catalog :=
  ((treeEntries t).map (compile options mixins)).foldl insert empty

/-- Why a catalog is refused, if conflicts are not put up with. -/
def refusal? (options : Options) (c : Catalog) : Option Error :=
  if options.failOnAliasConflict && !c.conflicts.isEmpty then some (.aliasConflicts c.conflicts)
  else none

theorem outcome_bootstrap (options : Options) (mixins : MixinTable) (routes : RouteMap) :
    (bootstrap options mixins routes).outcome =
      Build.verdict ((routes.entries.findSome? (RouteTree.refusal? options)).or
          (refusal? options (ofTree options mixins (.grown routes.entries))))
        (ofTree options mixins (.grown routes.entries)) := by
  have made : ((treeEntries (.grown routes.entries)).foldlM (addTree options mixins) empty).value =
      ofTree options mixins (.grown routes.entries) := by
    rw [Logged.value_foldlM, ofTree, List.foldl_map]
    simp only [value_addTree]
  unfold bootstrap
  refine Build.outcome_bind_verdict (RouteTree.outcome_ofList_eq options routes.entries) ?_
  rw [Build.outcome_bind_ok (Build.outcome_lift _), Build.outcome_note_bind, made, refusal?]
  split <;> rfl

theorem eq_of_bootstrap {options : Options} {mixins : MixinTable} {routes : RouteMap}
    {catalog : Catalog} (h : (bootstrap options mixins routes).outcome = .ok catalog) :
    catalog = ofTree options mixins (.grown routes.entries) := by
  rw [outcome_bootstrap, Build.verdict_eq_ok_iff] at h
  exact h.2

/-- Where there is a resource there is its endpoint, and there are no others. -/
theorem get?_ofTree (options : Options) (mixins : MixinTable)
    (entries : List (String × RouteDefinition)) (ns name : String) :
    (ofTree options mixins (.grown entries)).get? ns name =
      ((RouteTree.grown entries).resource? ns name).map fun tree =>
        compile options mixins (ns, tree) := by
  have source : ∀ e, (ofTree options mixins (.grown entries)).get? ns name = some e →
      ∃ tree, (RouteTree.grown entries).resource? ns name = some tree ∧
        e = compile options mixins (ns, tree) := by
    intro e he
    rcases mem_of_get?_foldl_insert he with ⟨made, hns, hname⟩ | absent
    · obtain ⟨⟨ns', tree⟩, listed, rfl⟩ := List.mem_map.1 made
      rw [compile, Endpoint.ns_ofTree] at hns
      rw [compile, Endpoint.resource_ofTree] at hname
      subst hns hname
      exact ⟨tree, RouteTree.mem_treeEntries_grown_iff.1 listed, rfl⟩
    · cases absent
  cases found : (RouteTree.grown entries).resource? ns name with
  | none =>
      cases he : (ofTree options mixins (.grown entries)).get? ns name with
      | none => rfl
      | some e =>
          obtain ⟨tree, there, _⟩ := source e he
          cases found.symm.trans there
  | some tree =>
      have listed : (ns, tree) ∈ treeEntries (.grown entries) :=
        RouteTree.mem_treeEntries_iff.2 ⟨name, found⟩
      have place : (compile options mixins (ns, tree)).ns = ns ∧
          (compile options mixins (ns, tree)).resource = name :=
        ⟨Endpoint.ns_ofTree, Endpoint.resource_ofTree.trans (RouteTree.name_of_resource? found)⟩
      have present : ((ofTree options mixins (.grown entries)).get? ns name).isSome = true :=
        isSome_get?_foldl_insert (.inr ⟨_, List.mem_map_of_mem listed, place⟩)
      obtain ⟨e, he⟩ := Option.isSome_iff_exists.1 present
      obtain ⟨tree', there, rfl⟩ := source e he
      cases found.symm.trans there
      exact he

theorem exists_of_bind {options : Options} {mixins : MixinTable} {routes : RouteMap}
    {ns name : String} {e : Endpoint}
    (h : (bootstrap options mixins routes).outcome.bind (·.resource ns name) = .ok e) :
    ∃ catalog, (bootstrap options mixins routes).outcome = .ok catalog ∧
      catalog.resource ns name = .ok e := by
  cases made : (bootstrap options mixins routes).outcome with
  | error err => rw [made] at h; cases h
  | ok catalog => exact ⟨catalog, rfl, by rw [made] at h; exact h⟩

theorem exists_tree_of_bootstrap {options : Options} {mixins : MixinTable} {routes : RouteMap}
    {catalog : Catalog} (h : (bootstrap options mixins routes).outcome = .ok catalog)
    {ns name : String} {e : Endpoint} (he : catalog.resource ns name = .ok e) :
    ∃ tree ms, (RouteTree.grown routes.entries).resource? ns name = some tree ∧
      e = .ofTree options ns tree ms := by
  rw [resource_eq_ok_iff, eq_of_bootstrap h, get?_ofTree] at he
  obtain ⟨tree, found, rfl⟩ := Option.map_eq_some_iff.1 he
  exact ⟨tree, _, found, rfl⟩

end Catalog
end RestRoutes
