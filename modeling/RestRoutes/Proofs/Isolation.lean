import RestRoutes.Proofs.Strictness

/-!
Resources on their own. The endpoint of a resource is made from the routes that name the resource
first in its namespace; all other routes of a map, usable or not, are no matter to it
(`Catalog.endpoint_of_own_routes`).
-/
namespace RestRoutes

namespace RouteTree

/-- A route that leads to a resource or to something below it. Routes that are skipped lead
nowhere. -/
def LeadsTo (ns name : String) (entry : String × RouteDefinition) : Prop :=
  entry.2.ns = ns ∧ (componentsOf entry.1 entry.2).head? = some name

instance (ns name : String) : DecidablePred (LeadsTo ns name) :=
  fun _ => inferInstanceAs (Decidable (_ ∧ _))

theorem branch?_isSome_iff {ns name : String} {entry : String × RouteDefinition} :
    (branch? ns name entry).isSome = true ↔ LeadsTo ns name entry := by
  unfold branch? LeadsTo
  cases componentsOf entry.1 entry.2 with
  | nil => simp
  | cons text rest => by_cases here : entry.2.ns = ns ∧ text = name <;> simp [here]

theorem branches_ne_nil_iff {ns name : String} {entries : List (String × RouteDefinition)} :
    branches ns name entries ≠ [] ↔ ∃ entry ∈ entries, LeadsTo ns name entry := by
  simp [branches, List.filterMap_eq_nil_iff, ← branch?_isSome_iff, Option.isSome_iff_ne_none]

end RouteTree

def RouteMap.ofResource (routes : RouteMap) (ns name : String) : RouteMap where
  entries := routes.entries.filter fun entry => RouteTree.LeadsTo ns name entry
  ascending := routes.ascending.sublist List.filter_sublist

theorem RouteMap.ofResource_ofResource (routes : RouteMap) (ns name : String) :
    (routes.ofResource ns name).ofResource ns name = routes.ofResource ns name := by
  unfold ofResource
  simp only [List.filter_filter, Bool.and_self]

namespace RouteTree

variable {routes : RouteMap} {ns name : String}

theorem leadsTo_of_mem_ofResource {entry : String × RouteDefinition}
    (h : entry ∈ (routes.ofResource ns name).entries) :
    entry ∈ routes.entries ∧ LeadsTo ns name entry := by
  obtain ⟨member, leads⟩ := List.mem_filter.1 h
  exact ⟨member, of_decide_eq_true leads⟩

theorem branches_ofResource (routes : RouteMap) (ns name : String) :
    branches ns name (routes.ofResource ns name).entries = branches ns name routes.entries := by
  unfold branches RouteMap.ofResource
  rw [List.filterMap_filter]
  congr 1
  funext entry
  split
  · rfl
  · next elsewhere =>
      rw [decide_eq_true_iff, ← branch?_isSome_iff] at elsewhere
      exact (Option.not_isSome_iff_eq_none.1 elsewhere).symm

theorem resource?_ofResource (routes : RouteMap) (ns name : String) :
    (grown (routes.ofResource ns name).entries).resource? ns name =
      (grown routes.entries).resource? ns name := by
  rw [resource?_grown, resource?_grown, branches_ofResource]

theorem eq_of_resource?_ofResource {ns' name' : String} {tree : ResourceTree}
    (h : (grown (routes.ofResource ns name).entries).resource? ns' name' = some tree) :
    ns' = ns ∧ name' = name := by
  have some_routes := (resource?_isSome_iff _ ns' name').1 (by rw [h, Option.isSome_some])
  obtain ⟨entry, member, hns', hname'⟩ := branches_ne_nil_iff.1 some_routes
  obtain ⟨_, hns, hname⟩ := leadsTo_of_mem_ofResource member
  exact ⟨hns'.symm.trans hns, Option.some.inj (hname'.symm.trans hname)⟩

end RouteTree

namespace Catalog

variable {options : Options} {mixins : MixinTable} {routes : RouteMap} {c : Catalog}

theorem conflicts_eq_nil_iff : c.conflicts = [] ↔
    ∀ ns name e, c.get? ns name = some e → e.conflicts = [] := by
  rw [conflicts, List.flatMap_eq_nil_iff]
  simp only [mem_endpoints_iff]
  constructor
  · intro h ns name e he
    exact h e ⟨ns, name, he⟩
  · rintro h e ⟨ns, name, he⟩
    exact h ns name e he

theorem get?_congr {routes' : RouteMap} {c' : Catalog} {ns name : String}
    (made : (bootstrap options mixins routes).outcome = .ok c)
    (made' : (bootstrap options mixins routes').outcome = .ok c')
    (same : routes'.ofResource ns name = routes.ofResource ns name) :
    c'.get? ns name = c.get? ns name := by
  rw [eq_of_bootstrap made, eq_of_bootstrap made', get?_ofTree, get?_ofTree,
    ← RouteTree.resource?_ofResource routes', ← RouteTree.resource?_ofResource routes, same]

/-- Options that accept a map of routes accept those of one resource alone. -/
theorem exists_bootstrap_ofResource (made : (bootstrap options mixins routes).outcome = .ok c)
    (ns name : String) :
    ∃ own, (bootstrap options mixins (routes.ofResource ns name)).outcome = .ok own := by
  obtain ⟨usable, quiet, rfl⟩ := bootstrap_eq_ok_iff.1 made
  refine ⟨_, bootstrap_eq_ok_iff.2 ⟨?_, ?_, rfl⟩⟩
  · intro strict entry member
    exact usable strict entry (RouteTree.leadsTo_of_mem_ofResource member).1
  · intro intolerant
    have none_there := conflicts_eq_nil_iff.1 (quiet intolerant)
    rw [conflicts_eq_nil_iff]
    intro ns' name' e he
    rw [get?_ofTree, Option.map_eq_some_iff] at he
    obtain ⟨tree, placed, rfl⟩ := he
    obtain ⟨rfl, rfl⟩ := RouteTree.eq_of_resource?_ofResource placed
    refine none_there ns' name' _ ?_
    rw [RouteTree.resource?_ofResource] at placed
    rw [get?_ofTree, placed, Option.map_some]

theorem isSome_get?_iff (made : (bootstrap options mixins routes).outcome = .ok c)
    (ns name : String) : (c.get? ns name).isSome = true ↔
      ∃ entry ∈ routes.entries, RouteTree.LeadsTo ns name entry := by
  rw [eq_of_bootstrap made, get?_ofTree, Option.isSome_map, RouteTree.resource?_isSome_iff,
    RouteTree.branches_ne_nil_iff]

/-- Lenient options make a catalog of any routes. Whatever the options, a catalog has an endpoint
for each resource that a route leads to and for no other, and it is the one that the routes of the
resource alone make, or these together with any other routes. -/
theorem endpoint_of_own_routes (options : Options) (mixins : MixinTable) (routes : RouteMap) :
    (options.strictPatterns = false → options.failOnAliasConflict = false →
      ∃ c, (bootstrap options mixins routes).outcome = .ok c) ∧
    ∀ c, (bootstrap options mixins routes).outcome = .ok c → ∀ ns name,
      ((c.get? ns name).isSome = true ↔
        ∃ entry ∈ routes.entries, RouteTree.LeadsTo ns name entry) ∧
      (∃ own, (bootstrap options mixins (routes.ofResource ns name)).outcome = .ok own ∧
        own.get? ns name = c.get? ns name) ∧
      ∀ routes' c', (bootstrap options mixins routes').outcome = .ok c' →
        routes'.ofResource ns name = routes.ofResource ns name →
        c'.get? ns name = c.get? ns name := by
  constructor
  · intro lenient tolerant
    refine ⟨_, bootstrap_eq_ok_iff.2 ⟨?_, ?_, rfl⟩⟩
    · intro strict
      cases lenient.symm.trans strict
    · intro intolerant
      cases tolerant.symm.trans intolerant
  · intro c made ns name
    refine ⟨isSome_get?_iff made ns name, ?_, ?_⟩
    · obtain ⟨own, made'⟩ := exists_bootstrap_ofResource made ns name
      exact ⟨own, made', get?_congr made made' (RouteMap.ofResource_ofResource routes ns name)⟩
    · intro routes' c' made' same
      exact get?_congr made made' same

def postRoute : String × RouteDefinition := ("/wp/v2/posts/(?P<id>)", ⟨"wp/v2", [.get], []⟩)

/-- A namespace of its own that looks like posts. -/
def latestRoute : String × RouteDefinition := ("/wp/v2/posts/latest", ⟨"wp/v2/posts", [.get], []⟩)

def userRoute : String × RouteDefinition := ("/wp/v2/users/(?P<id>(?!x))", ⟨"wp/v2", [.get], []⟩)

/-- Posts have the same endpoint with and without the routes around them. -/
theorem endpoint_of_own_routes_crowded :
    ∃ c own e, (bootstrap {} .empty (.ofList [postRoute, latestRoute, userRoute])).outcome = .ok c ∧
      (bootstrap {} .empty (.ofList [postRoute])).outcome = .ok own ∧
      c.get? "wp/v2" "posts" = some e ∧ own.get? "wp/v2" "posts" = some e ∧
      (c.get? "wp/v2" "users").isSome = true ∧ (own.get? "wp/v2" "users").isSome = false := by
  let crowded : RouteMap := .ofList [postRoute, latestRoute, userRoute]
  let alone : RouteMap := .ofList [postRoute]
  have all : crowded.entries = [postRoute, latestRoute, userRoute] := rfl
  have one : alone.entries = [postRoute] := rfl
  have posts : RouteTree.LeadsTo "wp/v2" "posts" postRoute := by decide +kernel
  have latest : ¬RouteTree.LeadsTo "wp/v2" "posts" latestRoute := by decide +kernel
  have users : ¬RouteTree.LeadsTo "wp/v2" "posts" userRoute := by decide +kernel
  have same : alone.ofResource "wp/v2" "posts" = crowded.ofResource "wp/v2" "posts" := by
    simp [RouteMap.ofResource, all, one, posts, latest, users]
  obtain ⟨succeeds, holds⟩ := endpoint_of_own_routes {} .empty crowded
  obtain ⟨succeeds', holds'⟩ := endpoint_of_own_routes {} .empty alone
  obtain ⟨c, made⟩ := succeeds rfl rfl
  obtain ⟨own, made'⟩ := succeeds' rfl rfl
  obtain ⟨present, _, together⟩ := holds c made "wp/v2" "posts"
  have led : ∃ entry ∈ crowded.entries, RouteTree.LeadsTo "wp/v2" "posts" entry :=
    ⟨postRoute, List.mem_cons_self, posts⟩
  obtain ⟨e, he⟩ := Option.isSome_iff_exists.1 (present.2 led)
  refine ⟨c, own, e, made, made', he, (together alone own made' same).trans he, ?_, ?_⟩
  · rw [(holds c made "wp/v2" "users").1]
    decide +kernel
  · rw [Bool.eq_false_iff, ne_eq, (holds' own made' "wp/v2" "users").1]
    decide +kernel

end Catalog
end RestRoutes
