import RestRoutes.Proofs.Request.Invariants

/-!
The methods that requests allow. A request allows those of a new request until a setter brings the
methods of a position (`Request.allows_used`), so like all other sets they gather what was supplied:
`get` comes with `head`, and neither order nor repetition matters (`MethodSet.gathers_supplied`).
-/
namespace RestRoutes

inductive Endpoint.MadeFrom : List (String × RouteDefinition) → Endpoint → Prop
  | bootstrapped {options : Options} {mixins : MixinTable} {routes : RouteMap} {catalog : Catalog}
      {ns name : String} {e : Endpoint} :
      (Catalog.bootstrap options mixins routes).outcome = .ok catalog →
        catalog.resource ns name = .ok e → MadeFrom routes.entries e
  | registered {r : Registration} {ns base : String} {e : Endpoint} :
      (r.endpoint ns base).outcome = .ok e → MadeFrom (r.alone ns base).entries e

theorem Endpoint.MadeFrom.exists_tree {entries : List (String × RouteDefinition)} {e : Endpoint}
    (h : e.MadeFrom entries) : ∃ options tree ms,
      (RouteTree.grown entries).resource? e.ns e.resource = some tree ∧
        e = ofTree options e.ns tree ms := by
  have named : ∀ {options ns name tree ms},
      (RouteTree.grown entries).resource? ns name = some tree → e = ofTree options ns tree ms →
        e.ns = ns ∧ e.resource = name := by
    intro options ns name tree ms found same
    rw [same, ns_ofTree, resource_ofTree]
    exact ⟨rfl, RouteTree.name_of_resource? found⟩
  cases h with
  | bootstrapped made listed =>
      obtain ⟨tree, ms, found, same⟩ := Catalog.exists_tree_of_bootstrap made listed
      obtain ⟨rfl, rfl⟩ := named found same
      exact ⟨_, tree, ms, found, same⟩
  | registered made =>
      obtain ⟨ns, name, tree, ms, found, same⟩ := Registration.exists_tree_of_endpoint made
      obtain ⟨rfl, rfl⟩ := named found same
      exact ⟨_, tree, ms, found, same⟩

namespace Request

/-- Methods of a new request, or such as a setter of the endpoint brings. -/
def Allows (e : Endpoint) (s : MethodSet) : Prop :=
  s = .builderDefault ∨
    ∃ name setter, e.capabilities.get? name = some (.path setter) ∧ s ∈ setter.methodSets

theorem stable_allows (e : Endpoint) : Stable fun r => r.target = e ∧ Allows e r.methods where
  slots _ _ _ holds := holds
  methods _ holds name setter offered _ hs _ holds' :=
    ⟨holds'.1, .inr ⟨name, setter, holds.1 ▸ offered, hs⟩⟩
  mixin _ holds _ _ _ _ := holds
  param _ _ _ holds := holds

theorem allows_used (e : Endpoint) (base : String) (uses : List Use) :
    Allows e ((new e base).used uses).methods :=
  ((stable_allows e).holds_used ⟨rfl, .inl rfl⟩ uses).2

/-- Whatever has been done with a request, it allows what every new request does or the methods of
the routes that end at one position. -/
theorem gathers_used {entries : List (String × RouteDefinition)} {e : Endpoint}
    (made : e.MadeFrom entries) (base : String) (uses : List Use) :
    ((new e base).used uses).methods.Gathers (· ∈ [.head, .get, .put, .post, .delete]) ∨
      ∃ ks, ((new e base).used uses).methods.Gathers
        (RouteTree.SuppliedAt entries e.ns e.resource ks) := by
  rcases allows_used e base uses with first | ⟨name, setter, offered, brings⟩
  · left
    rw [first]
    exact MethodSet.gathers_ofList fun _ => .rfl
  · right
    obtain ⟨options, tree, ms, found, same⟩ := made.exists_tree
    rw [same] at offered
    obtain ⟨n, hn, _, rfl, _⟩ := Endpoint.exists_node_of_path offered
    exact Setter.gathers_of_mem_methodSets found hn brings

end Request

/-- Every set of methods gathers what was supplied to it, and is fixed by that: sets that are built
in steps, those of the positions and the blueprints of folded routes, and those that requests allow.
Listing the methods of routes in another order, or more than once, changes neither a catalog nor a
registered endpoint. -/
theorem MethodSet.gathers_supplied :
    (∀ ms s, Built ms s → s.Gathers (· ∈ ms)) ∧
    (∀ (s t : MethodSet) Supplied, s.Gathers Supplied → t.Gathers Supplied → s = t) ∧
    (∀ entries t ns name tree, RouteTree.Folded entries t → t.resource? ns name = some tree →
      (∀ n ∈ tree.root.preorder, ∃ ks, tree.root.at? ks = some n ∧
        ∀ s, n.methods = some s → s.Gathers (RouteTree.SuppliedAt entries ns name ks)) ∧
      ∀ options, ∀ s ∈ (Blueprint.ofTree options ns tree).value.methodSets,
        ∃ ks, s.Gathers (RouteTree.SuppliedAt entries ns name ks)) ∧
    (∀ entries (e : Endpoint) base uses, e.MadeFrom entries →
      let allowed := ((Request.new e base).used uses).methods
      allowed.Gathers (· ∈ [.head, .get, .put, .post, .delete]) ∨
        ∃ ks, allowed.Gathers (RouteTree.SuppliedAt entries e.ns e.resource ks)) ∧
    (∀ options mixins (routes : RouteMap) listing,
      (∀ entry ∈ routes.entries, ∀ m, m ∈ listing entry.1 ↔ m ∈ entry.2.methods) →
      Catalog.bootstrap options mixins (routes.withMethods listing) =
        Catalog.bootstrap options mixins routes) ∧
    ∀ (r : Registration) ns base ms ms', (∀ m, m ∈ ms ↔ m ∈ ms') →
      { r with methods := some ms }.endpoint ns base =
        { r with methods := some ms' }.endpoint ns base := by
  refine ⟨fun ms s built => built.gathers, ?_, ?_, ?_, ?_, ?_⟩
  · intro s t Supplied hs ht
    exact hs.unique ht fun _ => .rfl
  · intro entries t ns name tree folded found
    rw [folded.eq_grown] at found
    constructor
    · intro n hn
      obtain ⟨ks, hks, _⟩ := RouteTree.exists_at?_of_mem found hn
      exact ⟨ks, hks, fun s hs => RouteTree.gathers_of_at? found hks hs⟩
    · intro options s hs
      exact Blueprint.gathers_of_mem_methodSets found hs
  · intro entries e base uses made
    exact Request.gathers_used made base uses
  · intro options mixins routes listing same
    exact Catalog.bootstrap_withMethods options mixins same
  · intro r ns base ms ms' same
    exact r.endpoint_withMethods ns base same

def headRoutes : RouteMap :=
  .ofList [("/wp/v2/posts/(?P<id>[0-9]+)", ⟨"wp/v2", [.delete, .head], []⟩)]

/-- A request along the route allows `get` as well, and so it does for any list of its methods. -/
theorem MethodSet.gathers_supplied_head :
    let uses : List Use := [.act (.invoke "id" (some "7"))]
    (∃ e, e.MadeFrom headRoutes.entries ∧
      ((Request.new e "").used uses).methods.names = ["get", "head", "delete"] ∧
      ((Request.new e "").used uses).methods.Paired) ∧
    Catalog.bootstrap {} .empty (headRoutes.withMethods fun _ => [.head, .delete, .head]) =
      Catalog.bootstrap {} .empty headRoutes := by
  intro uses
  obtain ⟨_, _, _, requests, relisted, _⟩ := gathers_supplied
  have computed : ((Catalog.bootstrap {} .empty headRoutes).outcome.bind
      (·.resource "wp/v2" "posts")).toOption.any (fun e =>
        ((Request.new e "").used uses).methods.names = ["get", "head", "delete"]) = true := by
    decide +kernel
  obtain ⟨e, found, allowed⟩ := exists_ok_of_any computed
  obtain ⟨catalog, made, listed⟩ := Catalog.exists_of_bind found
  have source : e.MadeFrom headRoutes.entries := .bootstrapped made listed
  refine ⟨⟨e, source, of_decide_eq_true allowed, ?_⟩, relisted _ _ _ _ ?_⟩
  · rcases requests _ e "" uses source with first | ⟨_, later⟩
    · exact first.paired
    · exact later.paired
  · intro entry only m
    cases List.mem_singleton.1 only
    cases m <;> decide

end RestRoutes
