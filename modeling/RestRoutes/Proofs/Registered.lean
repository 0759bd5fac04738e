import RestRoutes.Registration
import RestRoutes.Proofs.Strictness

/-!
Routes that are registered on their own. Registering a route comes to the same as bootstrapping a
map that lists nothing else (`Registration.endpoint_of_alone`): it fails where that fails or finds
no resource, and otherwise gives the one endpoint of that catalog, with operations on the parameters
that were asked for.
-/
namespace RestRoutes

theorem MethodSet.Paired.ofList_toList {s : MethodSet} (h : s.Paired) : ofList s.toList = s := by
  apply ext_contains
  intro m
  have listed : ∀ m, s.toList.contains m = s.contains m := fun _ => rfl
  rw [contains_ofList, pairs, listed, listed, listed]
  by_cases head : m = .head
  · subst head
    rw [h]
    cases s.contains .head <;> rfl
  · by_cases get : m = .get
    · subst get
      rw [h]
      cases s.contains .head <;> rfl
    · simp [beq_false_of_ne head, beq_false_of_ne get]

namespace RouteTree

theorem empty_add_cases (route : String) (d : RouteDefinition) :
    empty.add route d = empty ∨ ∃ tree, Catalog.treeEntries (empty.add route d) = [(d.ns, tree)] ∧
      (empty.add route d).resources d.ns = [tree] := by
  unfold add
  cases componentsOf route d with
  | nil => exact .inl rfl
  | cons text rest =>
      refine .inr ⟨(ResourceTree.vacant (.lenient text)).absorb (.lenient text)
        (rest.map .lenient) d, rfl, ?_⟩
      simp only [insert, resources, Dict.get?_insert_self, Option.getD_some]
      rfl

theorem insert_congr (t : RouteTree) (d : RouteDefinition) {ms : List Method}
    (same : MethodSet.ofList ms = MethodSet.ofList d.methods) (c : Component)
    (rest : List Component) : t.insert { d with methods := ms } c rest = t.insert d c rest := by
  unfold insert ResourceTree.absorb
  simp only [same, RouteDefinition.getArgs]

theorem add_congr (t : RouteTree) (route : String) (d : RouteDefinition) {ms : List Method}
    (same : MethodSet.ofList ms = MethodSet.ofList d.methods) :
    t.add route { d with methods := ms } = t.add route d := by
  unfold add componentsOf
  simp only [insert_congr t d same]

theorem outcome_ofRoutes_insert (options : Options) (route ns : String) {ms ms' : List Method}
    (same : MethodSet.ofList ms = MethodSet.ofList ms') :
    (ofRoutes options (Dict.empty.insert route ⟨ns, ms, []⟩)).outcome =
      Build.verdict (refusal? options (route, ⟨ns, ms', []⟩)) (empty.add route ⟨ns, ms', []⟩) := by
  have walk := outcome_ofList_eq options [(route, ⟨ns, ms, []⟩)]
  rw [List.findSome?_singleton] at walk
  refine walk.trans ?_
  have tree : grown [(route, ⟨ns, ms, []⟩)] = empty.add route ⟨ns, ms', []⟩ :=
    add_congr empty route ⟨ns, ms', []⟩ same
  rw [tree]
  rfl

end RouteTree

namespace Catalog

theorem bootstrap_ne_emptyRoute {options : Options} {mixins : MixinTable} {routes : RouteMap}
    {route : String} :
    (bootstrap options mixins routes).outcome ≠ .error (.emptyRoute route) := by
  rw [ne_eq, outcome_bootstrap, Build.verdict_eq_error_iff, Option.or_eq_some_iff,
    RouteTree.findSome?_refusal?_eq_some_iff, refusal?_eq_some_iff]
  simp

theorem outcome_bootstrap_insert (options : Options) (mixins : MixinTable) (route : String)
    (d : RouteDefinition) :
    (bootstrap options mixins (Dict.empty.insert route d)).outcome =
      Build.verdict ((RouteTree.refusal? options (route, d)).or
        (refusal? options (ofTree options mixins (RouteTree.empty.add route d))))
          (ofTree options mixins (RouteTree.empty.add route d)) := by
  have listed : (Dict.empty.insert route d : RouteMap).entries = [(route, d)] := rfl
  have grown : RouteTree.grown [(route, d)] = RouteTree.empty.add route d := rfl
  rw [outcome_bootstrap, listed, grown, List.findSome?_singleton]

theorem ofTree_of_single (options : Options) (mixins : MixinTable) {t : RouteTree} {ns : String}
    {tree : ResourceTree} (single : treeEntries t = [(ns, tree)]) :
    ofTree options mixins t = empty.insert (compile options mixins (ns, tree)) := by
  rw [ofTree, single]
  rfl

theorem conflicts_insert_empty (e : Endpoint) : (empty.insert e).conflicts = e.conflicts :=
  List.append_nil _

end Catalog

namespace Endpoint

/-- An endpoint is another one with operations added, each under a name that was still free. -/
structure Extends (e f : Endpoint) (extra : List Mixin) : Prop where
  ns : e.ns = f.ns
  resource : e.resource = f.resource
  levels : e.levels = f.levels
  conflicts : e.conflicts = f.conflicts
  capabilities (name : String) : e.capabilities.get? name = (f.capabilities.get? name).or
    (if name ∈ reservedNames then none else (extra.find? (·.method = name)).map .mixin)

theorem Extends.unique {e e' f : Endpoint} {extra : List Mixin} (h : e.Extends f extra)
    (h' : e'.Extends f extra) : e = e' := by
  have capabilities : e.capabilities = e'.capabilities :=
    Dict.ext_get? fun name => (h.capabilities name).trans (h'.capabilities name).symm
  cases e
  cases e'
  simp only [mk.injEq]
  exact ⟨h.ns.trans h'.ns.symm, h.resource.trans h'.resource.symm, h.levels.trans h'.levels.symm,
    capabilities, h.conflicts.trans h'.conflicts.symm⟩

theorem extends_attachMixins (f : Endpoint) (extra : List Mixin) :
    (extra.foldlM attachMixin f).value.Extends f extra := by
  have offered : (extra.foldlM attachMixin f).value =
      f.attachAll (extra.map fun m => (m.method, .mixin m)) := by
    rw [Logged.value_foldlM, attachAll, List.foldl_map]
    rfl
  rw [offered]
  obtain ⟨ns, resource, levels, conflicts⟩ :=
    f.frame_attachAll (extra.map fun m => (m.method, .mixin m))
  refine ⟨ns, resource, levels, conflicts, fun name => ?_⟩
  rw [get?_attachAll, List.find?_map, Option.map_map]
  rfl

end Endpoint

namespace Registration

def alone (r : Registration) (ns base : String) : RouteMap :=
  let bare := Path.dropTrailing (Path.dropLeading ns)
  Dict.empty.insert (route bare base) ⟨bare, r.methods.getD MethodSet.allWritable.toList, []⟩

theorem ofList_methods (r : Registration) :
    MethodSet.ofList ((r.methods.map MethodSet.ofList).getD .allWritable).toList =
      MethodSet.ofList (r.methods.getD MethodSet.allWritable.toList) := by
  cases r.methods with
  | none => rfl
  | some ms => exact (MethodSet.ofList_paired ms).ofList_toList

/-- What registering a route comes to, beside the catalog of the route alone. -/
theorem endpoint_cases (r : Registration) (ns base : String) :
    let registered := (r.endpoint ns base).outcome
    let catalog := (Catalog.bootstrap r.options r.mixins (r.alone ns base)).outcome
    (∃ err, registered = .error err ∧ catalog = .error err) ∨
    (registered = .error (.emptyRoute (route (Path.dropTrailing (Path.dropLeading ns)) base)) ∧
      catalog = .ok .empty) ∨
    ∃ e f, registered = .ok e ∧ catalog = .ok (Catalog.empty.insert f) ∧
      e.Extends f (r.params.map r.mixin) := by
  unfold endpoint alone
  generalize Path.dropTrailing (Path.dropLeading ns) = bare
  simp only
  have folded := RouteTree.outcome_ofRoutes_insert r.options (route bare base) bare r.ofList_methods
  rw [Build.outcome_bind, folded, Catalog.outcome_bootstrap_insert]
  generalize r.methods.getD MethodSet.allWritable.toList = ms
  cases RouteTree.refusal? r.options (route bare base, ⟨bare, ms, []⟩) with
  | some err => exact .inl ⟨err, rfl, rfl⟩
  | none =>
      simp only [Build.verdict_none, Except.bind, Option.none_or]
      rcases RouteTree.empty_add_cases (route bare base) ⟨bare, ms, []⟩ with
        nowhere | ⟨tree, listed, found⟩
      · rw [nowhere]
        have accepted : Catalog.refusal? r.options Catalog.empty = none :=
          Catalog.refusal?_eq_none_iff.2 fun _ => rfl
        exact .inr (.inl ⟨rfl, Build.verdict_eq_ok_iff.2 ⟨accepted, rfl⟩⟩)
      · let f := Catalog.compile r.options r.mixins (bare, tree)
        have conflicts : (Blueprint.ofTree r.options bare tree).value.conflicts = f.conflicts :=
          (Endpoint.frame_assembled _ _).2.2.2.symm
        rw [Catalog.ofTree_of_single _ _ listed, Catalog.refusal?, Catalog.conflicts_insert_empty]
        simp only [found, List.head?_cons, Build.outcome_bind_ok (Build.outcome_lift _), conflicts]
        split
        · exact .inl ⟨_, rfl, rfl⟩
        · refine .inr (.inr ⟨_, f, ?_, rfl, f.extends_attachMixins _⟩)
          simp only [Build.outcome_bind_ok (Build.outcome_lift _), Build.outcome_pure,
            Endpoint.value_ofBlueprint]
          rfl

/-- Registering a route finds no resource just where the catalog of the route alone is empty, and
fails for any other reason just where that catalog does. Otherwise the catalog has one endpoint, and
the registered one is the same with operations on the parameters that were asked for. -/
theorem endpoint_of_alone (r : Registration) (ns base : String) :
    let registered := (r.endpoint ns base).outcome
    let catalog := (Catalog.bootstrap r.options r.mixins (r.alone ns base)).outcome
    (∀ path, registered = .error (.emptyRoute path) ↔
      path = route (Path.dropTrailing (Path.dropLeading ns)) base ∧ catalog = .ok .empty) ∧
    (∀ err, catalog = .error err ↔ registered = .error err ∧ ∀ path, err ≠ .emptyRoute path) ∧
    ∀ e, registered = .ok e ↔ ∃ c f, catalog = .ok c ∧ c.endpoints = [f] ∧
      e.Extends f (r.params.map r.mixin) := by
  have single : ∀ f, (Catalog.empty.insert f).endpoints = [f] := fun _ => rfl
  have never : ∀ path, (Catalog.bootstrap r.options r.mixins (r.alone ns base)).outcome ≠
      .error (.emptyRoute path) := fun path => Catalog.bootstrap_ne_emptyRoute
  have cases := endpoint_cases r ns base
  simp only at cases ⊢
  generalize (r.endpoint ns base).outcome = registered at cases ⊢
  generalize (Catalog.bootstrap r.options r.mixins (r.alone ns base)).outcome = catalog
    at cases never ⊢
  generalize route (Path.dropTrailing (Path.dropLeading ns)) base = path at cases ⊢
  rcases cases with ⟨err, rfl, rfl⟩ | ⟨rfl, rfl⟩ | ⟨e, f, rfl, rfl, more⟩
  · have kept : ∀ path, err ≠ .emptyRoute path := fun path same => never path (same ▸ rfl)
    simp [kept, eq_comm]
  · have nobody : Catalog.empty.endpoints = [] := rfl
    simp [nobody, eq_comm]
  · have somebody : Catalog.empty.insert f ≠ .empty := fun same => by
      cases (single f).symm.trans (congrArg Catalog.endpoints same)
    refine ⟨by simp [somebody], by simp, fun e' => ?_⟩
    constructor
    · rintro ⟨⟩
      exact ⟨_, f, rfl, single f, more⟩
    · rintro ⟨c, f', ⟨⟩, only, more'⟩
      cases (single f).symm.trans only
      rw [more.unique more']

end Registration
end RestRoutes
