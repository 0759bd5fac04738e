import RestRoutes.Proofs.Precedence
import RestRoutes.Proofs.Registered

/-!
Endpoints and the trees they are made from. Every endpoint of a catalog or of a single route is the
flattened tree of a resource (`Endpoint.Compiled.exists_tree`), so each of its setters belongs to a
position of that tree, and without conflicts each position has its setter.
-/
namespace RestRoutes

namespace Endpoint

/-- The endpoints that there are: those of catalogs, and those of single routes. -/
inductive Compiled : Endpoint → Prop
  | bootstrapped {options : Options} {mixins : MixinTable} {routes : RouteMap} {catalog : Catalog}
      {ns name : String} {e : Endpoint} :
      (Catalog.bootstrap options mixins routes).outcome = .ok catalog →
        catalog.resource ns name = .ok e → Compiled e
  | registered {r : Registration} {ns base : String} {e : Endpoint} :
      (r.endpoint ns base).outcome = .ok e → Compiled e

end Endpoint

/-- A mixin keeps the values it is given under one parameter and does nothing else. -/
def Mixin.SetsParam (m : Mixin) : Prop := ∃ s : ParamSetter, m.op = s.op

def MixinTable.SetsParams (t : MixinTable) : Prop :=
  ∀ arg m, t.get? arg = some m → m.SetsParam

def Endpoint.SetsParams (e : Endpoint) : Prop :=
  ∀ name m, e.capabilities.get? name = some (.mixin m) → m.SetsParam

theorem Endpoint.mem_of_get?_assembled {b : Blueprint} {ms : List Mixin} {name : String} {m : Mixin}
    (h : (assembled b ms).capabilities.get? name = some (.mixin m)) : m ∈ ms := by
  rw [get?_assembled] at h
  split at h
  · cases h
  · rcases Option.or_eq_some_iff.1 h with setter | ⟨_, mixin⟩
    · obtain ⟨_, _, path⟩ := Option.map_eq_some_iff.1 setter
      cases path
    · obtain ⟨m', found, same⟩ := Option.map_eq_some_iff.1 mixin
      cases same
      exact List.mem_of_find?_eq_some found

theorem Catalog.setsParams_of_bootstrap {options : Options} {mixins : MixinTable}
    {routes : RouteMap} {catalog : Catalog} {ns name : String} {e : Endpoint}
    (plain : mixins.SetsParams) (made : (bootstrap options mixins routes).outcome = .ok catalog)
    (found : catalog.resource ns name = .ok e) : e.SetsParams := by
  rw [resource_eq_ok_iff, eq_of_bootstrap made, get?_ofTree] at found
  obtain ⟨tree, _, rfl⟩ := Option.map_eq_some_iff.1 found
  intro label m offered
  obtain ⟨arg, _, calls⟩ := List.mem_filterMap.1 (Endpoint.mem_of_get?_assembled offered)
  exact plain arg m calls

theorem Catalog.resource_insert_empty (f : Endpoint) :
    (empty.insert f).resource f.ns f.resource = .ok f := by
  rw [resource_eq_ok_iff, get?_insert, if_pos ⟨rfl, rfl⟩]

theorem Registration.setsParam_mixin {r : Registration} (plain : r.mixins.SetsParams)
    (param : String) : (r.mixin param).SetsParam := by
  unfold mixin
  cases found : r.mixins.get? param with
  | none => exact ⟨_, rfl⟩
  | some m => exact plain param m found

theorem Registration.setsParams_of_endpoint {r : Registration} {ns base : String} {e : Endpoint}
    (plain : r.mixins.SetsParams) (h : (r.endpoint ns base).outcome = .ok e) : e.SetsParams := by
  rcases endpoint_cases r ns base with
    ⟨_, failed, _⟩ | ⟨failed, _⟩ | ⟨_, f, made, single, extends_f⟩
  · cases failed.symm.trans h
  · cases failed.symm.trans h
  · cases made.symm.trans h
    intro name m offered
    rw [extends_f.capabilities] at offered
    rcases Option.or_eq_some_iff.1 offered with before | ⟨_, added⟩
    · exact Catalog.setsParams_of_bootstrap plain single (Catalog.resource_insert_empty f)
        name m before
    · split at added
      · cases added
      · obtain ⟨m', asked, same⟩ := Option.map_eq_some_iff.1 added
        cases same
        obtain ⟨param, _, rfl⟩ := List.mem_map.1 (List.mem_of_find?_eq_some asked)
        exact setsParam_mixin plain param

theorem Registration.exists_tree_of_endpoint {r : Registration} {ns base : String} {e : Endpoint}
    (h : (r.endpoint ns base).outcome = .ok e) :
    ∃ ns' name tree ms,
      (RouteTree.grown (r.alone ns base).entries).resource? ns' name = some tree ∧
      e = .ofTree r.options ns' tree ms := by
  rcases endpoint_cases r ns base with
    ⟨_, failed, _⟩ | ⟨failed, _⟩ | ⟨_, f, made, single, extends_f⟩
  · cases failed.symm.trans h
  · cases failed.symm.trans h
  · cases made.symm.trans h
    obtain ⟨_, _, listed⟩ : ∃ ns name, (Catalog.empty.insert f).resource ns name = .ok f :=
      ⟨_, _, Catalog.resource_insert_empty f⟩
    obtain ⟨tree, ms, found, rfl⟩ := Catalog.exists_tree_of_bootstrap single listed
    refine ⟨_, _, tree, ms ++ r.params.map r.mixin, found, extends_f.unique ?_⟩
    rw [Endpoint.ofTree, Endpoint.ofTree, ← Endpoint.attachMixins_assembled]
    exact Endpoint.extends_attachMixins _ _

theorem Setter.exists_child_of_promotion? {n : Node} {p : Promotion} (h : promotion? n = some p) :
    ∃ child ∈ n.children, p = ⟨child.level, child.methods⟩ := by
  unfold promotion? at h
  split at h
  · next child only =>
      have dynamic : child ∈ n.dynamicChildren := by simp [only]
      cases h
      exact ⟨child, (List.mem_filter.1 dynamic).1, rfl⟩
  · cases h

/-- What a position is like that has a setter with a fixed text. -/
theorem Setter.of_static_eq {options : Options} {n : Node} {level : Nat} {component : String}
    {methods : Option MethodSet} {promotion : Option Promotion}
    (h : static level component methods promotion = ofNode options n) :
    n.isDynamic = false ∧ n.level = level ∧ n.names.head?.getD n.component = component ∧
      ∀ p, promotion = some p → ∃ child ∈ n.children, child.level = p.level := by
  unfold ofNode at h
  split at h
  · cases h
  · next literal =>
      cases h
      refine ⟨Bool.eq_false_iff.2 literal, rfl, rfl, fun p passes => ?_⟩
      split at passes
      · obtain ⟨child, below, rfl⟩ := exists_child_of_promotion? passes
        exact ⟨child, below, rfl⟩
      · cases passes

theorem Setter.level_ofNode (options : Options) (n : Node) :
    (ofNode options n).level = n.level := by
  unfold ofNode
  split <;> rfl

namespace Endpoint

variable {options : Options} {entries : List (String × RouteDefinition)} {ns resource : String}
  {tree : ResourceTree} {ms : List Mixin} {e : Endpoint}

theorem Compiled.exists_tree (h : e.Compiled) : ∃ options entries ns name tree ms,
    (RouteTree.grown entries).resource? ns name = some tree ∧
      e = ofTree options ns tree ms := by
  cases h with
  | bootstrapped made found =>
      obtain ⟨tree, ms, place, same⟩ := Catalog.exists_tree_of_bootstrap made found
      exact ⟨_, _, _, _, tree, ms, place, same⟩
  | registered made =>
      obtain ⟨ns, name, tree, ms, place, same⟩ := Registration.exists_tree_of_endpoint made
      exact ⟨_, _, ns, name, tree, ms, place, same⟩

/-- An endpoint that a catalog turns out to have, with what a test says about it. -/
theorem Compiled.exists_of_any {mixins : MixinTable} {routes : RouteMap} {name : String}
    {test : Endpoint → Bool}
    (h : ((Catalog.bootstrap options mixins routes).outcome.bind
      (·.resource ns name)).toOption.any test = true) : ∃ e, e.Compiled ∧ test e = true := by
  obtain ⟨e, found, holds⟩ := exists_ok_of_any h
  obtain ⟨catalog, made, listed⟩ := Catalog.exists_of_bind found
  exact ⟨e, .bootstrapped made listed, holds⟩

theorem level_of_promotion (found : (RouteTree.grown entries).resource? ns resource = some tree)
    {label component : String} {level : Nat} {methods : Option MethodSet} {p : Promotion}
    (h : (ofTree options ns tree ms).capabilities.get? label =
      some (.path (.static level component methods (some p)))) : p.level = level + 1 := by
  obtain ⟨n, hn, _, made, _⟩ := exists_node_of_path h
  obtain ⟨_, rfl, _, passes⟩ := Setter.of_static_eq made
  obtain ⟨child, hchild, same⟩ := passes p rfl
  rw [← same]
  exact RouteTree.level_of_child found hn hchild

end Endpoint
end RestRoutes
