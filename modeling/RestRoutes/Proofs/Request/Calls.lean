import RestRoutes.Proofs.Compiled
import RestRoutes.Proofs.Request.Fills

/-!
Calls of the setters of positions. Without conflicts and reserved names, calls for positions at
different levels all succeed as long as no slot has been filled before, in whatever order they are
made (`run_calls`).
-/
namespace RestRoutes

/-- A call of the setter of a position, under one of the names of the position. -/
structure Call where
  node : Node
  name : String
  value : Option String

namespace Call

/-- A value is given to a dynamic position and to no other. -/
structure Proper (c : Call) : Prop where
  name_mem : c.name ∈ c.node.names
  value_isSome : c.value.isSome = c.node.isDynamic

def words (c : Call) : String × Option String := (camelCase c.name, c.value)

def fill (c : Call) : Fill :=
  ⟨c.node.level, c.value.getD (c.node.names.head?.getD c.node.component), c.node.methods⟩

theorem Proper.fills? {c : Call} (h : c.Proper) (options : Options) :
    (Setter.ofNode options c.node).fills? c.value = some [c.fill] := by
  have given := h.value_isSome
  unfold Setter.ofNode fill
  cases hv : c.value with
  | none =>
      rw [hv] at given
      rw [← given]
      simp only [Option.isSome_none, Bool.false_eq_true, if_false, Option.getD_none]
      cases (if options.childPromotion then Setter.promotion? c.node else none) <;> rfl
  | some value =>
      rw [hv] at given
      rw [← given]
      rfl

end Call

namespace Request

/-- Makes calls one after the other, up to the first that fails. -/
def invokeAll (words : List (String × Option String)) : Op Unit :=
  forM words fun call => invoke call.1 call.2

def Offered (e : Endpoint) (options : Options) (cs : List Call) : Prop :=
  ∀ c ∈ cs, e.capabilities.get? (camelCase c.name) = some (.path (.ofNode options c.node))

variable {r : Request} {cs : List Call}

theorem run_calls (options : Options) (offered : Offered r.target options cs)
    (proper : ∀ c ∈ cs, c.Proper) (apart : (cs.map (·.node.level)).Nodup)
    (free : ∀ c ∈ cs, r.Free c.fill) :
    (invokeAll (cs.map Call.words)).run r = .ok () ((cs.map Call.fill).foldl write r) := by
  induction cs generalizing r with
  | nil => rfl
  | cons c cs ih =>
      obtain ⟨fresh, rest⟩ := List.nodup_cons.1 apart
      have first : (invoke (camelCase c.name) c.value).run r = .ok () (r.write c.fill) := by
        rw [run_invoke_path c.value (offered c List.mem_cons_self)]
        refine run_applySetter_of_free ((proper c List.mem_cons_self).fills? options) (by simp)
          (fun f hf => ?_) _
        cases List.mem_singleton.1 hf
        exact free c List.mem_cons_self
      have later : ∀ d ∈ cs, (r.write c.fill).Free d.fill := fun d hd => by
        have other : d.fill.level ≠ c.fill.level := fun same =>
          fresh (List.mem_map.2 ⟨d, hd, same⟩)
        exact (free_write other).2 (free d (List.mem_cons_of_mem _ hd))
      rw [List.map_cons, invokeAll, List.forM_cons, Call.words, run_bind_of_ok first]
      exact ih (fun d hd => offered d (List.mem_cons_of_mem _ hd))
        (fun d hd => proper d (List.mem_cons_of_mem _ hd)) rest later

theorem methods_of_calls (cs : List Call) : ((cs.map Call.fill).foldl write r).methods =
    (cs.filterMap (·.node.methods)).getLast?.getD r.methods := by
  rw [methods_foldl_write, List.filterMap_map]
  rfl

theorem methods_of_last {n : Node} {allowed : MethodSet}
    (last : (cs.map (·.node)).getLast? = some n) (ends : n.methods = some allowed) :
    ((cs.map Call.fill).foldl write r).methods = allowed := by
  obtain ⟨c, hc, rfl⟩ := Option.map_eq_some_iff.1 (List.getLast?_map.symm.trans last)
  obtain ⟨before, rfl⟩ := List.getLast?_eq_some_iff.1 hc
  rw [methods_of_calls]
  simp [ends]

theorem free_new (e : Endpoint) (base : String) {f : Fill} (below : f.level ≠ 0) :
    (new e base).Free f := Dict.get?_insert_of_ne _ _ below

/-- Calls for the positions on a way down from the resource, one for each and in any order. -/
theorem run_calls_below {options : Options} {entries : List (String × RouteDefinition)}
    {ns resource : String} {tree : ResourceTree} {ms : List Mixin} {nodes : List Node}
    (found : (RouteTree.grown entries).resource? ns resource = some tree)
    (quiet : (Endpoint.ofTree options ns tree ms).conflicts = [])
    (unreserved : ∀ n ∈ tree.root.preorder, n.level ≠ 0 → ∀ name ∈ n.names,
      camelCase name ∉ Endpoint.reservedNames)
    (down : tree.root.Descent nodes) (each : (cs.map (·.node)).Perm nodes)
    (proper : ∀ c ∈ cs, c.Proper) (base : String) :
    let r := new (.ofTree options ns tree ms) base
    (cs.map (·.fill.level)).Nodup ∧
      (invokeAll (cs.map Call.words)).run r = .ok () ((cs.map Call.fill).foldl write r) := by
  intro r
  obtain ⟨inside, levels⟩ := RouteTree.levels_of_descent found (RouteTree.mem_root tree) down
  have apart : (cs.map (·.node.level)).Nodup := by
    have ascending : (nodes.map (·.level)).Nodup := levels ▸ List.nodup_range'
    have called := (each.map (·.level)).nodup_iff.2 ascending
    rw [List.map_map] at called
    exact called
  have place : ∀ c ∈ cs, c.node ∈ tree.root.preorder ∧ c.node.level ≠ 0 := fun c hc => by
    have member : c.node ∈ nodes := each.mem_iff.1 (List.mem_map_of_mem hc)
    have level : c.node.level ∈ nodes.map (·.level) := List.mem_map_of_mem member
    rw [levels, List.mem_range'_1] at level
    exact ⟨inside _ member, by omega⟩
  refine ⟨apart, run_calls options (fun c hc => ?_) proper apart fun c hc => ?_⟩
  · obtain ⟨member, below⟩ := place c hc
    have called := (proper c hc).name_mem
    exact Endpoint.path_of_node quiet member below called
      (unreserved _ member below _ called)
  · exact free_new _ base (place c hc).2

end Request
end RestRoutes
