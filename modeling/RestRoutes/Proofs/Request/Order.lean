import RestRoutes.Proofs.Request.Calls

/-!
The order of calls. The slots do not depend on it, but each position that routes end at puts its
methods in place of those that were allowed before: the methods are those of the last such position
that was called, wherever it stands in the path (`methods_of_any_order`).
-/
namespace RestRoutes.Request

variable {r : Request}

theorem slots_foldl_write_of_perm {fs gs : List Fill} (apart : (gs.map (·.level)).Nodup)
    (same : fs.Perm gs) : (fs.foldl write r).slots = (gs.foldl write r).slots := by
  have apart' : (fs.map (·.level)).Nodup := (same.map (·.level)).nodup_iff.2 apart
  apply Dict.ext_get?
  intro level
  by_cases filled : ∃ f ∈ gs, f.level = level
  · obtain ⟨f, hf, rfl⟩ := filled
    rw [get?_slots_foldl_write_of_mem apart hf,
      get?_slots_foldl_write_of_mem apart' (same.mem_iff.2 hf)]
  · have other : ∀ f ∈ gs, f.level ≠ level := fun f hf here => filled ⟨f, hf, here⟩
    rw [get?_slots_foldl_write other,
      get?_slots_foldl_write fun f hf => other f (same.mem_iff.1 hf)]

theorem checkMethod_eq_ok_iff {m : Method} :
    r.checkMethod m = .ok () ↔ r.methods.contains m = true := by
  unfold checkMethod
  split <;> simp_all

theorem forall_checkMethod_iff {s : MethodSet} :
    (∀ m, r.checkMethod m = .ok () ↔ s.contains m = true) ↔ r.methods = s := by
  constructor
  · intro h
    apply MethodSet.ext_contains
    intro m
    rw [Bool.eq_iff_iff, ← checkMethod_eq_ok_iff, h m]
  · rintro rfl m
    exact checkMethod_eq_ok_iff

/-- Calls for all positions on a way down fill the same slots in any order. A request that has made
them from the top down allows the methods of the position where it has come; in another order it
does so only if no other methods came last. -/
theorem methods_of_any_order {options : Options} {mixins : MixinTable} {routes : RouteMap}
    {catalog : Catalog} {t : RouteTree} {ns resource : String} {e : Endpoint} {tree : ResourceTree}
    (made : (Catalog.bootstrap options mixins routes).outcome = .ok catalog)
    (found : catalog.resource ns resource = .ok e)
    (folded : (RouteTree.ofRoutes options routes).outcome = .ok t)
    (placed : t.resource? ns resource = some tree) (quiet : e.conflicts = [])
    (unreserved : ∀ n ∈ tree.root.preorder, n.level ≠ 0 → ∀ name ∈ n.names,
      camelCase name ∉ Endpoint.reservedNames)
    {nodes : List Node} {last : Node} {allowed : MethodSet}
    (down : tree.root.Descent (nodes ++ [last])) (ends : last.methods = some allowed)
    {downward order : List Call} (each : downward.map (·.node) = nodes ++ [last])
    (proper : ∀ c ∈ downward, c.Proper) (same : order.Perm downward) (base : String) :
    ∃ r d, (invokeAll (order.map Call.words)).run (new e base) = .ok () r ∧
      (invokeAll (downward.map Call.words)).run (new e base) = .ok () d ∧
      r.slots = d.slots ∧ d.methods = allowed ∧
      (r.methods = allowed ↔ (order.filterMap (·.node.methods)).getLast? = some allowed) ∧
      ((∀ m, r.checkMethod m = .ok () ↔ allowed.contains m = true) ↔
        (order.filterMap (·.node.methods)).getLast? = some allowed) := by
  obtain ⟨tree', ms, htree', rfl⟩ := Catalog.exists_tree_of_bootstrap made found
  have grown : t = .grown routes.entries := RouteTree.eq_grown_of_ofList folded
  rw [grown] at placed
  cases htree'.symm.trans placed
  have each' : (order.map (·.node)).Perm (nodes ++ [last]) := each ▸ same.map (·.node)
  have proper' : ∀ c ∈ order, c.Proper := fun c hc => proper c (same.mem_iff.1 hc)
  obtain ⟨apart, runs⟩ :=
    run_calls_below placed quiet unreserved down (each ▸ .refl _) proper base
  obtain ⟨_, runs'⟩ := run_calls_below placed quiet unreserved down each' proper' base
  have last_called : ∃ c ∈ order, c.node = last :=
    List.mem_map.1 (each'.mem_iff.2 (List.mem_append_right _ List.mem_cons_self))
  obtain ⟨c, hc, rfl⟩ := last_called
  -- One of the calls brings methods, so those of a new request are gone in the end.
  have brought : order.filterMap (·.node.methods) ≠ [] :=
    List.ne_nil_of_mem (List.mem_filterMap.2 ⟨c, hc, ends⟩)
  have condition : ((order.map Call.fill).foldl write
      (new (.ofTree options ns tree ms) base)).methods = allowed ↔
      (order.filterMap (·.node.methods)).getLast? = some allowed := by
    rw [methods_of_calls, List.getLast?_eq_some_getLast brought, Option.getD_some, Option.some_inj]
  refine ⟨_, _, runs', runs, slots_foldl_write_of_perm ?_ (same.map Call.fill), ?_, condition,
    forall_checkMethod_iff.trans condition⟩
  · rw [List.map_map]
    exact apart
  · have last_down : (downward.map (·.node)).getLast? = some c.node := by
      rw [each, List.getLast?_concat]
    exact methods_of_last last_down ends

def nestedRoutes : RouteMap :=
  .ofList [("/wp/v2/posts/(?P<id>)", ⟨"wp/v2", [.get, .delete], []⟩),
    ("/wp/v2/posts/(?P<id>)/revisions", ⟨"wp/v2", [.get], []⟩)]

def nestedRevisions : Node :=
  ⟨"revisions", .literal "revisions", false, 2, ["revisions"], .literal "revisions",
    some (.ofList [.get]), none⟩

def nestedPost : Node :=
  ⟨"(?P<id>)", .name "id", true, 1, ["id"], .any, some (.ofList [.get, .delete]),
    some [nestedRevisions]⟩

def nestedPosts : Node :=
  ⟨"posts", .literal "posts", false, 0, ["posts"], .literal "posts", none, some [nestedPost]⟩

/-- From the bottom up, the calls for the revisions of a post do not allow just their methods. -/
theorem methods_of_any_order_upward :
    let selectRevisions : Call := ⟨nestedRevisions, "revisions", none⟩
    let setPost : Call := ⟨nestedPost, "id", some "7"⟩
    ∃ e, (Catalog.bootstrap {} .empty nestedRoutes).outcome.bind
        (·.resource "wp/v2" "posts") = .ok e ∧ e.conflicts = [] ∧
      ∃ r d, (invokeAll [selectRevisions.words, setPost.words]).run (new e "") = .ok () r ∧
        (invokeAll [setPost.words, selectRevisions.words]).run (new e "") = .ok () d ∧
        r.slots = d.slots ∧ d.methods = .ofList [.get] ∧ r.methods ≠ .ofList [.get] := by
  intro selectRevisions setPost
  have built : ((Catalog.bootstrap {} .empty nestedRoutes).outcome.bind
      (·.resource "wp/v2" "posts")).toOption.any (fun e => e.conflicts = []) = true := by
    decide +kernel
  have grew : (RouteTree.ofRoutes {} nestedRoutes).outcome.toOption.any (fun t =>
      t.resource? "wp/v2" "posts" = some ⟨"posts", nestedPosts, .empty⟩) = true := by
    decide +kernel
  obtain ⟨e, found, quiet⟩ := exists_ok_of_any built
  obtain ⟨catalog, made, listed⟩ := Catalog.exists_of_bind found
  obtain ⟨t, folded, placed⟩ := exists_ok_of_any grew
  have unreserved : ∀ n ∈ nestedPosts.preorder, n.level ≠ 0 → ∀ name ∈ n.names,
      camelCase name ∉ Endpoint.reservedNames := by
    decide +kernel
  have down : nestedPosts.Descent ([nestedPost] ++ [nestedRevisions]) :=
    ⟨List.mem_cons_self, List.mem_cons_self, trivial⟩
  have ends : nestedRevisions.methods = some (.ofList [.get]) := rfl
  have each : [setPost, selectRevisions].map (·.node) = [nestedPost] ++ [nestedRevisions] := rfl
  have proper : ∀ c ∈ [setPost, selectRevisions], c.Proper := by
    intro c hc
    rcases List.mem_cons.1 hc with rfl | hc
    · exact ⟨List.mem_cons_self, by decide +kernel⟩
    · cases List.mem_singleton.1 hc
      exact ⟨List.mem_cons_self, by decide +kernel⟩
  have same : [selectRevisions, setPost].Perm [setPost, selectRevisions] := .swap _ _ _
  obtain ⟨r, d, upward, downward, slots, last, condition, _⟩ :=
    methods_of_any_order made listed folded (of_decide_eq_true placed) (of_decide_eq_true quiet)
      unreserved down ends each proper same ""
  refine ⟨e, found, of_decide_eq_true quiet, r, d, upward, downward, slots, last, ?_⟩
  rw [ne_eq, condition]
  decide

/-- A call for a post after that for its revisions lets the revisions be deleted. -/
theorem methods_fall_back :
    ((Catalog.bootstrap {} .empty nestedRoutes).outcome.bind
      (·.resource "wp/v2" "posts")).toOption.map (fun e =>
        match (do invoke "revisions" none; invoke "id" (some "7")).run (new e "") with
        | .ok _ r => some (r.slots.values, r.methods)
        | .error .. => none) =
      some (some (["posts", "7", "revisions"], .ofList [.get, .delete])) := by
  decide +kernel

end RestRoutes.Request
