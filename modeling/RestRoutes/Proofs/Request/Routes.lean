import RestRoutes.Proofs.Request.Paths

/-!
Requests that follow a route. For each component of the route there is a call, by the name that the
route itself uses; all calls succeed, the path is that of the route, and it allows the methods of
the routes that end there (`request_along_route`).
-/
namespace RestRoutes

/-- A component of a route below that of the resource, and the value that is given for it. -/
structure Step where
  text : String
  value : Option String

namespace Step

def words (s : Step) : String × Option String :=
  (camelCase (Segment.classify s.text).label, s.value)

def filled (s : Step) : String := s.value.getD s.text

/-- A placeholder has a value that it accepts. Nothing else has one. -/
structure Fits (s : Step) : Prop where
  value_isSome : s.value.isSome = (Segment.classify s.text).isDynamic
  accepted : ∀ v, s.value = some v → (Component.lenient s.text).validator.accepts v = true

def callAt (s : Step) (n : Node) : Call := ⟨n, (Segment.classify s.text).label, s.value⟩

variable {s : Step} {n : Node}

theorem proper_callAt (fits : s.Fits) (stands : n.Stands s.text) : (s.callAt n).Proper :=
  ⟨stands.name_mem, fits.value_isSome.trans stands.isDynamic_eq.symm⟩

theorem value_fill_callAt (fits : s.Fits) (stands : n.Stands s.text) :
    (s.callAt n).fill.value = s.filled := by
  have given := fits.value_isSome
  unfold callAt Call.fill filled
  cases hv : s.value with
  | some v => rfl
  | none =>
      rw [hv, Option.isSome_none, ← stands.isDynamic_eq] at given
      exact stands.literal_eq given.symm

theorem accepts_filled (fits : s.Fits) (stands : n.Stands s.text) :
    n.validator.accepts s.filled = true := by
  cases hv : s.value with
  | some v =>
      rw [stands.validator_eq, filled, hv]
      exact fits.accepted v hv
  | none =>
      have given := fits.value_isSome
      rw [hv, Option.isSome_none, ← stands.isDynamic_eq] at given
      rw [filled, hv]
      exact stands.accepts_text given.symm

end Step

/-- Calls that go down from a position, one for each step. -/
structure Node.Along (n : Node) (steps : List Step) (cs : List Call) : Prop where
  down : n.Descent (cs.map (·.node))
  proper : ∀ c ∈ cs, c.Proper
  accepted : ∀ c ∈ cs, c.node.validator.accepts c.fill.value = true
  words : cs.map Call.words = steps.map Step.words
  values : cs.map (·.fill.value) = steps.map Step.filled

theorem Node.Along.cons {n c : Node} {s : Step} {steps : List Step} {cs : List Call}
    (child : c ∈ n.children) (fits : s.Fits) (stands : c.Stands s.text)
    (rest : c.Along steps cs) : n.Along (s :: steps) (s.callAt c :: cs) where
  down := ⟨child, rest.down⟩
  proper d hd := by
    rcases List.mem_cons.1 hd with rfl | hd
    · exact Step.proper_callAt fits stands
    · exact rest.proper d hd
  accepted d hd := by
    rcases List.mem_cons.1 hd with rfl | hd
    · rw [Step.value_fill_callAt fits stands]
      exact Step.accepts_filled fits stands
    · exact rest.accepted d hd
  words := congrArg (s.words :: ·) rest.words
  values := by
    rw [List.map_cons, List.map_cons, Step.value_fill_callAt fits stands, rest.values]

theorem RouteTree.exists_calls {entries : List (String × RouteDefinition)} {ns name : String}
    {tree : ResourceTree} (h : (grown entries).resource? ns name = some tree) {b : Branch}
    (hb : b ∈ branches ns name entries) {before : List String} {n : Node}
    (hn : tree.root.at? (before.map fun t => (Segment.classify t).key) = some n)
    {steps : List Step} (split : b.below = before ++ steps.map (·.text))
    (fits : ∀ s ∈ steps, s.Fits) :
    ∃ cs, n.Along steps cs ∧
      tree.root.at? b.keys = some ((cs.map (·.node)).getLast?.getD n) := by
  induction steps generalizing before n with
  | nil =>
      refine ⟨[], ⟨trivial, nofun, nofun, rfl, rfl⟩, ?_⟩
      rw [Branch.keys, split]
      simpa using hn
  | cons s steps ih =>
      have split' : b.below = (before ++ [s.text]) ++ steps.map (·.text) := by simpa using split
      have reached : tree.root.at? ((before ++ [s.text]).map fun t => (Segment.classify t).key) ≠
          none := by
        rw [at?_root h, ne_eq, Node.grow_eq_none_iff, ← ne_eq, arrivalsAt_ne_nil_iff name]
        refine ⟨b, hb, ?_⟩
        rw [Branch.keys, split']
        exact (List.prefix_append _ _).map _
      obtain ⟨c, hc⟩ := Option.ne_none_iff_exists'.1 reached
      have child : c ∈ n.children := by
        rw [List.map_append, Node.at?_append, hn, Option.bind_some] at hc
        obtain ⟨c', hc', same⟩ := Option.bind_eq_some_iff.1 hc
        cases same
        exact Node.mem_of_child? hc'
      have stands := stands_of_at? h hb (by simpa using split) hc
      obtain ⟨cs, along, last⟩ := ih hc split' fun t ht => fits t (List.mem_cons_of_mem _ ht)
      refine ⟨s.callAt c :: cs, .cons child (fits s List.mem_cons_self) stands along, ?_⟩
      rw [last, List.map_cons, List.getLast?_cons]
      rfl

namespace Request

variable {options : Options} {entries : List (String × RouteDefinition)} {ns resource : String}
  {tree : ResourceTree} {ms : List Mixin} {cs : List Call}

theorem slots_of_calls (e : Endpoint) (base : String)
    (levels : cs.map (·.node.level) = List.range' 1 cs.length) :
    ((cs.map Call.fill).foldl write (new e base)).slots.entries =
      (0, e.resource) :: cs.map fun c => (c.node.level, c.fill.value) := by
  have ascending : (cs.map Call.fill).Pairwise (·.level < ·.level) := by
    have sorted : (cs.map (·.node.level)).Pairwise (· < ·) := levels ▸ List.pairwise_lt_range'
    rw [List.pairwise_map] at sorted ⊢
    exact sorted
  have below : ∀ entry ∈ (new e base).slots.entries, ∀ f ∈ cs.map Call.fill,
      entry.1 < f.level := by
    intro entry he f hf
    cases List.mem_singleton.1 he
    obtain ⟨c, hc, rfl⟩ := List.mem_map.1 hf
    have level : c.node.level ∈ cs.map (·.node.level) := List.mem_map_of_mem hc
    rw [levels, List.mem_range'_1] at level
    exact level.1
  rw [entries_foldl_write ascending below, List.map_map]
  rfl

theorem levels_of_calls (placed : (RouteTree.grown entries).resource? ns resource = some tree)
    {steps : List Step} (calls : tree.root.Along steps cs) :
    cs.map (·.node.level) = List.range' 1 cs.length := by
  have levels := (RouteTree.levels_of_descent placed (RouteTree.mem_root tree) calls.down).2
  rw [(RouteTree.reflects_root placed).level_eq, List.map_map, List.length_map] at levels
  exact levels

theorem validate_of_calls {r : Request}
    (placed : (RouteTree.grown entries).resource? ns resource = some tree)
    (literal : (Segment.classify resource).isDynamic = false) {steps : List Step}
    (calls : tree.root.Along steps cs) (flat : r.target.levels = .ofNodes tree.root.preorder)
    (slots : r.slots.entries = (0, resource) :: cs.map fun c => (c.node.level, c.fill.value)) :
    r.validate = .ok () := by
  have levels := levels_of_calls placed calls
  have deepest : r.slots.keys.getLast?.getD 0 = cs.length := by
    have keys : r.slots.keys = 0 :: cs.map (·.node.level) := by
      rw [Dict.keys, slots, List.map_cons, List.map_map]
      rfl
    have whole : 0 :: List.range' 1 cs.length = List.range' 0 (cs.length + 1) := rfl
    rw [keys, levels, whole, List.getLast?_range']
    simp
  refine validate_of_positions flat fun level reached => ?_
  rw [deepest] at reached
  cases level with
  | zero =>
      refine ⟨tree.root, RouteTree.mem_root tree, (RouteTree.reflects_root placed).level_eq,
        resource, ?_, ?_⟩
      · rw [Dict.get?_eq_some_iff, slots]
        exact List.mem_cons_self
      · have classified := Segment.classify_of_not_isDynamic literal
        rw [RouteTree.validator_root placed, Component.lenient, classified]
        exact Validator.literal_accepts_self resource
  | succ depth =>
      have called : depth + 1 ∈ cs.map (·.node.level) := by
        rw [levels, List.mem_range'_1]
        omega
      obtain ⟨c, hc, level⟩ := List.mem_map.1 called
      obtain ⟨inside, _⟩ :=
        RouteTree.levels_of_descent placed (RouteTree.mem_root tree) calls.down
      refine ⟨c.node, inside _ (List.mem_map_of_mem hc), level, c.fill.value, ?_,
        calls.accepted c hc⟩
      rw [Dict.get?_eq_some_iff, slots, ← level]
      exact List.mem_cons_of_mem _ (List.mem_map.2 ⟨c, hc, rfl⟩)

theorem renderPath_of_calls
    (placed : (RouteTree.grown entries).resource? ns resource = some tree)
    (literal : (Segment.classify resource).isDynamic = false) {steps : List Step}
    (calls : tree.root.Along steps cs) (base : String) :
    ((cs.map Call.fill).foldl write (new (.ofTree options ns tree ms) base)).renderPath =
      .ok ("/".intercalate ((ns :: resource :: steps.map Step.filled).filter (!·.isEmpty))) := by
  have slots := slots_of_calls (.ofTree options ns tree ms) base (levels_of_calls placed calls)
  have target : ((cs.map Call.fill).foldl write (new (.ofTree options ns tree ms) base)).target =
      .ofTree options ns tree ms := target_foldl_write _
  have flat := (congrArg Endpoint.levels target).trans Endpoint.levels_ofTree
  rw [Endpoint.resource_ofTree, RouteTree.name_of_resource? placed] at slots
  rw [renderPath_of_valid (validate_of_calls placed literal calls flat slots), target,
    Endpoint.ns_ofTree, Dict.values, slots, List.map_cons, List.map_map, ← calls.values]
  rfl

theorem methods_of_route {r : Request} {b : Branch}
    (placed : (RouteTree.grown entries).resource? ns resource = some tree)
    (hb : b ∈ RouteTree.branches ns resource entries) {n : Node}
    (last : (cs.map (·.node)).getLast? = some n) (hn : tree.root.at? b.keys = some n) :
    ((cs.map Call.fill).foldl write r).methods =
      .ofList (((RouteTree.branches ns resource entries).filter
        (·.keys = b.keys)).flatMap (·.definition.methods)) := by
  have reflects := RouteTree.reflects_of_at? placed hn
  cases ends : n.methods with
  | none => exact absurd rfl (reflects.methods_eq_none_iff.1 ends b hb)
  | some allowed =>
      rw [methods_of_last last ends]
      exact reflects.eq_of_methods ends

/-- Calls along a route, with values that its placeholders accept, all succeed. They make the path
of the route and allow the methods of all routes that end at its position. -/
theorem request_along_route {mixins : MixinTable} {routes : RouteMap} {catalog : Catalog}
    {e : Endpoint} (made : (Catalog.bootstrap options mixins routes).outcome = .ok catalog)
    (found : catalog.resource ns resource = .ok e)
    (literal : (Segment.classify resource).isDynamic = false) (quiet : e.conflicts = [])
    (unreserved : ∀ b ∈ RouteTree.branches ns resource routes.entries, ∀ text ∈ b.below,
      camelCase (Segment.classify text).label ∉ Endpoint.reservedNames)
    {b : Branch} (hb : b ∈ RouteTree.branches ns resource routes.entries) {steps : List Step}
    (along : b.below = steps.map (·.text)) (some_steps : steps ≠ [])
    (fits : ∀ s ∈ steps, s.Fits) (base : String) :
    ∃ r, (invokeAll (steps.map Step.words)).run (new e base) = .ok () r ∧
      r.renderPath =
        .ok ("/".intercalate ((ns :: resource :: steps.map Step.filled).filter (!·.isEmpty))) ∧
      r.methods = .ofList (((RouteTree.branches ns resource routes.entries).filter
        (·.keys = b.keys)).flatMap (·.definition.methods)) := by
  obtain ⟨tree, ms, placed, rfl⟩ := Catalog.exists_tree_of_bootstrap made found
  have start : tree.root.at? (([] : List String).map fun t => (Segment.classify t).key) =
      some tree.root := rfl
  obtain ⟨cs, calls, last⟩ := RouteTree.exists_calls placed hb start along fits
  have names_free : ∀ n ∈ tree.root.preorder, n.level ≠ 0 → ∀ name ∈ n.names,
      camelCase name ∉ Endpoint.reservedNames := by
    intro n hn below name hname
    obtain ⟨b', hb', text, htext, rfl⟩ :=
      RouteTree.exists_text_of_mem_names placed hn below hname
    exact unreserved b' hb' text htext
  obtain ⟨apart, runs⟩ :=
    run_calls_below placed quiet names_free calls.down (.refl _) calls.proper base
  rw [calls.words] at runs
  have some_calls : cs.map (·.node) ≠ [] := fun none_made => by
    have words := congrArg List.length calls.words
    rw [List.length_map, List.map_eq_nil_iff.1 none_made, List.length_map] at words
    exact some_steps (List.length_eq_zero_iff.1 words.symm)
  have ends := List.getLast?_eq_some_getLast some_calls
  rw [ends, Option.getD_some] at last
  exact ⟨_, runs, renderPath_of_calls placed literal calls base,
    methods_of_route placed hb ends last⟩

def mergedRoutes : RouteMap :=
  .ofList [("/wp/v2/posts/(?P<id>[0-9]+)", ⟨"wp/v2", [.get, .delete], []⟩),
    ("/wp/v2/posts/(?P<parent>[0-9]+)/revisions", ⟨"wp/v2", [.get], []⟩)]

theorem request_along_route_merged :
    ∃ e, (Catalog.bootstrap {} .empty mergedRoutes).outcome.bind (·.resource "wp/v2" "posts") =
        .ok e ∧
      ∃ r, (invokeAll [("parent", some "7"), ("revisions", none)]).run (new e "") = .ok () r ∧
        r.renderPath = .ok "wp/v2/posts/7/revisions" ∧ r.methods = .ofList [.get] := by
  have built : ((Catalog.bootstrap {} .empty mergedRoutes).outcome.bind
      (·.resource "wp/v2" "posts")).toOption.any (fun e => e.conflicts = []) = true := by
    decide +kernel
  obtain ⟨e, found, quiet⟩ := exists_ok_of_any built
  obtain ⟨catalog, made, listed⟩ := Catalog.exists_of_bind found
  have unreserved : ∀ text ∈
      (RouteTree.branches "wp/v2" "posts" mergedRoutes.entries).flatMap (·.below),
      camelCase (Segment.classify text).label ∉ Endpoint.reservedNames := by
    decide +kernel
  let steps : List Step := [⟨"(?P<parent>[0-9]+)", some "7"⟩, ⟨"revisions", none⟩]
  let b : Branch := ⟨steps.map (·.text), ⟨"wp/v2", [.get], []⟩⟩
  have parts : RouteTree.componentsOf "/wp/v2/posts/(?P<parent>[0-9]+)/revisions" b.definition =
      ["posts", "(?P<parent>[0-9]+)", "revisions"] := by
    decide +kernel
  have hb : b ∈ RouteTree.branches "wp/v2" "posts" mergedRoutes.entries := by
    refine List.mem_filterMap.2
      ⟨("/wp/v2/posts/(?P<parent>[0-9]+)/revisions", b.definition), ?_, ?_⟩
    · exact List.mem_cons_of_mem _ List.mem_cons_self
    · rw [RouteTree.branch?, parts]
      simp [b, steps]
  have fits : ∀ s ∈ steps, s.Fits := by
    intro s hs
    rcases List.mem_cons.1 hs with rfl | hs
    · refine ⟨by decide +kernel, fun v hv => ?_⟩
      cases hv
      decide +kernel
    · cases List.mem_singleton.1 hs
      exact ⟨by decide +kernel, nofun⟩
  obtain ⟨r, runs, path, methods⟩ := request_along_route made listed (by decide +kernel)
    (of_decide_eq_true quiet) (fun b hb text htext =>
      unreserved text (List.mem_flatMap.2 ⟨b, hb, htext⟩)) hb rfl (by simp [steps]) fits ""
  have words : steps.map Step.words = [("parent", some "7"), ("revisions", none)] := by
    decide +kernel
  rw [words] at runs
  refine ⟨e, found, r, runs, path.trans (congrArg _ (by decide +kernel)),
    methods.trans (congrArg _ ?_)⟩
  decide +kernel

end Request

end RestRoutes
