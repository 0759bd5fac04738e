import Mathlib.Data.List.Basic
import RestRoutes.Proofs.Strictness

/-!
What bootstrapping warns about. Every step leaves the warnings that its state has a record of
(`Logged.recorded_foldlM`), so a blueprint warns of its conflicts and of nothing else; components
warn of patterns that they cannot use. A lenient bootstrap therefore warns of each bad pattern of
each route, and then of each conflict that its catalog has or that it is refused for
(`Catalog.warnings_bootstrap`).
-/
namespace RestRoutes

/-- A walk puts on record what its steps do, if each does so in any state and the walk goes on. -/
theorem record_foldlM {α β ν : Type} {m : Type → Type} [Monad m] {record : m β → List ν}
    {f : β → α → m β} {w : α → List ν} (stop : ∀ b, record (pure b) = [])
    (step : ∀ b x (walk : β → m β), ∃ b', record (f b x >>= walk) = w x ++ record (walk b'))
    (xs : List α) (b : β) : record (xs.foldlM f b) = xs.flatMap w := by
  induction xs generalizing b with
  | nil => exact stop b
  | cons x xs ih =>
      obtain ⟨b', recorded⟩ := step b x (xs.foldlM f)
      rw [List.foldlM_cons, recorded, ih, List.flatMap_cons]

namespace Logged

variable {α β : Type}

def warnings (x : Logged α) : List Notice := x.notices.filter (·.severity = .warn)

@[simp] theorem warnings_pure (a : α) : (pure a : Logged α).warnings = [] := rfl

@[simp] theorem warnings_bind (x : Logged α) (f : α → Logged β) :
    (x >>= f).warnings = x.warnings ++ (f x.value).warnings := List.filter_append ..

@[simp] theorem warnings_map (f : α → β) (x : Logged α) : (f <$> x).warnings = x.warnings := by
  rw [← bind_pure_comp, warnings_bind, warnings_pure, List.append_nil]

/-- If each step adds its warnings to what the state has on record, so does a walk. -/
theorem recorded_foldlM {f : β → α → Logged β} {record : β → List Notice}
    (step : ∀ b x, record (f b x).value = record b ++ (f b x).warnings) (xs : List α) (b : β) :
    record (xs.foldlM f b).value = record b ++ (xs.foldlM f b).warnings := by
  induction xs generalizing b with
  | nil => exact (List.append_nil _).symm
  | cons x xs ih =>
      rw [List.foldlM_cons, value_bind, warnings_bind, ih, step, List.append_assoc]

/-- A walk warns of what its steps warn of, if this does not depend on the state. -/
theorem warnings_foldlM {f : β → α → Logged β} {w : α → List Notice}
    (step : ∀ b x, (f b x).warnings = w x) (xs : List α) (b : β) :
    (xs.foldlM f b).warnings = xs.flatMap w := by
  refine record_foldlM warnings_pure (fun b x walk => ⟨(f b x).value, ?_⟩) xs b
  rw [warnings_bind, step]

end Logged

namespace Build

variable {α β : Type}

def warnings (x : Build α) : List Notice := x.run.warnings

@[simp] theorem warnings_pure (a : α) : (pure a : Build α).warnings = [] := rfl

@[simp] theorem warnings_lift (x : Logged α) : (liftM x : Build α).warnings = x.warnings :=
  Logged.warnings_map _ _

theorem warnings_bind_ok {x : Build α} {a : α} (h : x.outcome = .ok a) (f : α → Build β) :
    (x >>= f).warnings = x.warnings ++ (f a).warnings := by
  change (x.run >>= ExceptT.bindCont f).warnings = _
  rw [Logged.warnings_bind, show x.run.value = .ok a from h]
  rfl

theorem warnings_foldlM {f : β → α → Build β} {g : β → α → β} {w : α → List Notice}
    (succeeds : ∀ b x, (f b x).outcome = .ok (g b x)) (step : ∀ b x, (f b x).warnings = w x)
    (xs : List α) (b : β) : (xs.foldlM f b).warnings = xs.flatMap w := by
  refine record_foldlM warnings_pure (fun b x walk => ⟨g b x, ?_⟩) xs b
  rw [warnings_bind_ok (succeeds b x), step]

theorem outcome_mapM_ok {f : α → Build β} {g : α → β} (succeeds : ∀ x, (f x).outcome = .ok (g x))
    (xs : List α) : (xs.mapM f).outcome = .ok (xs.map g) := by
  have verdicts : ∀ x, (f x).outcome = verdict ((fun _ => none) x) (g x) := succeeds
  rw [outcome_mapM verdicts, List.findSome?_eq_none_iff.2 fun _ _ => rfl, verdict_none]

theorem warnings_mapM {f : α → Build β} {g : α → β} {w : α → List Notice}
    (succeeds : ∀ x, (f x).outcome = .ok (g x)) (step : ∀ x, (f x).warnings = w x) (xs : List α) :
    (xs.mapM f).warnings = xs.flatMap w := by
  induction xs with
  | nil => rfl
  | cons x xs ih =>
      rw [List.mapM_cons, warnings_bind_ok (succeeds x), step,
        warnings_bind_ok (outcome_mapM_ok succeeds xs), ih, warnings_pure, List.append_nil,
        List.flatMap_cons]

end Build

/-! Patterns -/

namespace Component

variable {options : Options}

/-- What is wrong with the pattern of a placeholder that does not compile. -/
def unusable? (text : String) : Option InvalidPattern :=
  match Segment.classify text with
  | .literal _ => none
  | .dynamic group =>
    match Pattern.compile group.pattern with
    | .ok _ => none
    | .error flaw => some ⟨group.pattern, flaw⟩

theorem unusable?_eq (text : String) : unusable? text = (Segment.classify text).flaw? := by
  refine Option.ext fun cause => ?_
  rw [flaw?_eq_some_iff, unusable?, Unusable]
  cases Segment.classify text with
  | literal text' => simp
  | dynamic group =>
      obtain ⟨pattern, flaw⟩ := cause
      cases compiled : Pattern.compile group.pattern <;> simp [compiled, eq_comm]

theorem warnings_ofText (lenient : options.strictPatterns = false) (route text : String) :
    (ofText options route text).warnings =
      ((unusable? text).map (.unusablePattern route text)).toList := by
  rw [unusable?_eq, Segment.flaw?]
  unfold ofText
  cases hmixed : !(Segment.classify text).isDynamic && opensGroup text <;>
    cases hv : (Segment.classify text).validator <;> simp [hmixed, hv, lenient]
  all_goals rfl

end Component

namespace RouteTree

variable {options : Options}

def patternWarnings (entry : String × RouteDefinition) : List Notice :=
  (componentsOf entry.1 entry.2).filterMap fun text =>
    (Component.unusable? text).map (.unusablePattern entry.1 text)

theorem outcome_withRoute_lenient (lenient : options.strictPatterns = false) (t : RouteTree)
    (entry : String × RouteDefinition) :
    (t.withRoute options entry.1 entry.2).outcome = .ok (t.add entry.1 entry.2) := by
  rw [outcome_withRoute, refusal?_lenient lenient, Build.verdict_none]

theorem warnings_withRoute (lenient : options.strictPatterns = false) (t : RouteTree)
    (entry : String × RouteDefinition) :
    (t.withRoute options entry.1 entry.2).warnings = patternWarnings entry := by
  have accepted : ∀ text, (Component.ofText options entry.1 text).outcome =
      .ok (.lenient text) := by
    intro text
    rw [Component.outcome_ofText, Component.refusal?, lenient]
    rfl
  unfold withRoute patternWarnings componentsOf
  cases relative? entry.1 entry.2.ns with
  | none => rfl
  | some path =>
      have parts := Build.warnings_mapM accepted (Component.warnings_ofText lenient entry.1)
        (Path.split path)
      rw [Build.warnings_bind_ok (Build.outcome_mapM_ok accepted _), parts,
        List.filterMap_eq_flatMap_toList]
      cases (Path.split path).map Component.lenient <;> exact List.append_nil _

theorem warnings_ofList (lenient : options.strictPatterns = false)
    (entries : List (String × RouteDefinition)) :
    (ofList options entries).warnings = entries.flatMap patternWarnings :=
  Build.warnings_foldlM (outcome_withRoute_lenient lenient) (warnings_withRoute lenient) entries
    empty

end RouteTree

/-! Conflicts -/

namespace AliasTable

def warned (t : AliasTable) : List Notice := t.conflicts.map .conflict

/-- A setter that is put forward makes a conflict and a warning about it, or neither. -/
theorem warned_register (t : AliasTable) (label : String) (origin : Place) (setter : Setter) :
    (t.register label origin setter).value.1.warned =
      t.warned ++ (t.register label origin setter).warnings := by
  cases found : t.entries.get? label with
  | none =>
      rw [register_of_free _ _ found]
      exact (List.append_nil _).symm
  | some kept =>
      by_cases same : kept.setter = setter
      · rw [← same, register_of_same _ found]
        exact (List.append_nil _).symm
      · rw [register_of_conflict found same]
        exact List.map_append

end AliasTable

namespace Blueprint

theorem warned_registerNode (options : Options) (t : AliasTable) (n : Node) :
    (registerNode options t n).value.warned = t.warned ++ (registerNode options t n).warnings := by
  unfold registerNode
  split
  · exact (List.append_nil _).symm
  · refine Logged.recorded_foldlM (fun t name => ?_) n.names t
    have registered := t.warned_register (camelCase name) ⟨n.component, n.level⟩ (.ofNode options n)
    simpa using registered

/-- A blueprint warns of its conflicts, in the order in which they came up. -/
theorem warnings_ofTree (options : Options) (ns : String) (tree : ResourceTree) :
    (ofTree options ns tree).warnings =
      (ofTree options ns tree).value.conflicts.map .conflict := by
  have recorded := Logged.recorded_foldlM (warned_registerNode options) tree.root.preorder
    (.empty ns tree.name)
  rw [ofTree, Logged.warnings_bind, Logged.warnings_pure, List.append_nil]
  exact recorded.symm

end Blueprint

namespace Endpoint

theorem warnings_attach (e : Endpoint) (name : String) (c : Capability) :
    (e.attach name c).warnings = [] := by
  unfold attach
  split
  · rfl
  · split <;> rfl

theorem warnings_ofBlueprint (b : Blueprint) (mixins : MixinTable) :
    (ofBlueprint b mixins).warnings = [] := by
  have quiet {α : Type} {f : Endpoint → α → Logged Endpoint} (step : ∀ e x, (f e x).warnings = [])
      (xs : List α) (e : Endpoint) : (xs.foldlM f e).warnings = [] := by
    rw [Logged.warnings_foldlM step, List.flatMap_eq_nil_iff]
    exact fun _ _ => rfl
  rw [ofBlueprint, Logged.warnings_bind, quiet fun _ _ => warnings_attach .., List.nil_append]
  exact quiet (fun _ _ => warnings_attach ..) _ _

end Endpoint

/-! The order of a catalog -/

namespace Dict

variable {α β : Type}

/-- The entries of a map of maps, each with both of its keys. -/
def nested (d : Dict String (Dict String α)) : List ((String × String) × α) :=
  d.entries.flatMap fun outer => outer.2.entries.map fun inner => ((outer.1, inner.1), inner.2)

theorem mem_nested_iff {d : Dict String (Dict String α)} {place : String × String} {v : α} :
    (place, v) ∈ d.nested ↔ (d.get? place.1).bind (·.get? place.2) = some v := by
  obtain ⟨k, l⟩ := place
  simp only [nested, List.mem_flatMap, List.mem_map, Option.bind_eq_some_iff, get?_eq_some_iff]
  constructor
  · rintro ⟨⟨k', d'⟩, outer, ⟨l', v'⟩, inner, same⟩
    cases same
    exact ⟨d', outer, inner⟩
  · rintro ⟨d', outer, inner⟩
    exact ⟨(k, d'), outer, (l, v), inner, rfl⟩

theorem pairwise_nested (d : Dict String (Dict String α)) :
    d.nested.Pairwise fun a b => Prod.Lex (· < ·) (· < ·) a.1 b.1 := by
  refine List.pairwise_flatMap.2 ⟨fun outer _ => ?_, d.ascending.imp fun {o o'} below => ?_⟩
  · rw [List.pairwise_map]
    exact outer.2.ascending.imp fun below => .right _ (compareOfLessAndEq_eq_lt.1 below)
  · intro a ha b hb
    obtain ⟨_, _, rfl⟩ := List.mem_map.1 ha
    obtain ⟨_, _, rfl⟩ := List.mem_map.1 hb
    exact .left _ _ (compareOfLessAndEq_eq_lt.1 below)

theorem lex_asymm {a b : String × String} (h : Prod.Lex (· < ·) (· < ·) a b) :
    ¬Prod.Lex (· < ·) (· < ·) b a := by
  intro back
  cases h with
  | left _ _ below =>
      cases back with
      | left _ _ above => exact String.lt_asymm below above
      | right _ _ => exact String.lt_irrefl _ below
  | right _ below =>
      cases back with
      | left _ _ above => exact String.lt_irrefl _ above
      | right _ above => exact String.lt_asymm below above

theorem nested_eq_map {d : Dict String (Dict String α)} {d' : Dict String (Dict String β)}
    {f : (String × String) → β → α}
    (same : ∀ k l, (d.get? k).bind (·.get? l) = ((d'.get? k).bind (·.get? l)).map (f (k, l))) :
    d.nested = d'.nested.map fun e => (e.1, f e.1 e.2) := by
  have ordered : (d'.nested.map fun e => (e.1, f e.1 e.2)).Pairwise
      fun a b => Prod.Lex (· < ·) (· < ·) a.1 b.1 := by
    rw [List.pairwise_map]
    exact d'.pairwise_nested
  have nodup : ∀ {es : List ((String × String) × α)},
      (es.Pairwise fun a b => Prod.Lex (· < ·) (· < ·) a.1 b.1) → es.Nodup := by
    intro es sorted
    refine sorted.imp ?_
    rintro a b below rfl
    exact lex_asymm below below
  refine List.Perm.eq_of_pairwise (fun a b _ _ below above => absurd above (lex_asymm below))
    d.pairwise_nested ordered ?_
  refine (List.perm_ext_iff_of_nodup (nodup d.pairwise_nested) (nodup ordered)).2 ?_
  rintro ⟨place, v⟩
  rw [mem_nested_iff, same, Option.map_eq_some_iff, List.mem_map]
  constructor
  · rintro ⟨w, found, rfl⟩
    exact ⟨(place, w), mem_nested_iff.2 found, rfl⟩
  · rintro ⟨⟨place', w⟩, listed, equal⟩
    cases equal
    exact ⟨w, mem_nested_iff.1 listed, rfl⟩

end Dict

namespace Catalog

variable {options : Options} {mixins : MixinTable}

theorem endpoints_eq_nested (c : Catalog) : c.endpoints = c.namespaces.nested.map (·.2) := by
  simp [endpoints, Dict.nested, Dict.values, List.flatMap_map, List.map_flatMap, Function.comp_def]

theorem treeEntries_eq_nested (t : RouteTree) :
    treeEntries t = t.namespaces.nested.map fun e => (e.1.1, e.2) := by
  simp [treeEntries, Dict.nested, Dict.values, List.map_flatMap, Function.comp_def]

theorem endpoints_ofTree (entries : List (String × RouteDefinition)) :
    (ofTree options mixins (.grown entries)).endpoints =
      (treeEntries (.grown entries)).map (compile options mixins) := by
  have nested := Dict.nested_eq_map (f := fun place tree => compile options mixins (place.1, tree))
    (get?_ofTree options mixins entries)
  rw [endpoints_eq_nested, nested, treeEntries_eq_nested, List.map_map, List.map_map]
  rfl

theorem warnings_addTree (c : Catalog) (entry : String × ResourceTree) :
    (addTree options mixins c entry).warnings =
      (compile options mixins entry).conflicts.map .conflict := by
  have conflicts : (compile options mixins entry).conflicts =
      (Blueprint.ofTree options entry.1 entry.2).value.conflicts :=
    (Endpoint.frame_assembled _ _).2.2.2
  simp only [addTree, Logged.warnings_bind, Logged.warnings_pure, List.append_nil,
    Endpoint.warnings_ofBlueprint, Blueprint.warnings_ofTree, conflicts]

theorem warnings_bootstrap_eq (lenient : options.strictPatterns = false) (mixins : MixinTable)
    (routes : RouteMap) :
    (bootstrap options mixins routes).warnings =
      routes.entries.flatMap RouteTree.patternWarnings ++
        (ofTree options mixins (.grown routes.entries)).conflicts.map .conflict := by
  have tree : (RouteTree.ofRoutes options routes).outcome = .ok (.grown routes.entries) :=
    RouteTree.outcome_ofList lenient routes.entries
  have patterns : (RouteTree.ofRoutes options routes).warnings =
      routes.entries.flatMap RouteTree.patternWarnings :=
    RouteTree.warnings_ofList lenient routes.entries
  have resources : ((treeEntries (.grown routes.entries)).foldlM (addTree options mixins)
      empty).warnings =
        (ofTree options mixins (.grown routes.entries)).conflicts.map .conflict := by
    rw [Logged.warnings_foldlM warnings_addTree, conflicts, endpoints_ofTree, List.flatMap_map,
      List.map_flatMap]
  unfold bootstrap
  rw [Build.warnings_bind_ok tree, patterns, Build.warnings_bind_ok (Build.outcome_lift _),
    Build.warnings_lift, resources, Build.warnings_bind_ok (Build.outcome_lift _)]
  split <;> exact congrArg _ (List.append_nil _)

/-- What a lenient bootstrap ends with: a catalog, or an error about its conflicts. -/
inductive Reports (conflicts : List AliasConflict) : Except Error Catalog → Prop where
  | accepted {c : Catalog} : c.conflicts = conflicts → Reports conflicts (.ok c)
  | refused : Reports conflicts (.error (.aliasConflicts conflicts))

/-- A lenient bootstrap warns of each placeholder that does not compile, route by route and from
left to right, and then of each conflict that its catalog or its error reports. The messages name
the route and the component. -/
theorem warnings_bootstrap (lenient : options.strictPatterns = false) (mixins : MixinTable)
    (routes : RouteMap) :
    ∃ conflicts, Reports conflicts (bootstrap options mixins routes).outcome ∧
      (bootstrap options mixins routes).warnings =
        (routes.entries.flatMap fun (route, d) =>
          (RouteTree.componentsOf route d).filterMap fun text =>
            (Component.unusable? text).map (.unusablePattern route text)) ++
          conflicts.map .conflict ∧
      (bootstrap options mixins routes).warnings.map Notice.message =
        (routes.entries.flatMap fun (route, d) =>
          (RouteTree.componentsOf route d).filterMap fun text =>
            (Component.unusable? text).map fun cause =>
              s!"route `{route}`: {cause.message}; `{text}` will accept any value") ++
          conflicts.map AliasConflict.text := by
  have warned := warnings_bootstrap_eq lenient mixins routes
  refine ⟨(ofTree options mixins (.grown routes.entries)).conflicts, ?_, warned, ?_⟩
  · rw [outcome_bootstrap,
      List.findSome?_eq_none_iff.2 fun _ _ => RouteTree.refusal?_lenient lenient _,
      Option.none_or, refusal?]
    split
    · exact .refused
    · exact .accepted rfl
  · simp only [warned, List.map_append, List.map_flatMap, List.map_map, RouteTree.patternWarnings,
      List.map_filterMap, Option.map_map]
    rfl

/-- One bad pattern in two routes, which share its position, and a label that comes twice. -/
def spoiled : RouteMap :=
  .ofList [("/wp/v2/posts/(?P<id>+)", ⟨"wp/v2", [.get], []⟩),
    ("/wp/v2/posts/(?P<id>+)/meta/(?P<id>[0-9])", ⟨"wp/v2", [.get], []⟩)]

/-- There is a warning for each route that the pattern is in, though the tree has it once. -/
theorem warnings_bootstrap_spoiled :
    ({} : Options).strictPatterns = false ∧
      ∃ conflicts, Reports conflicts (bootstrap {} .empty spoiled).outcome ∧
        conflicts = [⟨"wp/v2", "posts", "id", ⟨"(?P<id>+)", 1⟩, ⟨"(?P<id>[0-9])", 3⟩⟩] ∧
        (bootstrap {} .empty spoiled).warnings =
          [.unusablePattern "/wp/v2/posts/(?P<id>+)" "(?P<id>+)" ⟨"+", .nothingToRepeat⟩,
            .unusablePattern "/wp/v2/posts/(?P<id>+)/meta/(?P<id>[0-9])" "(?P<id>+)"
              ⟨"+", .nothingToRepeat⟩] ++ conflicts.map .conflict := by
  have lenient : ({} : Options).strictPatterns = false := rfl
  obtain ⟨conflicts, reports, warned, _⟩ := warnings_bootstrap lenient .empty spoiled
  have made : (bootstrap {} .empty spoiled).outcome.toOption.any (fun c => c.conflicts =
      [⟨"wp/v2", "posts", "id", ⟨"(?P<id>+)", 1⟩, ⟨"(?P<id>[0-9])", 3⟩⟩]) = true := by
    decide +kernel
  obtain ⟨c, outcome, listed⟩ := exists_ok_of_any made
  refine ⟨lenient, conflicts, reports, ?_, warned.trans ?_⟩
  · rw [outcome] at reports
    cases reports with
    | accepted same => exact same.symm.trans (of_decide_eq_true listed)
  · congr 1
    decide +kernel

end Catalog
end RestRoutes
