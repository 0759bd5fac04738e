import RestRoutes.Dump
import RestRoutes.Proofs.Compiled
import RestRoutes.Proofs.Json.RoundTrip
import RestRoutes.Proofs.Levels
import RestRoutes.Proofs.Path.Pieces
import RestRoutes.Proofs.Precedence

/-!
What a catalog's text says. It is JSON, and reading it gives the namespaces and resources of the
catalog in order, each resource with its shapes, the names of its capabilities and its conflicts
(`Catalog.decode?_dump`).
-/
namespace RestRoutes

/-- The entries of a map of lists, one after the other, have at each key the list of this key. -/
theorem Dict.filter_flatMap_entries {α β : Type} (d : Dict Nat (List α)) (f : Nat → α → β)
    (key : β → Nat) (kept : ∀ k x, key (f k x) = k) (k : Nat) :
    (d.entries.flatMap fun e => e.2.map (f e.1)).filter (key · = k) =
      ((d.get? k).getD []).map (f k) := by
  obtain ⟨entries, ascending⟩ := d
  unfold get?
  induction entries with
  | nil => rfl
  | cons e entries ih =>
      obtain ⟨below, rest⟩ := List.pairwise_cons.1 ascending
      rw [List.flatMap_cons, List.filter_append, lookupEntry, ih rest]
      by_cases here : k = e.1
      · subst here
        have absent : lookupEntry e.1 entries = none := by
          rw [Option.eq_none_iff_forall_ne_some]
          intro xs found
          have later := below _ ((lookupEntry_eq_some_iff rest).1 found)
          simp at later
        simp [kept, absent]
      · simp [kept, here, Ne.symm here]

namespace Dump
open Json

/-! What is read of a text -/

structure LevelEntry where
  level : Nat
  component : String
  validator : String
  methods : Option (List String)
deriving DecidableEq, Repr

structure ResourceEntry where
  name : String
  levels : List LevelEntry
  setters : List String
  mixins : List String
  conflicts : List String
deriving DecidableEq, Repr

structure NamespaceEntry where
  name : String
  resources : List ResourceEntry
deriving DecidableEq, Repr

def strings? (v : Value) : Option (List String) := do (← v.items?).mapM Value.string?

def methods? : Value → Option (Option (List String))
  | .null => some none
  | v => (strings? v).map some

def levelOf? (v : Value) : Option LevelEntry := do
  return {
    level := ← (← v.member? "level").natural?
    component := ← (← v.member? "component").string?
    validator := ← (← v.member? "validator").string?
    methods := ← methods? (← v.member? "methods") }

def levels? (v : Value) : Option (List LevelEntry) := do (← v.items?).mapM levelOf?

def resourceOf? (v : Value) : Option ResourceEntry := do
  return {
    name := ← (← v.member? "name").string?
    levels := ← levels? (← v.member? "levels")
    setters := ← strings? (← v.member? "setters")
    mixins := ← strings? (← v.member? "mixins")
    conflicts := ← strings? (← v.member? "alias_conflicts") }

def namespaceOf? (v : Value) : Option NamespaceEntry := do
  return {
    name := ← (← v.member? "name").string?
    resources := ← (← (← v.member? "resources").items?).mapM resourceOf? }

def decode? (text : String) : Option (List NamespaceEntry) := do
  (← (← (← Value.read? levelLimit text).member? "namespaces").items?).mapM namespaceOf?

/-! What is written -/

def LevelEntry.ofShape (level : Nat) (s : Shape) : LevelEntry :=
  ⟨level, s.component, s.validator.source, s.methods.map (·.names)⟩

def ResourceEntry.ofEndpoint (e : Endpoint) : ResourceEntry where
  name := e.resource
  levels := e.levels.entries.flatMap fun entry => entry.2.map (.ofShape entry.1)
  setters := names e "path"
  mixins := names e "mixin"
  conflicts := e.conflicts.map (·.text)

theorem strings?_strings (ss : List String) : strings? (strings ss) = some ss :=
  mapM_eq_some_iff.2 (by rw [List.map_map]; rfl)

theorem levelOf?_shape (level : Nat) (s : Shape) :
    levelOf? (shape level s) = some (.ofShape level s) := by
  obtain ⟨component, validator, methods⟩ := s
  have read : methods? ((methods.map (strings ·.names)).getD .null) =
      some (methods.map (·.names)) := by
    cases methods with
    | none => rfl
    | some ms => exact congrArg (Option.map some) (strings?_strings ms.names)
  simp [levelOf?, shape, Value.member?, Value.natural?, Value.natural, Value.string?, read,
    LevelEntry.ofShape]

theorem levels?_levels (ls : Levels) :
    levels? (levels ls) = some (ls.entries.flatMap fun e => e.2.map (.ofShape e.1)) := by
  refine mapM_eq_some_iff.2 ?_
  simp only [List.map_flatMap, List.map_map]
  congr 1
  funext e
  exact List.map_congr_left fun s _ => levelOf?_shape e.1 s

theorem resourceOf?_endpoint (e : Endpoint) :
    resourceOf? (endpoint e) = some (.ofEndpoint e) := by
  simp [resourceOf?, endpoint, Value.member?, Value.string?, strings?_strings, levels?_levels,
    ResourceEntry.ofEndpoint]

def NamespaceEntry.ofResources (entry : String × Dict String Endpoint) : NamespaceEntry :=
  ⟨entry.1, entry.2.values.map .ofEndpoint⟩

theorem namespaceOf?_resources (entry : String × Dict String Endpoint) :
    namespaceOf? (.object [("name", .string entry.1),
      ("resources", .array (entry.2.values.map endpoint))]) = some (.ofResources entry) := by
  have read : (entry.2.values.map endpoint).mapM resourceOf? =
      some (entry.2.values.map .ofEndpoint) := by
    rw [mapM_eq_some_iff, List.map_map, List.map_map]
    exact List.map_congr_left fun e _ => resourceOf?_endpoint e
  simp [namespaceOf?, Value.member?, Value.string?, Value.items?, read,
    NamespaceEntry.ofResources]

section Fits

variable {n : Nat}

theorem fits_strings (ss : List String) : Fits (n + 1) (strings ss) := by
  refine .array fun v hv => ?_
  obtain ⟨s, _, rfl⟩ := List.mem_map.1 hv
  exact .string s

theorem fits_shape {level : Nat} (word : level < 2 ^ 64) (s : Shape) :
    Fits (n + 2) (shape level s) := by
  refine .object ?_
  simp only [List.forall_mem_cons, List.not_mem_nil, false_imp_iff, implies_true, and_true]
  refine ⟨.number (.natural word), .string _, .string _, ?_⟩
  cases s.methods with
  | none => exact .null
  | some ms => exact fits_strings ms.names

/-- Levels that a machine word can count. -/
def Counted (ls : Levels) : Prop := ∀ level ∈ ls.keys, level < 2 ^ 64

theorem fits_levels {ls : Levels} (h : Counted ls) : Fits (n + 3) (levels ls) := by
  refine .array fun v hv => ?_
  obtain ⟨⟨level, shapes⟩, listed, hv⟩ := List.mem_flatMap.1 hv
  obtain ⟨s, _, rfl⟩ := List.mem_map.1 hv
  exact fits_shape (h level (List.mem_map_of_mem listed)) s

theorem fits_endpoint {e : Endpoint} (h : Counted e.levels) : Fits (n + 4) (endpoint e) := by
  refine .object ?_
  simp only [List.forall_mem_cons, List.not_mem_nil, false_imp_iff, implies_true, and_true]
  exact ⟨.string _, fits_levels h, fits_strings _, fits_strings _, fits_strings _⟩

theorem fits_catalog {c : Catalog} (h : ∀ e ∈ c.endpoints, Counted e.levels) :
    Fits (n + 8) (catalog c) := by
  refine .object ?_
  simp only [List.forall_mem_cons, List.not_mem_nil, false_imp_iff, implies_true, and_true]
  refine .array fun v hv => ?_
  obtain ⟨⟨ns, resources⟩, listed, rfl⟩ := List.mem_map.1 hv
  refine .object ?_
  simp only [List.forall_mem_cons, List.not_mem_nil, false_imp_iff, implies_true, and_true]
  refine ⟨.string _, .array fun v hv => ?_⟩
  obtain ⟨e, he, rfl⟩ := List.mem_map.1 hv
  exact fits_endpoint (h e (List.mem_flatMap.2 ⟨resources, List.mem_map_of_mem listed, he⟩))

end Fits

end Dump

theorem Catalog.read?_dump {c : Catalog} (counted : ∀ e ∈ c.endpoints, Dump.Counted e.levels) :
    Json.Value.read? Json.levelLimit c.dump = some (Dump.catalog c) :=
  (Dump.fits_catalog counted).read?_prettyText

theorem Catalog.decode?_dump_eq {c : Catalog}
    (counted : ∀ e ∈ c.endpoints, Dump.Counted e.levels) :
    Dump.decode? c.dump = some (c.namespaces.entries.map .ofResources) := by
  have read : (c.namespaces.entries.map fun entry => Json.Value.object
      [("name", .string entry.1), ("resources", .array (entry.2.values.map Dump.endpoint))]).mapM
        Dump.namespaceOf? = some (c.namespaces.entries.map .ofResources) := by
    rw [mapM_eq_some_iff, List.map_map, List.map_map]
    exact List.map_congr_left fun entry _ => Dump.namespaceOf?_resources entry
  simp [Dump.decode?, read?_dump counted, Dump.catalog, Json.Value.member?, Json.Value.items?, read]

namespace Dump

theorem mem_names_iff {e : Endpoint} {kind name : String} :
    name ∈ names e kind ↔ ∃ c, e.capabilities.get? name = some c ∧ c.kind = kind := by
  simp [names, Dict.get?_eq_some_iff]

theorem pairwise_names (e : Endpoint) (kind : String) : (names e kind).Pairwise (· < ·) :=
  e.capabilities.pairwise_keys.sublist (List.filter_sublist.map _)

theorem mem_names_iff_of_kind {α : Type} {make : α → Capability} {e : Endpoint}
    {kind name : String} (made : ∀ c : Capability, c.kind = kind ↔ ∃ a, c = make a) :
    name ∈ names e kind ↔ ∃ a, e.capabilities.get? name = some (make a) := by
  simp [mem_names_iff, made]

theorem mem_setters_iff {e : Endpoint} {name : String} :
    name ∈ names e "path" ↔ ∃ s, e.capabilities.get? name = some (.path s) :=
  mem_names_iff_of_kind fun c => by cases c <;> simp [Capability.kind]

theorem mem_mixins_iff {e : Endpoint} {name : String} :
    name ∈ names e "mixin" ↔ ∃ m, e.capabilities.get? name = some (.mixin m) :=
  mem_names_iff_of_kind fun c => by cases c <;> simp [Capability.kind]

theorem toLower_name (m : Method) : toLower m.name = m.name := by
  cases m <;> decide +kernel

/-- What an entry tells of an endpoint: the shapes of each level, level by level and in their order,
the names of its capabilities by their kind, and its conflicts. -/
structure ResourceEntry.Describes (r : ResourceEntry) (e : Endpoint) : Prop where
  name : r.name = e.resource
  ascending : r.levels.Pairwise (·.level ≤ ·.level)
  shapes : ∀ k, r.levels.filter (·.level = k) = ((e.levels.get? k).getD []).map (.ofShape k)
  lower_case : ∀ l ∈ r.levels, ∀ ms ∈ l.methods, ∀ m ∈ ms, toLower m = m
  setters_ascending : r.setters.Pairwise (· < ·)
  mixins_ascending : r.mixins.Pairwise (· < ·)
  disjoint : r.setters.Disjoint r.mixins
  mem_setters_iff : ∀ name, name ∈ r.setters ↔ ∃ s, e.capabilities.get? name = some (.path s)
  mem_mixins_iff : ∀ name, name ∈ r.mixins ↔ ∃ m, e.capabilities.get? name = some (.mixin m)
  capabilities : ∀ name, e.capabilities.contains name = true ↔ name ∈ r.setters ∨ name ∈ r.mixins
  conflicts : r.conflicts = e.conflicts.map (·.text)

theorem ResourceEntry.describes (e : Endpoint) : (ofEndpoint e).Describes e where
  name := rfl
  ascending := by
    refine List.pairwise_flatMap.2 ⟨fun entry _ => ?_, e.levels.ascending.imp fun below => ?_⟩
    · exact List.pairwise_map.2 (List.pairwise_of_forall fun _ _ => Nat.le_refl _)
    · intro l hl l' hl'
      obtain ⟨_, _, rfl⟩ := List.mem_map.1 hl
      obtain ⟨_, _, rfl⟩ := List.mem_map.1 hl'
      exact Nat.le_of_lt (Nat.compare_eq_lt.1 below)
  shapes k := e.levels.filter_flatMap_entries LevelEntry.ofShape (·.level) (fun _ _ => rfl) k
  lower_case := by
    intro l listed ms found m hm
    obtain ⟨entry, _, listed⟩ := List.mem_flatMap.1 listed
    obtain ⟨shape, _, rfl⟩ := List.mem_map.1 listed
    obtain ⟨set, _, rfl⟩ := Option.map_eq_some_iff.1 found
    obtain ⟨method, _, rfl⟩ := List.mem_map.1 hm
    exact toLower_name method
  setters_ascending := pairwise_names e "path"
  mixins_ascending := pairwise_names e "mixin"
  disjoint := by
    intro name setter mixin
    obtain ⟨s, path⟩ := mem_setters_iff.1 setter
    obtain ⟨m, query⟩ := mem_mixins_iff.1 mixin
    cases path.symm.trans query
  mem_setters_iff _ := mem_setters_iff
  mem_mixins_iff _ := mem_mixins_iff
  capabilities name := by
    rw [ofEndpoint, mem_setters_iff, mem_mixins_iff, Dict.contains, Option.isSome_iff_exists]
    constructor
    · rintro ⟨c, found⟩
      cases c with
      | path s => exact .inl ⟨s, found⟩
      | mixin m => exact .inr ⟨m, found⟩
    · rintro (⟨_, found⟩ | ⟨_, found⟩)
      · exact ⟨_, found⟩
      · exact ⟨_, found⟩
  conflicts := rfl

end Dump

/-! How far levels go -/

theorem Path.length_components_le (cs : List Char) : (components cs).length ≤ cs.length := by
  induction 0, cs using induct_pieces with
  | nil i => rw [components_nil]; exact Nat.le_refl 0
  | group i cs before token rest found ih =>
      have shorter := length_lt_of_lastGroup? found
      have after := length_afterPiece_le rest
      rw [components_of_group found, List.length_cons]
      omega
  | plain i cs some_text found ih =>
      have after := length_afterPiece_le cs
      have positive := List.length_pos_iff.2 some_text
      rw [List.length_tail] at ih
      rw [components_of_plain found, List.length_append]
      split
      · simp only [List.length_nil]; omega
      · simp only [List.length_singleton]; omega

namespace RouteTree

theorem length_componentsOf_le (route : String) (d : RouteDefinition) :
    (componentsOf route d).length ≤ route.length := by
  have ending : (dropEnding ['/', '?'] route.toList).length ≤ route.length := by
    unfold dropEnding
    split
    · exact (List.take_sublist _ _).length_le
    · exact Nat.le_refl _
  unfold componentsOf relative?
  dsimp only
  split
  · exact Nat.zero_le _
  · next path named =>
      have split_le : (Path.split path).length ≤ path.length := by
        rw [Path.split, List.length_map]
        exact Path.length_components_le path.toList
      refine Nat.le_trans split_le (Nat.le_trans ?_ ending)
      split at named
      · cases named
      · split at named
        · next before after cut =>
            cases named
            rw [append_of_cutAt? cut]
            simp
            omega
        · cases named
          simp

theorem exists_level_lt {entries : List (String × RouteDefinition)} {ns name : String}
    {tree : ResourceTree} (found : (grown entries).resource? ns name = some tree) {n : Node}
    (hn : n ∈ tree.root.preorder) : ∃ entry ∈ entries, n.level < entry.1.length := by
  obtain ⟨ks, there, level⟩ := exists_at?_of_mem found hn
  obtain ⟨a, ha, -⟩ := Option.map_eq_some_iff.1 (reflects_of_at? found there).component_eq
  obtain ⟨b, hb, followed⟩ := mem_arrivalsAt.1 (List.mem_of_head? ha)
  have short : ks.length ≤ b.below.length := by
    have before := ((Branch.exists_follow?_iff name).1 ⟨a, followed⟩).length_le
    rwa [Branch.keys, List.length_map] at before
  obtain ⟨entry, listed, branch⟩ := List.mem_filterMap.1 hb
  refine ⟨entry, listed, ?_⟩
  have parts := length_componentsOf_le entry.1 entry.2
  unfold branch? at branch
  split at branch
  · cases branch
  · next text rest split =>
      split at branch
      · cases branch
        rw [split, List.length_cons] at parts
        rw [level]
        exact Nat.lt_of_le_of_lt short parts
      · cases branch

end RouteTree

theorem Endpoint.counted_ofTree {entries : List (String × RouteDefinition)} {ns name : String}
    {tree : ResourceTree} (found : (RouteTree.grown entries).resource? ns name = some tree)
    (short : ∀ entry ∈ entries, entry.1.length < 2 ^ 64) (options : Options) (ms : List Mixin) :
    Dump.Counted (ofTree options ns tree ms).levels := by
  intro level listed
  rw [levels_ofTree, Levels.mem_keys_iff] at listed
  obtain ⟨n, hn, rfl⟩ := listed
  obtain ⟨entry, here, below⟩ := RouteTree.exists_level_lt found hn
  exact Nat.lt_trans below (short entry here)

namespace Catalog

/-- The catalogs that there are: those of route maps, and what becomes of them when endpoints of
single routes are added. Machine words can count the characters of each route. -/
inductive Grown : Catalog → Prop where
  | bootstrapped {options : Options} {mixins : MixinTable} {routes : RouteMap} {c : Catalog} :
      (∀ route ∈ routes.keys, route.length < 2 ^ 64) →
      (bootstrap options mixins routes).outcome = .ok c → Grown c
  | inserted {c : Catalog} {r : Registration} {ns base : String} {e : Endpoint} :
      Grown c → (∀ route ∈ (r.alone ns base).keys, route.length < 2 ^ 64) →
      (r.endpoint ns base).outcome = .ok e → Grown (c.insert e)

theorem Grown.own_place {c : Catalog} (h : c.Grown) {ns name : String} {e : Endpoint}
    (found : c.get? ns name = some e) : e.ns = ns ∧ e.resource = name := by
  induction h with
  | bootstrapped _ made =>
      obtain ⟨tree, ms, place, rfl⟩ := exists_tree_of_bootstrap made (resource_eq_ok_iff.2 found)
      exact ⟨Endpoint.ns_ofTree, Endpoint.resource_ofTree.trans (RouteTree.name_of_resource? place)⟩
  | inserted _ _ _ ih =>
      rw [get?_insert] at found
      split at found
      · next place =>
          cases found
          exact place
      · exact ih found

theorem Grown.counted {c : Catalog} (h : c.Grown) {ns name : String} {e : Endpoint}
    (found : c.get? ns name = some e) : Dump.Counted e.levels := by
  induction h with
  | bootstrapped short made =>
      obtain ⟨tree, ms, place, rfl⟩ := exists_tree_of_bootstrap made (resource_eq_ok_iff.2 found)
      exact Endpoint.counted_ofTree place (fun _ listed => short _ (List.mem_map_of_mem listed)) _ _
  | inserted _ short made ih =>
      rw [get?_insert] at found
      split at found
      · cases found
        obtain ⟨ns, name, tree, ms, place, rfl⟩ := Registration.exists_tree_of_endpoint made
        exact Endpoint.counted_ofTree place (fun _ listed => short _ (List.mem_map_of_mem listed))
          _ _
      · exact ih found

/-- The text of a catalog is JSON. It lists the namespaces in ascending order, each with its
resources in ascending order, and each resource as the endpoint that stands there. -/
theorem decode?_dump {c : Catalog} (grown : c.Grown) :
    Json.Value.read? Json.levelLimit c.dump = some (Dump.catalog c) ∧
    ∃ entries, Dump.decode? c.dump = some entries ∧
      entries.map (·.name) = c.namespaces.keys ∧ c.namespaces.keys.Pairwise (· < ·) ∧
      ∀ entry ∈ entries, ∃ resources, c.namespaces.get? entry.name = some resources ∧
        entry.resources.map (·.name) = resources.keys ∧ resources.keys.Pairwise (· < ·) ∧
        ∀ r ∈ entry.resources, ∃ e, resources.get? r.name = some e ∧ r.Describes e := by
  have counted : ∀ e ∈ c.endpoints, Dump.Counted e.levels := by
    intro e he
    obtain ⟨ns, name, found⟩ := mem_endpoints_iff.1 he
    exact grown.counted found
  refine ⟨read?_dump counted, _, decode?_dump_eq counted, ?_, c.namespaces.pairwise_keys, ?_⟩
  · rw [List.map_map]
    rfl
  · intro entry listed
    obtain ⟨⟨ns, resources⟩, there, rfl⟩ := List.mem_map.1 listed
    have known := Dict.get?_eq_some_iff.2 there
    have own : ∀ place ∈ resources.entries, place.2.resource = place.1 := by
      intro place hplace
      have found : c.get? ns place.1 = some place.2 := by
        rw [get?, known, Option.bind_some]
        exact Dict.get?_eq_some_iff.2 hplace
      exact (grown.own_place found).2
    refine ⟨resources, known, ?_, resources.pairwise_keys, ?_⟩
    · simp only [Dump.NamespaceEntry.ofResources, Dict.values, Dict.keys, List.map_map]
      exact List.map_congr_left own
    · intro r hr
      obtain ⟨e, he, rfl⟩ := List.mem_map.1 hr
      obtain ⟨place, hplace, rfl⟩ := List.mem_map.1 he
      refine ⟨place.2, ?_, Dump.ResourceEntry.describes place.2⟩
      rw [Dump.ResourceEntry.ofEndpoint, own place hplace]
      exact Dict.get?_eq_some_iff.2 hplace

def quoted : RouteMap := .ofList [("/wp/v2/po\"st\\s\n", ⟨"wp/v2", [.get], []⟩)]

/-- An endpoint of its own comes before the route of the map. -/
theorem decode?_dump_quoted : ∃ c e entries,
    (bootstrap {} .standard quoted).outcome = .ok c ∧
      (({} : Registration).endpoint "my/v1" "things").outcome = .ok e ∧
      Dump.decode? (c.insert e).dump = some entries ∧ entries.map (·.name) = ["my/v1", "wp/v2"] ∧
      ∀ entry ∈ entries, entry.name = "wp/v2" →
        entry.resources.map (·.name) = ["po\"st\\s\n"] := by
  have built : (bootstrap {} .standard quoted).outcome.toOption.any (fun c =>
      (({} : Registration).endpoint "my/v1" "things").outcome.toOption.any fun e =>
        (c.insert e).namespaces.keys = ["my/v1", "wp/v2"] ∧
          ((c.insert e).namespaces.get? "wp/v2").map (·.keys) = some ["po\"st\\s\n"]) = true := by
    decide +kernel
  obtain ⟨c, made, rest⟩ := exists_ok_of_any built
  obtain ⟨e, made', holds⟩ := exists_ok_of_any rest
  obtain ⟨keys, listed⟩ := of_decide_eq_true holds
  have grown : (c.insert e).Grown :=
    .inserted (.bootstrapped (by decide +kernel) made) (by decide +kernel) made'
  obtain ⟨_, entries, decoded, names, _, each⟩ := decode?_dump grown
  refine ⟨c, e, entries, made, made', decoded, names.trans keys, ?_⟩
  intro entry hentry named
  obtain ⟨resources, known, called, _⟩ := each entry hentry
  rw [named] at known
  rw [known] at listed
  rw [called]
  exact Option.some.inj listed

end Catalog
end RestRoutes
