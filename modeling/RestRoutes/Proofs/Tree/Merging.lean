import RestRoutes.Proofs.Tree.Branches

/-!
What routes become in a tree. A resource has one position for each sequence of keys that one of its
routes begins with, and none besides; the position knows what these routes call it, which methods
the routes that end there are for, and whether one goes on.
-/
namespace RestRoutes

def arrivalsAt (name : String) (bs : List Branch) (ks : List MergeKey) : List Arrival :=
  (bs.map (·.arrival name)).filterMap (·.follow? ks)

theorem mem_arrivalsAt {name : String} {bs : List Branch} {ks : List MergeKey} {a : Arrival} :
    a ∈ arrivalsAt name bs ks ↔ ∃ b ∈ bs, (b.arrival name).follow? ks = some a := by
  simp [arrivalsAt]

namespace Branch

theorem exists_follow?_iff (name : String) {b : Branch} {ks : List MergeKey} :
    (∃ a, (b.arrival name).follow? ks = some a) ↔ ks <+: b.keys := by
  rw [← Option.isSome_iff_exists, Arrival.follow?_isSome_iff, b.keys_arrival]

theorem ends_iff {name : String} {b : Branch} {ks : List MergeKey} {a : Arrival}
    (h : (b.arrival name).follow? ks = some a) : a.below.isEmpty = true ↔ b.keys = ks := by
  have split := (Arrival.of_follow? h).1
  rw [b.keys_arrival] at split
  rw [split, List.append_right_eq_self, Arrival.keys, List.map_eq_nil_iff, List.isEmpty_iff]

theorem labelAt_of_follow? {name : String} {b : Branch} {ks : List MergeKey} {a : Arrival}
    (h : (b.arrival name).follow? ks = some a) :
    b.labelAt name ks.length = some a.component.segment.label := by
  have there : ((name :: b.below).map Component.lenient)[ks.length]? = some a.component :=
    (Arrival.of_follow? h).2.1
  rw [List.getElem?_map, Option.map_eq_some_iff] at there
  obtain ⟨text, found, same⟩ := there
  rw [labelAt, found, ← same]
  rfl

end Branch

theorem arrivalsAt_ne_nil_iff (name : String) {bs : List Branch} {ks : List MergeKey} :
    arrivalsAt name bs ks ≠ [] ↔ ∃ b ∈ bs, ks <+: b.keys := by
  constructor
  · intro h
    obtain ⟨a, ha⟩ := List.exists_mem_of_ne_nil _ h
    obtain ⟨b, hb, followed⟩ := mem_arrivalsAt.1 ha
    exact ⟨b, hb, (Branch.exists_follow?_iff name).1 ⟨a, followed⟩⟩
  · rintro ⟨b, hb, prefixed⟩
    obtain ⟨a, followed⟩ := (Branch.exists_follow?_iff name).2 prefixed
    exact List.ne_nil_of_mem (mem_arrivalsAt.2 ⟨b, hb, followed⟩)

theorem methods_arrivalsAt (name : String) (bs : List Branch) (ks : List MergeKey) :
    ((arrivalsAt name bs ks).filter (·.below.isEmpty)).flatMap (·.methods) =
      (bs.filter (·.keys = ks)).flatMap (·.definition.methods) := by
  induction bs with
  | nil => rfl
  | cons b bs ih =>
      unfold arrivalsAt at ih ⊢
      cases followed : (b.arrival name).follow? ks with
      | none =>
          have elsewhere : b.keys ≠ ks := fun same => by
            have begins : ks <+: b.keys := same ▸ List.prefix_rfl
            obtain ⟨a, ha⟩ := (Branch.exists_follow?_iff name).2 begins
            rw [followed] at ha
            cases ha
          simpa [followed, elsewhere] using ih
      | some a =>
          have methods : a.methods = b.definition.methods := (Arrival.of_follow? followed).2.2
          by_cases ends : b.keys = ks
          · have stops := (Branch.ends_iff followed).2 ends
            simpa [followed, ends, stops, methods] using ih
          · have goes : ¬a.below.isEmpty = true := fun h => ends ((Branch.ends_iff followed).1 h)
            simpa [followed, ends, goes] using ih

namespace RouteTree

variable {entries : List (String × RouteDefinition)} {ns name : String} {tree : ResourceTree}

theorem grow_root (h : (grown entries).resource? ns name = some tree) :
    Node.grow 0 none ((branches ns name entries).map (·.arrival name)) = some tree.root := by
  rw [resource?_grown] at h
  have root := ResourceTree.root_foldl_graft name (branches ns name entries) none
  rw [h] at root
  exact root.symm

theorem distinct_root (h : (grown entries).resource? ns name = some tree) :
    tree.root.Distinct :=
  Node.Distinct.grow (fun _ hn => by cases hn) _ _ (grow_root h)

theorem at?_root (h : (grown entries).resource? ns name = some tree) (ks : List MergeKey) :
    tree.root.at? ks =
      Node.grow ks.length none (arrivalsAt name (branches ns name entries) ks) := by
  have found := Node.at?_grow 0 ks ((branches ns name entries).map (·.arrival name))
  rw [grow_root h, Option.bind_some, Nat.zero_add] at found
  exact found

theorem reflects_of_at? (h : (grown entries).resource? ns name = some tree) {ks : List MergeKey}
    {n : Node} (hn : tree.root.at? ks = some n) :
    n.Reflects ks.length (arrivalsAt name (branches ns name entries) ks) :=
  Node.reflects_of_grow ((at?_root h ks).symm.trans hn)

end RouteTree

/-- A tree holds what the routes of its resource say, merged where they share their keys. -/
structure ResourceTree.Merges (name : String) (bs : List Branch) (t : ResourceTree) : Prop where
  one_position : ∀ ks, (∃ n, t.root.nodesAt ks = [n]) ↔ ∃ b ∈ bs, ks <+: b.keys
  no_position : ∀ ks, (¬∃ b ∈ bs, ks <+: b.keys) → t.root.nodesAt ks = []
  names : ∀ ks, ∀ n ∈ t.root.nodesAt ks, ∀ label,
    label ∈ n.names ↔ ∃ b ∈ bs, ks <+: b.keys ∧ b.labelAt name ks.length = some label
  no_methods : ∀ ks, ∀ n ∈ t.root.nodesAt ks, n.methods = none ↔ ∀ b ∈ bs, b.keys ≠ ks
  methods : ∀ ks, ∀ n ∈ t.root.nodesAt ks, ∀ ms, n.methods = some ms →
    ms = .ofList ((bs.filter (·.keys = ks)).flatMap (·.definition.methods))
  leaf : ∀ ks, ∀ n ∈ t.root.nodesAt ks,
    n.isLeaf = true ↔ ∀ b ∈ bs, ks <+: b.keys → b.keys = ks
  args : ∀ arg, t.getArgs.contains arg = true ↔
    ∃ b ∈ bs, ∃ e ∈ b.definition.endpoints, Method.get ∈ e.methods ∧ arg ∈ e.args.keys

namespace Node.Reflects

variable {name : String} {bs : List Branch} {ks : List MergeKey} {n : Node}

theorem mem_names_iff (h : n.Reflects ks.length (arrivalsAt name bs ks)) (label : String) :
    label ∈ n.names ↔ ∃ b ∈ bs, ks <+: b.keys ∧ b.labelAt name ks.length = some label := by
  rw [h.mem_names]
  constructor
  · rintro ⟨a, ha, rfl⟩
    obtain ⟨b, hb, followed⟩ := mem_arrivalsAt.1 ha
    exact ⟨b, hb, (Branch.exists_follow?_iff name).1 ⟨a, followed⟩,
      Branch.labelAt_of_follow? followed⟩
  · rintro ⟨b, hb, prefixed, called⟩
    obtain ⟨a, followed⟩ := (Branch.exists_follow?_iff name).2 prefixed
    rw [Branch.labelAt_of_follow? followed] at called
    exact ⟨a, mem_arrivalsAt.2 ⟨b, hb, followed⟩, Option.some.inj called⟩

theorem all_pass_iff (name : String) :
    (arrivalsAt name bs ks).all (!·.below.isEmpty) = true ↔ ∀ b ∈ bs, b.keys ≠ ks := by
  rw [List.all_eq_true]
  constructor
  · intro h b hb same
    have begins : ks <+: b.keys := same ▸ List.prefix_rfl
    obtain ⟨a, followed⟩ := (Branch.exists_follow?_iff name).2 begins
    have passes := h a (mem_arrivalsAt.2 ⟨b, hb, followed⟩)
    rw [(Branch.ends_iff followed).2 same] at passes
    cases passes
  · intro h a ha
    obtain ⟨b, hb, followed⟩ := mem_arrivalsAt.1 ha
    have goes : ¬a.below.isEmpty = true := fun ends => h b hb ((Branch.ends_iff followed).1 ends)
    simpa using goes

theorem methods_eq_none_iff (h : n.Reflects ks.length (arrivalsAt name bs ks)) :
    n.methods = none ↔ ∀ b ∈ bs, b.keys ≠ ks := by
  rw [h.methods_eq, Node.endMethods, ← all_pass_iff name]
  split <;> simp_all

theorem eq_of_methods (h : n.Reflects ks.length (arrivalsAt name bs ks)) {ms : MethodSet}
    (hms : n.methods = some ms) :
    ms = .ofList ((bs.filter (·.keys = ks)).flatMap (·.definition.methods)) := by
  rw [h.methods_eq, Node.endMethods, methods_arrivalsAt] at hms
  split at hms
  · cases hms
  · exact (Option.some.inj hms).symm

theorem isLeaf_iff (h : n.Reflects ks.length (arrivalsAt name bs ks)) :
    n.isLeaf = true ↔ ∀ b ∈ bs, ks <+: b.keys → b.keys = ks := by
  rw [h.isLeaf_eq, List.all_eq_true]
  constructor
  · intro all b hb prefixed
    obtain ⟨a, followed⟩ := (Branch.exists_follow?_iff name).2 prefixed
    exact (Branch.ends_iff followed).1 (all a (mem_arrivalsAt.2 ⟨b, hb, followed⟩))
  · intro all a ha
    obtain ⟨b, hb, followed⟩ := mem_arrivalsAt.1 ha
    exact (Branch.ends_iff followed).2
      (all b hb ((Branch.exists_follow?_iff name).1 ⟨a, followed⟩))

end Node.Reflects

namespace RouteTree

theorem resource?_isSome_iff (entries : List (String × RouteDefinition)) (ns name : String) :
    ((grown entries).resource? ns name).isSome = true ↔ branches ns name entries ≠ [] := by
  rw [resource?_grown]
  have root := ResourceTree.root_foldl_graft name (branches ns name entries) none
  cases made : (branches ns name entries).foldl (ResourceTree.graft name) none with
  | none =>
      rw [made] at root
      simpa using Node.grow_eq_none_iff.1 root.symm
  | some tree =>
      rw [made] at root
      have grew : branches ns name entries ≠ [] := fun e => by simp [e] at root
      simpa using grew

theorem merges {entries : List (String × RouteDefinition)} {ns name : String}
    {tree : ResourceTree} (h : (grown entries).resource? ns name = some tree) :
    tree.Merges name (branches ns name entries) := by
  have at_keys := (distinct_root h).nodesAt_eq_toList
  have reached : ∀ {ks n}, n ∈ tree.root.nodesAt ks →
      n.Reflects ks.length (arrivalsAt name (branches ns name entries) ks) := by
    intro ks n hn
    rw [at_keys] at hn
    exact reflects_of_at? h (Option.mem_toList.1 hn)
  have present : ∀ ks, tree.root.at? ks ≠ none ↔
      ∃ b ∈ branches ns name entries, ks <+: b.keys := by
    intro ks
    rw [at?_root h, ← arrivalsAt_ne_nil_iff name, ne_eq, Node.grow_eq_none_iff]
  exact {
    one_position := fun ks => by
      rw [at_keys, ← present]
      cases tree.root.at? ks <;> simp
    no_position := fun ks none_begins => by
      cases hn : tree.root.at? ks with
      | none => rw [at_keys, hn]; rfl
      | some n => exact absurd ((present ks).1 (by simp [hn])) none_begins
    names := fun ks n hn => (reached hn).mem_names_iff
    no_methods := fun ks n hn => (reached hn).methods_eq_none_iff
    methods := fun ks n hn ms => (reached hn).eq_of_methods
    leaf := fun ks n hn => (reached hn).isLeaf_iff
    args := fun arg => by
      rw [resource?_grown] at h
      rw [ResourceTree.getArgs_foldl_graft h]
      simp [RouteDefinition.mem_getArgs] }

/-- Routes that are not taken strictly always make a tree, and in it each resource holds what its
own routes say, whatever order they come in and however they overlap. -/
theorem ofList_merges {options : Options} (lenient : options.strictPatterns = false)
    (entries : List (String × RouteDefinition)) :
    ∃ t, (ofList options entries).outcome = .ok t ∧ ∀ ns name,
      ((t.resource? ns name).isSome = true ↔ branches ns name entries ≠ []) ∧
      ∀ tree, t.resource? ns name = some tree → tree.Merges name (branches ns name entries) :=
  ⟨grown entries, outcome_ofList lenient entries, fun ns name =>
    ⟨resource?_isSome_iff entries ns name, fun _ h => merges h⟩⟩

def renamed : List (String × RouteDefinition) :=
  [("/wp/v2/posts/(?P<id>[0-9]+)", ⟨"wp/v2", [.get], []⟩),
    ("/wp/v2/posts/(?P<parent>[0-9]+)/revisions", ⟨"wp/v2", [.get], []⟩)]

theorem ofList_merges_renamed :
    ({} : Options).strictPatterns = false ∧
      ∃ t tree n, (ofList {} renamed).outcome = .ok t ∧ t.resource? "wp/v2" "posts" = some tree ∧
        tree.root.nodesAt [.pattern "[0-9]+"] = [n] ∧ "id" ∈ n.names ∧ "parent" ∈ n.names := by
  refine ⟨rfl, ?_⟩
  obtain ⟨t, ht, resources⟩ := ofList_merges (rfl : ({} : Options).strictPatterns = false) renamed
  obtain ⟨present, merges⟩ := resources "wp/v2" "posts"
  have belows : (branches "wp/v2" "posts" renamed).map (·.below) =
      [["(?P<id>[0-9]+)"], ["(?P<parent>[0-9]+)", "revisions"]] := by decide +kernel
  have some_routes : branches "wp/v2" "posts" renamed ≠ [] := fun e => by simp [e] at belows
  obtain ⟨tree, htree⟩ := Option.isSome_iff_exists.1 (present.2 some_routes)
  have holds := merges tree htree
  have first : ["(?P<id>[0-9]+)"] ∈ (branches "wp/v2" "posts" renamed).map (·.below) := by
    rw [belows]
    decide
  have second : ["(?P<parent>[0-9]+)", "revisions"] ∈
      (branches "wp/v2" "posts" renamed).map (·.below) := by
    rw [belows]
    decide
  obtain ⟨b, hb, hbelow⟩ := List.mem_map.1 first
  obtain ⟨c, hc, hcbelow⟩ := List.mem_map.1 second
  have here : [.pattern "[0-9]+"] <+: b.keys := by
    rw [Branch.keys, hbelow]
    decide +kernel
  have there : [.pattern "[0-9]+"] <+: c.keys := by
    rw [Branch.keys, hcbelow]
    decide +kernel
  obtain ⟨n, hn⟩ := (holds.one_position _).2 ⟨b, hb, here⟩
  have reached : n ∈ tree.root.nodesAt [.pattern "[0-9]+"] := by simp [hn]
  refine ⟨t, tree, n, ht, htree, hn, ?_, ?_⟩
  · refine (holds.names _ n reached _).2 ⟨b, hb, here, ?_⟩
    rw [Branch.labelAt, hbelow]
    decide +kernel
  · refine (holds.names _ n reached _).2 ⟨c, hc, there, ?_⟩
    rw [Branch.labelAt, hcbelow]
    decide +kernel

end RouteTree
end RestRoutes
