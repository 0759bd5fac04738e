import RestRoutes.Proofs.Methods
import RestRoutes.Proofs.Path.Pieces

/-!
What all trees have in common that routes can be folded into, whatever the routes and the options of
each step, and whichever steps are refused (`wellFormed_run`). A position owes its names and what it
accepts to its key alone, as far as the key says anything about them.
-/
namespace RestRoutes

namespace Segment

theorem label_ne_empty {text : String} (h : text ≠ "") : (classify text).label ≠ "" := by
  unfold classify
  split
  · next found extracted =>
      split
      · obtain ⟨⟨before, token, rest⟩, first, same⟩ := Option.map_eq_some_iff.1 extracted
        cases same
        have named := (Group.Token.read?_eq_some_iff.1 (Group.Token.read?_of_find? first)).2.1
        simpa [label, Group.Token.group] using named
      · exact h
  · exact h

end Segment

namespace Node

def FitsKey (n : Node) : Prop :=
  match n.key with
  | .literal text => n.component = text ∧ n.names = [text] ∧ n.validator = .literal text
  | .pattern source => source ≠ "" ∧
    ((∃ p, Pattern.ofSource source = .ok p ∧ n.validator = .pattern p) ∨
      (∃ flaw, Pattern.ofSource source = .error flaw) ∧ n.validator = .any)
  | .name text => n.names = [text] ∧ n.validator = .any

/-- What holds of every position by itself and together with its children. -/
structure WellFormed (n : Node) : Prop where
  level_children : ∀ c ∈ n.children, c.level = n.level + 1
  keys_nodup : (n.children.map key).Nodup
  isLeaf_iff : n.isLeaf = true ↔ n.children = []
  isDynamic_iff : n.isDynamic = true ↔ ∀ text, n.key ≠ .literal text
  named : n.names ≠ []
  names_ne_empty : ∀ name ∈ n.names, name ≠ ""
  names_nodup : n.names.Nodup
  fitsKey : n.FitsKey

theorem eq_singleton_of_nodup {names : List String} {name : String} (nonempty : names ≠ [])
    (nodup : names.Nodup) (same : ∀ called ∈ names, called = name) : names = [name] := by
  obtain ⟨called, names, rfl⟩ := List.exists_cons_of_ne_nil nonempty
  obtain ⟨fresh, _⟩ := List.nodup_cons.1 nodup
  obtain ⟨rfl, rest⟩ := List.forall_mem_cons.1 same
  have none_left : names = [] := List.eq_nil_iff_forall_not_mem.2 fun other hother =>
    fresh (rest other hother ▸ hother)
  rw [none_left]

section Reflected

variable {n : Node} {level : Nat} {as : List Arrival}

/-- All routes that come to a position have a text with its key there. -/
def Agreed (n : Node) (as : List Arrival) : Prop :=
  ∀ a ∈ as, ∃ text, a.component = .lenient text ∧ (Segment.classify text).key = n.key

theorem Reflects.named (h : n.Reflects level as) : n.names ≠ [] := by
  obtain ⟨a, first, _⟩ := Option.map_eq_some_iff.1 h.component_eq
  exact List.ne_nil_of_mem ((h.mem_names _).2 ⟨a, List.mem_of_head? first, rfl⟩)

theorem validator_of_mem {k : MergeKey}
    (shared : ∀ a ∈ as, ∃ text, a.component = .lenient text ∧ (Segment.classify text).key = k)
    {a : Arrival} (ha : a ∈ as) : a.component.validator = k.validator := by
  obtain ⟨text, component, key⟩ := shared a ha
  rw [component, Component.validator_lenient, key]

theorem Reflects.validator_of_shared {k : MergeKey} (h : n.Reflects level as)
    (shared : ∀ a ∈ as, ∃ text, a.component = .lenient text ∧ (Segment.classify text).key = k) :
    n.validator = k.validator := by
  obtain ⟨a, last, validator⟩ := Option.map_eq_some_iff.1 h.validator_eq
  rw [← validator, validator_of_mem shared (List.mem_of_getLast? last)]

theorem Reflects.names_of_agreed (h : n.Reflects level as) (agreed : n.Agreed as) {label : String}
    (told : n.key.label? = some label) : n.names = [label] := by
  refine eq_singleton_of_nodup h.named h.names_nodup fun called hcalled => ?_
  obtain ⟨a, ha, rfl⟩ := (h.mem_names called).1 hcalled
  obtain ⟨text, component, key⟩ := agreed a ha
  rw [component]
  exact Segment.label_of_label? (by rw [Component.segment, Component.lenient, key, told])

theorem Reflects.fitsKey (h : n.Reflects level as) (agreed : n.Agreed as) : n.FitsKey := by
  have validator := h.validator_of_shared agreed
  have names : ∀ label, n.key.label? = some label → n.names = [label] :=
    fun _ => h.names_of_agreed agreed
  unfold FitsKey
  cases key : n.key with
  | literal text =>
      rw [key] at validator names
      rw [h.coherent.key_eq] at key
      have literal : (Segment.classify n.component).isDynamic = false := by
        rw [Bool.eq_false_iff, ne_eq, Segment.isDynamic_iff]
        exact fun dynamic => dynamic text key
      rw [Segment.classify_of_not_isDynamic literal] at key
      exact ⟨MergeKey.literal.inj key, names text rfl, validator⟩
  | pattern source =>
      rw [key] at validator
      have filled : source ≠ "" := by
        rw [h.coherent.key_eq] at key
        rcases (Segment.classify n.component).key_cases with
          ⟨_, _, key'⟩ | ⟨_, _, _, key'⟩ | ⟨_, _, filled, key'⟩
        · cases key'.symm.trans key
        · cases key'.symm.trans key
        · cases key'.symm.trans key
          exact filled
      refine ⟨filled, ?_⟩
      rw [validator, MergeKey.validator]
      cases read : Pattern.ofSource source with
      | ok p => exact .inl ⟨p, rfl, rfl⟩
      | error flaw => exact .inr ⟨⟨flaw, rfl⟩, rfl⟩
  | name text =>
      rw [key] at validator names
      exact ⟨names text rfl, validator⟩

end Reflected

end Node

theorem Dict.isEmpty_insert {κ α : Type} [Ord κ] [Std.TransOrd κ] [Std.LawfulEqOrd κ]
    (d : Dict κ α) (k : κ) (v : α) : (d.insert k v).isEmpty = false := by
  have member := get?_eq_some_iff.1 (d.get?_insert_self k v)
  rw [isEmpty, List.isEmpty_eq_false_iff]
  exact List.ne_nil_of_mem member

namespace RouteTree

structure Attempt where
  options : Options
  route : String
  definition : RouteDefinition

/-- Folds a route in. A route that is refused leaves the tree as it was. -/
def attempt (t : RouteTree) (a : Attempt) : RouteTree :=
  match (t.withRoute a.options a.route a.definition).outcome with
  | .ok t' => t'
  | .error _ => t

def run (as : List Attempt) : RouteTree := as.foldl attempt empty

def Populated (t : RouteTree) : Prop :=
  ∀ ns resources, t.namespaces.get? ns = some resources → resources.isEmpty = false

/-- What holds of a tree: of its namespaces, of its resources and of all their positions. -/
structure WellFormed (t : RouteTree) : Prop where
  populated : t.Populated
  name_eq : ∀ ns name tree, t.resource? ns name = some tree → tree.name = name
  component_eq : ∀ ns name tree, t.resource? ns name = some tree → tree.root.component = name
  level_eq : ∀ ns name tree, t.resource? ns name = some tree → tree.root.level = 0
  positions : ∀ ns name tree, t.resource? ns name = some tree →
    ∀ n ∈ tree.root.preorder, n.WellFormed

/-- The routes that are not refused come after those that made the tree. -/
theorem Folded.exists_foldl {entries : List (String × RouteDefinition)} {t : RouteTree}
    (h : Folded entries t) (as : List Attempt) :
    ∃ more, Folded (entries ++ more) (as.foldl attempt t) := by
  induction as generalizing entries t with
  | nil => exact ⟨[], by rwa [List.append_nil]⟩
  | cons a as ih =>
      rw [List.foldl_cons, attempt]
      cases added : (t.withRoute a.options a.route a.definition).outcome with
      | ok t' =>
          obtain ⟨more, folded⟩ := ih (.added h added)
          exact ⟨(a.route, a.definition) :: more, by rwa [List.append_cons]⟩
      | error err => exact ih h

theorem exists_folded_run (as : List Attempt) : ∃ entries, Folded entries (run as) := by
  obtain ⟨entries, folded⟩ := Folded.empty.exists_foldl as
  exact ⟨_, folded⟩

theorem Populated.insert {t : RouteTree} (h : t.Populated) (d : RouteDefinition) (c : Component)
    (rest : List Component) : (t.insert d c rest).Populated := by
  intro ns resources found
  by_cases same : ns = d.ns
  · subst same
    rw [RouteTree.insert, Dict.get?_insert_self] at found
    cases found
    exact Dict.isEmpty_insert _ _ _
  · rw [RouteTree.insert, Dict.get?_insert_of_ne _ _ same] at found
    exact h ns resources found

theorem Populated.add {t : RouteTree} (h : t.Populated) (route : String) (d : RouteDefinition) :
    (t.add route d).Populated := by
  unfold RouteTree.add
  cases componentsOf route d with
  | nil => exact h
  | cons text rest => exact h.insert _ _ _

theorem Populated.foldl_add {t : RouteTree} (h : t.Populated)
    (entries : List (String × RouteDefinition)) :
    (entries.foldl (fun t entry => t.add entry.1 entry.2) t).Populated := by
  induction entries generalizing t with
  | nil => exact h
  | cons entry entries ih => exact ih (h.add entry.1 entry.2)

theorem populated_grown (entries : List (String × RouteDefinition)) :
    (grown entries).Populated :=
  Populated.foldl_add (fun _ _ found => by cases found) entries

variable {entries : List (String × RouteDefinition)} {ns name : String} {tree : ResourceTree}

theorem agreed_of_at? (found : (grown entries).resource? ns name = some tree) {n : Node}
    {ks : List MergeKey} (hn : tree.root.at? ks = some n) :
    n.Agreed (arrivalsAt name (branches ns name entries) ks) := by
  obtain ⟨k, shared⟩ := exists_key_of_arrivalsAt name (branches ns name entries) ks
  have reflects := reflects_of_at? found hn
  obtain ⟨a, first, component⟩ := Option.map_eq_some_iff.1 reflects.component_eq
  obtain ⟨text, same, key⟩ := shared a (List.mem_of_head? first)
  have own : n.key = k := by
    rw [reflects.coherent.key_eq, ← component, same, ← key]
    rfl
  rwa [← own] at shared

theorem ne_empty_of_mem_componentsOf {route text : String} {d : RouteDefinition}
    (h : text ∈ componentsOf route d) : text ≠ "" := by
  unfold componentsOf at h
  split at h
  · cases h
  · obtain ⟨c, hc, rfl⟩ := List.mem_map.1 h
    simpa using Path.ne_nil_of_mem_components hc

theorem exists_componentsOf {b : Branch} (hb : b ∈ branches ns name entries) :
    ∃ entry ∈ entries, componentsOf entry.1 entry.2 = name :: b.below := by
  obtain ⟨entry, member, leads⟩ := List.mem_filterMap.1 hb
  refine ⟨entry, member, ?_⟩
  unfold branch? at leads
  cases parts : componentsOf entry.1 entry.2 with
  | nil => simp [parts] at leads
  | cons text rest =>
      simp only [parts] at leads
      split at leads
      · next here =>
          cases leads
          rw [here.2]
      · cases leads

theorem ne_empty_of_mem_names (found : (grown entries).resource? ns name = some tree) {n : Node}
    {ks : List MergeKey} (hn : tree.root.at? ks = some n) {called : String}
    (hcalled : called ∈ n.names) : called ≠ "" := by
  obtain ⟨b, hb, _, labelled⟩ := ((reflects_of_at? found hn).mem_names_iff called).1 hcalled
  obtain ⟨text, there, rfl⟩ := Option.map_eq_some_iff.1 labelled
  obtain ⟨entry, _, parts⟩ := exists_componentsOf hb
  have listed : text ∈ componentsOf entry.1 entry.2 := by
    rw [parts]
    exact List.mem_of_getElem? there
  exact Segment.label_ne_empty (ne_empty_of_mem_componentsOf listed)

theorem wellFormed_of_mem (found : (grown entries).resource? ns name = some tree) {n : Node}
    (hn : n ∈ tree.root.preorder) : n.WellFormed := by
  obtain ⟨ks, hks, _⟩ := exists_at?_of_mem found hn
  have reflects := reflects_of_at? found hks
  exact {
    level_children := fun c hc => level_of_child found hn hc
    keys_nodup := ((distinct_root found).of_at? hks).keys
    isLeaf_iff := reflects.coherent.isLeaf_iff
    isDynamic_iff := reflects.coherent.isDynamic_iff
    named := reflects.named
    names_ne_empty := fun _ => ne_empty_of_mem_names found hks
    names_nodup := reflects.names_nodup
    fitsKey := reflects.fitsKey (agreed_of_at? found hks) }

/-- However routes are folded into the empty tree, the tree is well-formed. -/
theorem wellFormed_run (as : List Attempt) : (run as).WellFormed := by
  obtain ⟨entries, folded⟩ := exists_folded_run as
  rw [folded.eq_grown]
  exact {
    populated := populated_grown entries
    name_eq := fun _ _ _ found => name_of_resource? found
    component_eq := fun _ _ _ found => component_root found
    level_eq := fun _ _ _ found => (reflects_root found).level_eq
    positions := fun _ _ _ found _ hn => wellFormed_of_mem found hn }

end RouteTree
end RestRoutes
