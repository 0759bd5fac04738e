import RestRoutes.Proofs.Outcome
import RestRoutes.Proofs.Tree.Growth
import RestRoutes.Tree

/-!
The routes behind a tree. Adding routes one after the other gives each resource the tree that grows
from its own routes in their order (`resource?_grown`): a route adds to one resource only.
-/
namespace RestRoutes

def Segment.flaw? (s : Segment) : Option InvalidPattern :=
  match s.validator with
  | .ok _ => none
  | .error cause => some cause

namespace Component

/-- The component of a text. A pattern that cannot be used accepts any value. -/
def lenient (text : String) : Component :=
  ⟨text, match (Segment.classify text).validator with
    | .ok validator => validator
    | .error _ => .any⟩

def refusal? (options : Options) (route text : String) : Option Error :=
  if options.strictPatterns then (Segment.classify text).flaw?.map (.invalidRoute route) else none

/-- Whether a component opens a group it does not consist of matters for the notices only, and taken
strictly it is the same one or an error. -/
theorem outcome_ofText (options : Options) (route text : String) :
    (ofText options route text).outcome =
      Build.verdict (refusal? options route text) (.lenient text) := by
  unfold ofText refusal? lenient Segment.flaw?
  cases hmixed : !(Segment.classify text).isDynamic && opensGroup text <;>
    cases hv : (Segment.classify text).validator <;>
      cases options.strictPatterns <;> simp [hmixed, hv]

end Component

theorem Dict.contains_empty (k : String) : (empty : Dict String Unit).contains k = false := rfl

theorem Dict.contains_addAll (d : Dict String Unit) (ks : List String) (k : String) :
    (d.addAll ks).contains k = true ↔ d.contains k = true ∨ k ∈ ks := by
  unfold addAll
  induction ks generalizing d with
  | nil => simp
  | cons k' ks ih =>
      rw [List.foldl_cons, ih]
      by_cases same : k = k'
      · subst same
        simp [contains, get?_insert_self]
      · simp [contains, get?_insert_of_ne _ _ same, same]

theorem RouteDefinition.mem_getArgs {d : RouteDefinition} {arg : String} :
    arg ∈ d.getArgs ↔ ∃ e ∈ d.endpoints, Method.get ∈ e.methods ∧ arg ∈ e.args.keys := by
  simp [getArgs, and_assoc]

/-- A route of a resource: its components below that of the resource, and what is known about it. -/
structure Branch where
  below : List String
  definition : RouteDefinition

namespace Branch

def keys (b : Branch) : List MergeKey := b.below.map fun text => (Segment.classify text).key

def labelAt (b : Branch) (resource : String) (depth : Nat) : Option String :=
  (resource :: b.below)[depth]?.map fun text => (Segment.classify text).label

def arrival (resource : String) (b : Branch) : Arrival :=
  ⟨.lenient resource, b.below.map .lenient, b.definition.methods⟩

theorem keys_arrival (resource : String) (b : Branch) : (b.arrival resource).keys = b.keys := by
  simp only [arrival, Arrival.keys, keys, List.map_map]
  rfl

end Branch

namespace ResourceTree

/-- Adds a route to a resource. The first one makes the resource. -/
def graft (name : String) (o : Option ResourceTree) (b : Branch) : Option ResourceTree :=
  some ((o.getD (.vacant (.lenient name))).absorb (.lenient name) (b.below.map .lenient)
    b.definition)

theorem root_foldl_graft (name : String) (bs : List Branch) (o : Option ResourceTree) :
    (bs.foldl (graft name) o).map root =
      Node.grow 0 (o.map root) (bs.map (·.arrival name)) := by
  induction bs generalizing o with
  | nil => rfl
  | cons b bs ih =>
      rw [List.foldl_cons, ih, List.map_cons, Node.grow_cons]
      cases o <;> rfl

theorem name_foldl_graft {name : String} {bs : List Branch} {o : Option ResourceTree}
    (h : ∀ t ∈ o, t.name = name) : ∀ t ∈ bs.foldl (graft name) o, t.name = name := by
  induction bs generalizing o with
  | nil => exact h
  | cons b bs ih =>
      refine ih fun t ht => ?_
      cases ht
      rfl

theorem getArgs_foldl_graft {name arg : String} {bs : List Branch} {o : Option ResourceTree}
    {tree : ResourceTree} (h : bs.foldl (graft name) o = some tree) :
    tree.getArgs.contains arg = true ↔
      (∃ t ∈ o, t.getArgs.contains arg = true) ∨ ∃ b ∈ bs, arg ∈ b.definition.getArgs := by
  induction bs generalizing o with
  | nil => cases h; simp
  | cons b bs ih =>
      rw [ih h]
      cases o <;>
        simp [graft, absorb, vacant, Dict.contains_addAll, Dict.contains_empty, or_assoc]

end ResourceTree

namespace RouteTree

/-- The components of a route below its namespace. A route that names no resource has none. -/
def componentsOf (route : String) (d : RouteDefinition) : List String :=
  match relative? route d.ns with
  | none => []
  | some path => Path.split path

def add (t : RouteTree) (route : String) (d : RouteDefinition) : RouteTree :=
  match componentsOf route d with
  | [] => t
  | text :: rest => t.insert d (.lenient text) (rest.map .lenient)

def refusal? (options : Options) (entry : String × RouteDefinition) : Option Error :=
  (componentsOf entry.1 entry.2).findSome? (Component.refusal? options entry.1)

theorem outcome_withRoute (options : Options) (t : RouteTree) (entry : String × RouteDefinition) :
    (t.withRoute options entry.1 entry.2).outcome =
      Build.verdict (refusal? options entry) (t.add entry.1 entry.2) := by
  unfold withRoute add refusal? componentsOf
  cases relative? entry.1 entry.2.ns with
  | none => simp
  | some path =>
      have parts := Build.outcome_mapM (Component.outcome_ofText options entry.1) (Path.split path)
      simp only
      generalize Path.split path = texts at parts
      rw [Build.outcome_bind, parts]
      cases texts.findSome? (Component.refusal? options entry.1) <;> cases texts <;> rfl

def ofList (options : Options) (entries : List (String × RouteDefinition)) : Build RouteTree :=
  entries.foldlM (fun t entry => t.withRoute options entry.1 entry.2) empty

def grown (entries : List (String × RouteDefinition)) : RouteTree :=
  entries.foldl (fun t entry => t.add entry.1 entry.2) empty

/-- Routes are refused for the first of them that is, and else make one tree. -/
theorem outcome_ofList_eq (options : Options) (entries : List (String × RouteDefinition)) :
    (ofList options entries).outcome =
      Build.verdict (entries.findSome? (refusal? options)) (grown entries) :=
  Build.outcome_foldlM (outcome_withRoute options) entries empty

theorem refusal?_lenient {options : Options} (lenient : options.strictPatterns = false)
    (entry : String × RouteDefinition) : refusal? options entry = none := by
  simp [refusal?, Component.refusal?, lenient]

theorem outcome_ofList {options : Options} (lenient : options.strictPatterns = false)
    (entries : List (String × RouteDefinition)) :
    (ofList options entries).outcome = .ok (grown entries) := by
  have accepted : entries.findSome? (refusal? options) = none :=
    List.findSome?_eq_none_iff.2 fun entry _ => refusal?_lenient lenient entry
  rw [outcome_ofList_eq, accepted, Build.verdict_none]

theorem eq_grown_of_ofList {options : Options} {entries : List (String × RouteDefinition)}
    {t : RouteTree} (h : (ofList options entries).outcome = .ok t) : t = grown entries := by
  rw [outcome_ofList_eq, Build.verdict_eq_ok_iff] at h
  exact h.2

def resource? (t : RouteTree) (ns name : String) : Option ResourceTree :=
  (t.namespaces.get? ns).bind (·.get? name)

def branch? (ns name : String) (entry : String × RouteDefinition) : Option Branch :=
  match componentsOf entry.1 entry.2 with
  | [] => none
  | text :: rest => if entry.2.ns = ns ∧ text = name then some ⟨rest, entry.2⟩ else none

def branches (ns name : String) (entries : List (String × RouteDefinition)) : List Branch :=
  entries.filterMap (branch? ns name)

theorem resource?_insert (t : RouteTree) (d : RouteDefinition) (c : Component)
    (rest : List Component) (ns name : String) :
    (t.insert d c rest).resource? ns name =
      if d.ns = ns ∧ c.text = name then
        some (((t.resource? ns name).getD (.vacant c)).absorb c rest d)
      else t.resource? ns name := by
  unfold insert resource?
  by_cases hns : d.ns = ns
  · subst hns
    rw [Dict.get?_insert_self, Option.bind_some]
    by_cases hname : c.text = name
    · subst hname
      rw [Dict.get?_insert_self, if_pos ⟨rfl, rfl⟩]
      cases t.namespaces.get? d.ns <;> rfl
    · rw [Dict.get?_insert_of_ne _ _ (Ne.symm hname), if_neg fun h => hname h.2]
      cases t.namespaces.get? d.ns <;> rfl
  · rw [Dict.get?_insert_of_ne _ _ (Ne.symm hns), if_neg fun h => hns h.1]

theorem resource?_add (t : RouteTree) (entry : String × RouteDefinition) (ns name : String) :
    (t.add entry.1 entry.2).resource? ns name =
      match branch? ns name entry with
      | none => t.resource? ns name
      | some b => ResourceTree.graft name (t.resource? ns name) b := by
  unfold add branch?
  cases componentsOf entry.1 entry.2 with
  | nil => rfl
  | cons text rest =>
      simp only [resource?_insert]
      by_cases here : entry.2.ns = ns ∧ text = name
      · obtain ⟨_, rfl⟩ := here
        simp [*, Component.lenient, ResourceTree.graft]
      · have elsewhere : ¬(entry.2.ns = ns ∧ (Component.lenient text).text = name) := here
        rw [if_neg here, if_neg elsewhere]

theorem resource?_foldl_add (t : RouteTree) (entries : List (String × RouteDefinition))
    (ns name : String) :
    (entries.foldl (fun t entry => t.add entry.1 entry.2) t).resource? ns name =
      (branches ns name entries).foldl (ResourceTree.graft name) (t.resource? ns name) := by
  induction entries generalizing t with
  | nil => rfl
  | cons entry entries ih =>
      rw [List.foldl_cons, ih, resource?_add]
      cases hb : branch? ns name entry <;> simp [branches, hb]

/-- Each resource has the tree of its own routes. -/
theorem resource?_grown (entries : List (String × RouteDefinition)) (ns name : String) :
    (grown entries).resource? ns name =
      (branches ns name entries).foldl (ResourceTree.graft name) none :=
  resource?_foldl_add empty entries ns name

end RouteTree
end RestRoutes
