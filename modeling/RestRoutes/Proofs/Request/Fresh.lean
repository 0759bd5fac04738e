import RestRoutes.Proofs.Isolation
import RestRoutes.Proofs.Path.Pieces
import RestRoutes.Proofs.Request.Discipline

/-!
Requests that are new. They name their resource and nothing else, and are valid unless the resource
is called by a pattern that its own text does not match (`Component.RefusesItself`). Slot 0 never
changes, so requests to such a resource stay invalid whatever is done with them
(`fresh_valid_iff`).
-/
namespace RestRoutes

namespace Component

/-- A placeholder whose pattern is not found in the text of the placeholder. -/
def RefusesItself (text : String) : Prop :=
  ∃ group p, Segment.classify text = .dynamic group ∧ group.pattern ≠ "" ∧
    Pattern.ofSource group.pattern = .ok p ∧ p.accepts text = false

/-- Literal texts accept themselves, and placeholders without a pattern of use accept everything. -/
theorem refusesItself_iff {text : String} :
    RefusesItself text ↔ (lenient text).validator.accepts text = false := by
  unfold RefusesItself lenient
  cases read : Segment.classify text with
  | literal text' =>
      have own : text' = text := by
        have literal : (Segment.classify text).isDynamic = false := by rw [read]; rfl
        exact Segment.literal.inj (read.symm.trans (Segment.classify_of_not_isDynamic literal))
      simp [Segment.validator, own, Validator.literal_accepts_self]
  | dynamic group =>
      simp only [Segment.validator, Validator.ofPattern, Segment.dynamic.injEq]
      by_cases blank : group.pattern = ""
      · simp [blank, Validator.accepts]
      · have filled : group.pattern.isEmpty = false := by simpa using blank
        rw [filled]
        cases made : Pattern.ofSource group.pattern with
        | ok p => simp [blank, made, Validator.accepts]
        | error flaw => simp [made, Validator.accepts]

end Component

namespace RouteTree

variable {entries : List (String × RouteDefinition)} {ns name : String} {tree : ResourceTree}

theorem LeadsTo.ne_empty {entry : String × RouteDefinition} (h : LeadsTo ns name entry) :
    ns ≠ "" ∧ name ≠ "" := by
  obtain ⟨rfl, leads⟩ := h
  unfold componentsOf at leads
  cases found : relative? entry.1 entry.2.ns with
  | none =>
      rw [found] at leads
      cases leads
  | some path =>
      rw [found] at leads
      constructor
      · intro none_given
        simp [relative?, none_given] at found
      · obtain ⟨c, hc, rfl⟩ := List.mem_map.1 (List.mem_of_head? leads)
        have some_text := Path.ne_nil_of_mem_components hc
        simpa using some_text

theorem levels_zero (h : (grown entries).resource? ns name = some tree) :
    (Levels.ofNodes tree.root.preorder).get? 0 = some [.ofNode tree.root] := by
  have top : tree.root.level = 0 := (reflects_root h).level_eq
  have deeper : ∀ n ∈ tree.root.children.flatMap Node.preorder, n.level ≠ 0 := by
    intro n hn
    -- Such a position is reached by at least one key, and its level counts the keys.
    obtain ⟨c, hc, inside⟩ := List.mem_flatMap.1 hn
    obtain ⟨ks, hks⟩ := ((distinct_root h).of_mem hc).exists_at? inside
    have down : tree.root.at? (c.key :: ks) = some n := by
      rw [Node.at?, (distinct_root h).child?_of_mem hc]
      exact hks
    rw [(reflects_of_at? h down).level_eq]
    exact Nat.succ_ne_zero _
  have listed : ((Levels.ofNodes tree.root.preorder).get? 0).getD [] = [.ofNode tree.root] := by
    have none_below : (tree.root.children.flatMap Node.preorder).filter (·.level = 0) = [] :=
      List.filter_eq_nil_iff.2 fun n hn same => deeper n hn (of_decide_eq_true same)
    rw [Levels.get?_ofNodes, Node.preorder_eq, List.filter_cons, none_below]
    simp [top]
  cases found : (Levels.ofNodes tree.root.preorder).get? 0 with
  | none =>
      rw [found] at listed
      cases listed
  | some shapes =>
      rw [found, Option.getD_some] at listed
      rw [listed]

end RouteTree

namespace Endpoint

/-- What an endpoint has at level 0 accepts a text as the component that names the resource does. -/
theorem Compiled.levels_zero {e : Endpoint} (compiled : e.Compiled) :
    ∃ shape, e.levels.get? 0 = some [shape] ∧ shape.component = e.resource ∧
      shape.validator = (Component.lenient e.resource).validator := by
  obtain ⟨options, entries, ns, resource, tree, ms, found, rfl⟩ := compiled.exists_tree
  rw [resource_ofTree, RouteTree.name_of_resource? found]
  exact ⟨.ofNode tree.root, levels_ofTree ▸ RouteTree.levels_zero found,
    RouteTree.component_root found, RouteTree.validator_root found⟩

theorem Compiled.ne_empty {e : Endpoint} (compiled : e.Compiled) : e.ns ≠ "" ∧ e.resource ≠ "" := by
  obtain ⟨options, entries, ns, resource, tree, ms, found, rfl⟩ := compiled.exists_tree
  have grew : ((RouteTree.grown entries).resource? ns resource).isSome = true := by rw [found]; rfl
  rw [RouteTree.resource?_isSome_iff, RouteTree.branches_ne_nil_iff] at grew
  obtain ⟨_, _, leads⟩ := grew
  rw [ns_ofTree, resource_ofTree, RouteTree.name_of_resource? found]
  exact leads.ne_empty

end Endpoint

namespace Request

variable {e : Endpoint}

/-- A request is refused for its first slot before the others are looked at. -/
theorem validate_of_refused {r : Request} {shapes : List Shape} {value : String}
    (listed : r.target.levels.get? 0 = some shapes) (held : r.slots.get? 0 = some value)
    (refused : shapes.any (·.validator.accepts value) = false) :
    r.validate = .error (.invalidSlot value (shapes.map (·.component))) := by
  refine validate_eq_invalidSlot_iff.2 ⟨0, shapes, ⟨listed, held, ?_⟩, rfl, ?_⟩
  · simpa using refused
  · exact fun lower below => absurd below (Nat.not_lt_zero lower)

theorem validate_new_of_accepted (compiled : e.Compiled)
    (accepted : (Component.lenient e.resource).validator.accepts e.resource = true)
    (base : String) : (new e base).validate = .ok () := by
  obtain ⟨shape, top, _, validator⟩ := compiled.levels_zero
  refine validate_of_accepted fun level shapes listed reached => ?_
  have first : level = 0 := Nat.le_zero.1 reached
  subst first
  cases top.symm.trans listed
  refine ⟨e.resource, Dict.get?_insert_self _ _ _, ?_⟩
  rw [List.any_cons, validator, accepted, Bool.true_or]

theorem renderPath_new (compiled : e.Compiled) {base : String}
    (valid : (new e base).validate = .ok ()) :
    (new e base).renderPath = .ok (e.ns ++ "/" ++ e.resource) := by
  obtain ⟨ns, resource⟩ := compiled.ne_empty
  have slots : (new e base).slots.values = [e.resource] := rfl
  rw [renderPath_of_valid valid, slots]
  simp [new, ns, resource]

theorem validate_of_refusesItself (compiled : e.Compiled)
    (refuses : Component.RefusesItself e.resource) (base : String) (uses : List Use) :
    ((new e base).used uses).validate = .error (.invalidSlot e.resource [e.resource]) := by
  have apart : (new e base).target.Apart := compiled.apart
  obtain ⟨shape, top, component, validator⟩ := compiled.levels_zero
  have listed : ((new e base).used uses).target.levels.get? 0 = some [shape] := by
    rw [target_used apart uses]
    exact top
  have held : ((new e base).used uses).slots.get? 0 = some e.resource :=
    get?_slots_used apart (Dict.get?_insert_self _ _ _) uses
  have refused : [shape].any (·.validator.accepts e.resource) = false := by
    rw [List.any_cons, validator, Component.refusesItself_iff.1 refuses]
    rfl
  rw [validate_of_refused listed held refused, List.map_singleton, component]

/-- A new request is valid, and its path is the resource below its namespace, unless the resource
refuses its own text. Then requests to it never have a path. -/
theorem fresh_valid_iff (compiled : e.Compiled) (base : String) :
    ((new e base).validate = .ok () ↔ ¬Component.RefusesItself e.resource) ∧
    ((new e base).renderPath = .ok (e.ns ++ "/" ++ e.resource) ↔
      ¬Component.RefusesItself e.resource) ∧
    (Component.RefusesItself e.resource → ∀ uses,
      ((new e base).used uses).renderPath = .error (.invalidSlot e.resource [e.resource])) := by
  have valid (accepts : ¬Component.RefusesItself e.resource) : (new e base).validate = .ok () := by
    rw [Component.refusesItself_iff, Bool.not_eq_false] at accepts
    exact validate_new_of_accepted compiled accepts base
  have fails (refuses : Component.RefusesItself e.resource) (uses : List Use) :
      ((new e base).used uses).renderPath = .error (.invalidSlot e.resource [e.resource]) := by
    rw [renderPath, validate_of_refusesItself compiled refuses base uses]
    rfl
  refine ⟨⟨?_, valid⟩, ⟨?_, fun accepts => renderPath_new compiled (valid accepts)⟩, fails⟩
  · intro succeeds refuses
    cases succeeds.symm.trans (validate_of_refusesItself compiled refuses base [])
  · intro succeeds refuses
    cases succeeds.symm.trans (fails refuses [])

def rootPlaceholder : RouteMap :=
  .ofList [("/wp/v2/(?P<id>[0-9]+)", ⟨"wp/v2", [.get], []⟩)]

/-- Nothing helps a request to a resource that is called by a pattern for digits. -/
theorem fresh_valid_iff_digits :
    ∃ e, e.Compiled ∧ e.resource = "(?P<id>[0-9]+)" ∧ Component.RefusesItself e.resource ∧
      (new e "").validate ≠ .ok () ∧ ∀ uses,
        ((new e "").used uses).renderPath = .error (.invalidSlot e.resource [e.resource]) := by
  have computed : ((Catalog.bootstrap {} .empty rootPlaceholder).outcome.bind
      (·.resource "wp/v2" "(?P<id>[0-9]+)")).toOption.any (fun e =>
        e.resource = "(?P<id>[0-9]+)" &&
          !(Component.lenient e.resource).validator.accepts e.resource) = true := by
    decide +kernel
  obtain ⟨e, compiled, holds⟩ := Endpoint.Compiled.exists_of_any computed
  rw [Bool.and_eq_true, decide_eq_true_eq, Bool.not_eq_true'] at holds
  have refuses := Component.refusesItself_iff.2 holds.2
  obtain ⟨valid, _, never⟩ := fresh_valid_iff compiled ""
  exact ⟨e, compiled, holds.1, refuses, fun ok => valid.1 ok refuses, never refuses⟩

/-- The request that such a resource begins with has no path. -/
theorem fresh_refused :
    ((Catalog.bootstrap {} .empty rootPlaceholder).outcome.bind
      (·.resource "wp/v2" "(?P<id>[0-9]+)")).toOption.map (fun e =>
        match (new e "").renderPath with
        | .ok _ => none
        | .error err => some err) =
      some (some (.invalidSlot "(?P<id>[0-9]+)" ["(?P<id>[0-9]+)"])) := by
  decide +kernel

end Request
end RestRoutes
