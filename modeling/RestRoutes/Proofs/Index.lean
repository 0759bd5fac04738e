import Mathlib
import RestRoutes.Proofs.Outcome
import RestRoutes.Route.Document

/-!
What a routes document says about each route. An object is read as routes member by member, and of
members with one name the last one counts (`get?_of_routes?`). An index whose routes are definitions
gives just these. One with a bad route is refused only if its own members are not all definitions;
otherwise these members are taken for the routes (`ofText_of_index`).
-/
namespace RestRoutes

theorem Dict.get?_foldl_insert {α : Type} (es : List (String × α)) (d : Dict String α)
    (k : String) :
    (es.foldl (fun d e => d.insert e.1 e.2) d).get? k =
      ((es.reverse.find? (·.1 == k)).map (·.2)).or (d.get? k) := by
  induction es generalizing d with
  | nil => rfl
  | cons e es ih =>
      rw [List.foldl_cons, ih, List.reverse_cons, List.find?_append]
      cases later : es.reverse.find? (·.1 == k) with
      | some e' => rfl
      | none =>
          by_cases here : e.1 = k
          · simp [here, get?_insert_self]
          · simp [here, get?_insert_of_ne d e.2 (Ne.symm here)]

theorem Dict.get?_ofList {α : Type} (es : List (String × α)) (k : String) :
    (ofList es).get? k = (es.reverse.find? (·.1 == k)).map (·.2) := by
  rw [ofList, get?_foldl_insert, get?_empty, Option.or_none]

namespace Document
open Json

def route? (m : String × Value) : Option (String × RouteDefinition) :=
  (definition? m.2).map (m.1, ·)

theorem route?_eq_some_iff {m : String × Value} {e : String × RouteDefinition} :
    route? m = some e ↔ m.1 = e.1 ∧ definition? m.2 = some e.2 := by
  unfold route?
  cases definition? m.2 <;> simp [Prod.ext_iff]

theorem routes?_eq (members : List (String × Value)) :
    routes? members = (members.mapM route?).map .ofList := by
  change (members.mapM route?).bind _ = _
  cases members.mapM route? <;> rfl

theorem routes?_isSome_iff {members : List (String × Value)} :
    (routes? members).isSome = true ↔ ∀ m ∈ members, (definition? m.2).isSome = true := by
  rw [routes?_eq, Option.isSome_map, mapM_isSome_iff]
  simp [route?]

theorem find?_of_entries {members : List (String × Value)}
    {entries : List (String × RouteDefinition)} (h : members.map route? = entries.map some)
    (name : String) :
    (entries.find? (·.1 == name)).map (·.2) =
      ((members.find? (·.1 == name)).map (·.2)).bind definition? := by
  induction members generalizing entries with
  | nil =>
      cases entries with
      | nil => rfl
      | cons e entries => cases h
  | cons m members ih =>
      cases entries with
      | nil => cases h
      | cons e entries =>
          obtain ⟨first, rest⟩ := List.cons.inj h
          obtain ⟨called, read⟩ := route?_eq_some_iff.1 first
          by_cases here : e.1 = name
          · simp [called, here, read]
          · simpa [called, here] using ih rest

theorem get?_of_routes? {members : List (String × Value)} {map : RouteMap}
    (h : routes? members = some map) (name : String) :
    map.get? name = ((Value.object members).member? name).bind definition? := by
  rw [routes?_eq, Option.map_eq_some_iff] at h
  obtain ⟨entries, read, rfl⟩ := h
  rw [Dict.get?_ofList]
  apply find?_of_entries
  rw [List.map_reverse, List.map_reverse, mapM_eq_some_iff.1 read]

/-- An object without any field of a definition is one, and says nothing. -/
theorem definition?_of_no_field {members : List (String × Value)}
    (h : ∀ m ∈ members, m.1 ∉ ["namespace", "methods", "endpoints"]) :
    definition? (.object members) = some ⟨"", [], []⟩ := by
  have absent : ∀ name ∈ ["namespace", "methods", "endpoints"],
      members.filter (·.1 == name) = [] := by
    intro name hname
    rw [List.filter_eq_nil_iff]
    intro m hm same
    exact h m hm (eq_of_beq same ▸ hname)
  unfold definition? fields?
  simp [absent, orDefault]

/-- The members of an index: one of them is called `routes`, and it is an object. -/
def IsIndex (members routes : List (String × Value)) : Prop :=
  members.filter (·.1 == "routes") = [("routes", .object routes)]

theorem IsIndex.index?_eq {members routes : List (String × Value)} (h : IsIndex members routes) :
    index? members = routes? routes := by
  unfold index?
  rw [h]

theorem IsIndex.member?_eq {members routes : List (String × Value)} (h : IsIndex members routes) :
    (Value.object members).member? "routes" = some (.object routes) := by
  have last : members.reverse.find? (·.1 == "routes") = some ("routes", .object routes) := by
    rw [← List.head?_filter, List.filter_reverse, h]
    rfl
  rw [Value.member?, last]
  rfl

/-- A whole text that is JSON is judged by its value alone. -/
theorem ofText_of_read {text : String} {v : Value} (h : Value.read? levelLimit text = some v) :
    RouteMap.ofText text =
      match ofValue? v with
      | none => .error .notRoutes
      | some map => .ok map := by
  simp only [Value.read?, Option.bind_eq_bind, Option.bind_eq_some_iff] at h
  obtain ⟨⟨v', rest⟩, found, h⟩ := h
  split at h
  · next ended =>
      cases h
      rw [RouteMap.ofText, found]
      cases judged : ofValue? v' <;> simp [ended, judged]
  · cases h

def Spells (map : RouteMap) (members : List (String × Value)) : Prop :=
  ∀ name, map.get? name = ((Value.object members).member? name).bind definition?

section Index

variable {text : String} {members routes : List (String × Value)}

theorem ofText_of_good (reads : Value.read? levelLimit text = some (.object members))
    (index : IsIndex members routes) (good : ∀ r ∈ routes, (definition? r.2).isSome = true) :
    ∃ map, RouteMap.ofText text = .ok map ∧ Spells map routes := by
  obtain ⟨map, read⟩ := Option.isSome_iff_exists.1 (routes?_isSome_iff.2 good)
  refine ⟨map, ?_, get?_of_routes? read⟩
  rw [ofText_of_read reads, ofValue?, index.index?_eq, read]
  rfl

theorem ofValue?_of_bad (index : IsIndex members routes)
    (bad : ∃ r ∈ routes, definition? r.2 = none) :
    ofValue? (.object members) = routes? members := by
  have refused : routes? routes = none := by
    rw [← Option.not_isSome_iff_eq_none, routes?_isSome_iff]
    intro good
    obtain ⟨r, hr, absent⟩ := bad
    have present := good r hr
    rw [absent] at present
    cases present
  rw [ofValue?, index.index?_eq, refused, Option.none_or]

/-- A bad route by itself does not make an index an error. It is one exactly if a member beside the
routes, or the object of all routes, is no definition. Otherwise each member is taken for a route:
the one called `routes` among them, which says nothing unless a route is called like a field, and
none of those that the index lists. -/
theorem ofText_of_index (reads : Value.read? levelLimit text = some (.object members))
    (index : IsIndex members routes) (bad : ∃ r ∈ routes, definition? r.2 = none) :
    (RouteMap.ofText text = .error .notRoutes ↔ ∃ m ∈ members, definition? m.2 = none) ∧
      ((∀ m ∈ members, (definition? m.2).isSome = true) →
        ∃ map, RouteMap.ofText text = .ok map ∧ Spells map members ∧
          ((∀ r ∈ routes, r.1 ∉ ["namespace", "methods", "endpoints"]) →
            map.get? "routes" = some ⟨"", [], []⟩)) := by
  have judged := ofText_of_read reads
  rw [ofValue?_of_bad index bad] at judged
  have refused : routes? members = none ↔ ∃ m ∈ members, definition? m.2 = none := by
    rw [← Option.not_isSome_iff_eq_none, routes?_isSome_iff]
    simp
  constructor
  · rw [← refused, judged]
    cases routes? members <;> simp
  · intro all
    obtain ⟨map, read⟩ := Option.isSome_iff_exists.1 (routes?_isSome_iff.2 all)
    have spells : Spells map members := get?_of_routes? read
    refine ⟨map, by rw [judged, read], spells, ?_⟩
    intro no_field
    rw [spells, index.member?_eq, Option.bind_some, definition?_of_no_field no_field]

end Index

/-- The routes of an index, one of which is for a method that there is not. -/
def fetched : List (String × Value) := [("/a", .object [("methods", .array [.string "FETCH"])])]

theorem definition?_fetched : ∃ r ∈ fetched, definition? r.2 = none :=
  ⟨_, List.mem_cons_self, by cbv⟩

/-- The index is refused when it also has a name. -/
theorem ofText_of_index_named :
    let text :=
      "\x7b\"name\": \"A\", \"routes\": \x7b\"/a\": \x7b\"methods\": [\"FETCH\"]\x7d\x7d\x7d"
    let members := [("name", .string "A"), ("routes", .object fetched)]
    Value.read? levelLimit text = some (.object members) ∧ IsIndex members fetched ∧
      (∃ r ∈ fetched, definition? r.2 = none) ∧ RouteMap.ofText text = .error .notRoutes := by
  intro text members
  have reads : Value.read? levelLimit text = some (.object members) := by cbv
  have index : IsIndex members fetched := by rfl
  have refused := (ofText_of_index reads index definition?_fetched).1
  exact ⟨reads, index, definition?_fetched,
    refused.2 ⟨("name", .string "A"), List.mem_cons_self, rfl⟩⟩

/-- Without a name it is no error: the routes are lost, and `routes` is taken for a route. -/
theorem bad_route_unnoticed :
    let text := "\x7b\"routes\": \x7b\"/a\": \x7b\"methods\": [\"FETCH\"]\x7d\x7d\x7d"
    let members := [("routes", .object fetched)]
    Value.read? levelLimit text = some (.object members) ∧ IsIndex members fetched ∧
      (∀ r ∈ fetched, ∃ fields, r.2 = .object fields) ∧
      (∃ r ∈ fetched, definition? r.2 = none) ∧
      RouteMap.ofText text = .ok (.ofList [("routes", ⟨"", [], []⟩)]) := by
  intro text members
  have reads : Value.read? levelLimit text = some (.object members) := by cbv
  have objects : ∀ r ∈ fetched, ∃ fields, r.2 = .object fields := by simp [fetched]
  refine ⟨reads, rfl, objects, definition?_fetched, ?_⟩
  rw [ofText_of_read reads]
  cbv

end Document
end RestRoutes
