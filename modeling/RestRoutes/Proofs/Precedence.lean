import RestRoutes.Proofs.Labels

/-!
What an endpoint offers under a name. Names that requests need for themselves are never taken; after
them come the setters of the blueprint, and then the query operations by the order of the arguments
that call for them (`Endpoint.capability_precedence`). Operations that are added later take what is
left, one after the other.
-/
namespace RestRoutes

theorem Dict.pairwise_keys {α : Type} (d : Dict String α) : d.keys.Pairwise (· < ·) := by
  rw [keys, List.pairwise_map]
  exact d.ascending.imp fun below => compareOfLessAndEq_eq_lt.1 below

theorem Dict.le_of_find?_keys {α : Type} {d : Dict String α} {p : String → Bool} {first : String}
    (found : d.keys.find? p = some first) {k : String} (hk : k ∈ d.keys) (passes : p k = true) :
    first ≤ k := by
  obtain ⟨_, before, after, split, fail⟩ := List.find?_eq_some_iff_append.1 found
  have ordered := d.pairwise_keys
  rw [split] at hk ordered
  obtain ⟨_, ordered, _⟩ := List.pairwise_append.1 ordered
  rcases List.mem_append.1 hk with early | late
  · have refused := fail k early
    simp [passes] at refused
  · rcases List.mem_cons.1 late with rfl | later
    · exact Std.le_refl _
    · exact Std.le_of_lt ((List.pairwise_cons.1 ordered).1 k later)

namespace Endpoint

/-- An argument of the blueprint calls for an operation that goes by a name. -/
structure CallsFor (b : Blueprint) (mixins : MixinTable) (name arg : String) (m : Mixin) :
    Prop where
  mem : arg ∈ b.getArgs.keys
  found : mixins.get? arg = some m
  named : m.method = name

theorem get?_assembled (b : Blueprint) (ms : List Mixin) (name : String) :
    (assembled b ms).capabilities.get? name =
      if name ∈ reservedNames then none
      else ((b.setters.entries.get? name).map fun entry => .path entry.setter).or
        ((ms.find? (·.method = name)).map .mixin) := by
  have setters : ((fun c : String × Capability => decide (c.1 = name)) ∘
      fun entry : String × AliasEntry => (entry.1, .path entry.2.setter)) =
        fun entry => decide (entry.1 = name) := rfl
  have operations : ((fun c : String × Capability => decide (c.1 = name)) ∘
      fun m : Mixin => (m.method, .mixin m)) = fun m => decide (m.method = name) := rfl
  rw [assembled, get?_attachAll, Dict.get?_empty, Option.none_or, List.find?_append, List.find?_map,
    List.find?_map, setters, operations, Option.map_or, Option.map_map, Option.map_map,
    Dict.get?_eq_find?, Option.map_map]
  rfl

/-- Of the operations that are called for under a name, the first belongs to the least argument. -/
theorem find?_called_for (b : Blueprint) (mixins : MixinTable) (name : String) :
    (∃ arg m, CallsFor b mixins name arg m ∧
      (∀ arg' m', CallsFor b mixins name arg' m' → arg ≤ arg') ∧
      (b.getArgs.keys.filterMap mixins.get?).find? (·.method = name) = some m) ∨
    ((∀ arg m, ¬CallsFor b mixins name arg m) ∧
      (b.getArgs.keys.filterMap mixins.get?).find? (·.method = name) = none) := by
  have passes : ∀ {arg m}, CallsFor b mixins name arg m →
      (mixins.get? arg).any (·.method = name) = true := by
    intro arg m calls
    simp [calls.found, calls.named]
  rw [List.find?_filterMap]
  cases first : b.getArgs.keys.find? fun arg => (mixins.get? arg).any (·.method = name) with
  | none =>
      right
      refine ⟨fun arg m calls => ?_, rfl⟩
      exact List.find?_eq_none.1 first arg calls.mem (passes calls)
  | some arg =>
      left
      have called := List.find?_some first
      obtain ⟨m, found, named⟩ := (Option.any_eq_true _ _).1 called
      refine ⟨arg, m, ⟨List.mem_of_find?_eq_some first, found, of_decide_eq_true named⟩, ?_, found⟩
      exact fun arg' m' calls => Dict.le_of_find?_keys first calls.mem (passes calls)

def addMixins (e : Endpoint) (ms : List Mixin) : Endpoint := (ms.foldlM attachMixin e).value

theorem addMixins_eq (e : Endpoint) (ms : List Mixin) :
    e.addMixins ms = e.attachAll (ms.map fun m => (m.method, .mixin m)) := by
  rw [addMixins, Logged.value_foldlM, attachAll, List.foldl_map]
  rfl

theorem addMixins_append (e : Endpoint) (ms ms' : List Mixin) :
    e.addMixins (ms ++ ms') = (e.addMixins ms).addMixins ms' := by
  rw [addMixins_eq, List.map_append, attachAll_append, ← addMixins_eq, ← addMixins_eq]

theorem get?_addMixins_of_some {e : Endpoint} {name : String} {c : Capability}
    (h : e.capabilities.get? name = some c) (ms : List Mixin) :
    (e.addMixins ms).capabilities.get? name = some c := by
  rw [addMixins_eq, get?_attachAll, h, Option.some_or]

/-- A reserved name offers nothing. Any other name offers the setter that the blueprint has under
it, or else the operation that goes by it and belongs to the least argument with one, or else
nothing. Operations that are added later change no name that is taken, and each of them is added if
and only if its name is neither reserved nor taken. -/
theorem capability_precedence (b : Blueprint) (mixins : MixinTable) :
    let e := (ofBlueprint b mixins).value
    (∀ name ∈ reservedNames, e.capabilities.get? name = none) ∧
    (∀ name ∉ reservedNames,
      (∀ entry, b.setters.entries.get? name = some entry →
        e.capabilities.get? name = some (.path entry.setter)) ∧
      (b.setters.entries.get? name = none →
        (∃ arg m, CallsFor b mixins name arg m ∧
          (∀ arg' m', CallsFor b mixins name arg' m' → arg ≤ arg') ∧
          e.capabilities.get? name = some (.mixin m)) ∨
        ((∀ arg m, ¬CallsFor b mixins name arg m) ∧ e.capabilities.get? name = none))) ∧
    (∀ before later name c, (e.addMixins before).capabilities.get? name = some c →
      (e.addMixins (before ++ later)).capabilities.get? name = some c) ∧
    ∀ before m, e.addMixins (before ++ [m]) =
      if m.method ∈ reservedNames ∨ (e.addMixins before).capabilities.contains m.method then
        e.addMixins before
      else { e.addMixins before with
        capabilities := (e.addMixins before).capabilities.insert m.method (.mixin m) } := by
  intro e
  have offers : ∀ name, e.capabilities.get? name = if name ∈ reservedNames then none
      else ((b.setters.entries.get? name).map fun entry => .path entry.setter).or
        (((b.getArgs.keys.filterMap mixins.get?).find? (·.method = name)).map .mixin) := by
    intro name
    have made : e = assembled b (b.getArgs.keys.filterMap mixins.get?) := value_ofBlueprint b mixins
    rw [made]
    exact get?_assembled b _ name
  refine ⟨fun name reserved => ?_, fun name free => ⟨fun entry stored => ?_, fun none_stored => ?_⟩,
    fun before later name c taken => ?_, fun before m => ?_⟩
  · rw [offers, if_pos reserved]
  · rw [offers, if_neg free, stored]
    rfl
  · rw [offers, if_neg free, none_stored]
    rcases find?_called_for b mixins name with ⟨arg, m, calls, least, first⟩ | ⟨uncalled, no_first⟩
    · left
      rw [first]
      exact ⟨arg, m, calls, least, rfl⟩
    · right
      rw [no_first]
      exact ⟨uncalled, rfl⟩
  · rw [addMixins_append]
    exact get?_addMixins_of_some taken later
  · rw [addMixins_append]
    exact value_attach _ _ _

def searchable : Blueprint where
  ns := "wp/v2"
  resource := "posts"
  levels := .empty
  setters := ((AliasTable.empty "wp/v2" "posts").register "page" ⟨"(?P<page>)", 1⟩
    (.dynamic 1 none)).value.1
  getArgs := .ofList [("page", ()), ("search", ()), ("s", ())]

def searchFor : Mixin := ⟨"look", ParamSetter.op ⟨"s", .replace⟩⟩

/-- Both arguments for searches call for an operation that goes by `look`; one always fails. -/
def lookups : MixinTable :=
  .ofList [("page", ⟨"page", ParamSetter.op ⟨"page", .replace⟩⟩),
    ("search", ⟨"look", fun _ => throw (.missingValue "look")⟩), ("s", searchFor)]

/-- Pages are set in the path, and the operation that is offered belongs to `s`. -/
theorem capability_precedence_look :
    let e := (ofBlueprint searchable lookups).value
    e.capabilities.get? "param" = none ∧
    e.capabilities.get? "page" = some (.path (.dynamic 1 none)) ∧
    e.capabilities.get? "look" = some (.mixin searchFor) ∧
    (e.addMixins [⟨"look", ParamSetter.op ⟨"q", .append⟩⟩]).capabilities.get? "look" =
      some (.mixin searchFor) := by
  intro e
  obtain ⟨reserved, offers, keeps, _⟩ := capability_precedence searchable lookups
  have look : e.capabilities.get? "look" = some (.mixin searchFor) := by
    have called : CallsFor searchable lookups "look" "s" searchFor := ⟨by decide, rfl, rfl⟩
    rcases (offers "look" (by decide)).2 (by decide) with
      ⟨arg, m, calls, least, offered⟩ | ⟨uncalled, _⟩
    · have below := least _ _ called
      have keys : searchable.getArgs.keys = ["page", "s", "search"] := by decide
      have listed : arg = "page" ∨ arg = "s" ∨ arg = "search" := by
        simpa [keys] using calls.mem
      rcases listed with rfl | rfl | rfl
      · have own : lookups.get? "page" = some ⟨"page", ParamSetter.op ⟨"page", .replace⟩⟩ := rfl
        cases own.symm.trans calls.found
        exact absurd calls.named (by decide)
      · cases called.found.symm.trans calls.found
        exact offered
      · exact absurd below (by decide)
    · exact absurd called (uncalled _ _)
  refine ⟨reserved "param" (by decide), (offers "page" (by decide)).1 _ rfl, look, ?_⟩
  exact keeps [] [⟨"look", ParamSetter.op ⟨"q", .append⟩⟩] "look" _ look

end Endpoint
end RestRoutes
