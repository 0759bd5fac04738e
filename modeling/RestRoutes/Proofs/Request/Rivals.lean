import RestRoutes.Proofs.Owners
import RestRoutes.Proofs.Request.Promotion

/-!
Rivals: setters of which one is dropped for the other. Setters that differ do different things
(`Setter.eq_or_repeats`), with one exception. A literal position that passes a value on to where no
route ends leaves its own methods in force, and so does one that passes it on to where just these
methods are allowed (`Setter.Repeats.sameEffect`). Such a pair is on record as a conflict, though it
makes no difference which of the two is dropped. All other conflicts are about setters that can be
told apart (`Blueprint.rivals_of_conflict`).
-/
namespace RestRoutes

namespace Setter

/-- The first setter has no methods for the position below, where the second one repeats its own. -/
def Repeats (a b : Setter) : Prop :=
  ∃ level component ms below,
    a = .static level component (some ms) (some ⟨below, none⟩) ∧
    b = .static level component (some ms) (some ⟨below, some ms⟩)

/-- Slot 0 is left to the resource, and a value that is passed on goes to the next level. -/
structure Placed (s : Setter) : Prop where
  level_ne : s.level ≠ 0
  passes : ∀ {level component methods promotion},
    s = .static level component methods (some promotion) → promotion.level = level + 1

theorem placed_of_found {as : List RouteTree.Attempt} {ns resource : String} {tree : ResourceTree}
    (found : (RouteTree.run as).resource? ns resource = some tree) {n : Node}
    (hn : n ∈ tree.root.preorder) (below : n.level ≠ 0) (options : Options) :
    (ofNode options n).Placed where
  level_ne := by rwa [level_ofNode]
  passes made := by
    obtain ⟨_, rfl, _, child⟩ := of_static_eq made.symm
    obtain ⟨c, hc, level⟩ := child _ rfl
    rw [← level]
    exact RouteTree.level_of_child_run found hn hc

theorem Placed.fills_apart {s : Setter} (placed : s.Placed) {value : Option String}
    {fs : List Fill} (h : s.fills? value = some fs) :
    (fs.map (·.level)).Nodup ∧ ∀ f ∈ fs, f.level ≠ 0 := by
  have own := placed.level_ne
  rw [level.eq_def] at own
  cases s with
  | dynamic level methods =>
      obtain ⟨_, _, rfl⟩ := Option.map_eq_some_iff.1 h
      simpa using own
  | static level component methods promotion =>
      cases promotion with
      | none => cases value <;> cases h <;> simpa using own
      | some child =>
          have deeper : child.level = level + 1 := placed.passes rfl
          cases value <;> cases h <;> simpa [deeper] using own

end Setter

namespace Request

/-- What shows of an operation: the error if it fails, and the slots and methods that it leaves. -/
def shown : EStateM.Result Error Request Unit → Option Error × Dict Nat String × MethodSet
  | .ok _ r => (none, r.slots, r.methods)
  | .error err r => (some err, r.slots, r.methods)

/-- A request that names its resource only, with the methods that it may use. -/
def allowing (e : Endpoint) (base : String) (methods : MethodSet) : Request :=
  { new e base with methods := methods }

theorem free_allowing {e : Endpoint} {base : String} {ms : MethodSet} {f : Fill}
    (other : f.level ≠ 0) : (allowing e base ms).Free f :=
  (Dict.get?_insert_of_ne _ _ other).trans (Dict.get?_empty _)

theorem exists_of_slots_foldl_write {r : Request} {fs gs : List Fill}
    (apart : (fs.map (·.level)).Nodup) (apart' : (gs.map (·.level)).Nodup)
    (free : ∀ f ∈ fs, r.Free f) (same : (fs.foldl write r).slots = (gs.foldl write r).slots) :
    ∀ f ∈ fs, ∃ g ∈ gs, g.level = f.level ∧ g.value = f.value := by
  intro f hf
  have held : (gs.foldl write r).slots.get? f.level = some f.value := by
    rw [← same]
    exact get?_slots_foldl_write_of_mem apart hf
  by_cases listed : ∃ g ∈ gs, g.level = f.level
  · obtain ⟨g, hg, level⟩ := listed
    rw [← level, get?_slots_foldl_write_of_mem apart' hg] at held
    exact ⟨g, hg, level, Option.some.inj held⟩
  · have others : ∀ g ∈ gs, g.level ≠ f.level := fun g hg level => listed ⟨g, hg, level⟩
    rw [get?_slots_foldl_write others] at held
    cases (free f hf).symm.trans held

end Request

/-- A set of methods can stand for any other one only where it is given. -/
theorem MethodSet.eq_of_getD_eq {a b : Option MethodSet} (same : ∀ s, a.getD s = b.getD s) :
    a = b := by
  have differ : MethodSet.empty ≠ .builderDefault := by decide
  cases a with
  | none =>
      cases b with
      | none => rfl
      | some t => exact absurd ((same .empty : _ = t).trans (same .builderDefault).symm) differ
  | some s =>
      cases b with
      | none => exact absurd ((same .empty : s = _).symm.trans (same .builderDefault)) differ
      | some t => exact congrArg some (same s)

namespace Setter

/-- Requests that name their resource only do not tell two setters apart by a value. -/
def ShownAlike (e : Endpoint) (base name : String) (value : Option String) (a b : Setter) : Prop :=
  ∀ ms, Request.shown ((Request.applySetter name value a).run (.allowing e base ms)) =
    Request.shown ((Request.applySetter name value b).run (.allowing e base ms))

section ShownAlike

variable {e : Endpoint} {base name : String} {value : Option String} {a b : Setter}

theorem ShownAlike.symm (alike : ShownAlike e base name value a b) :
    ShownAlike e base name value b a :=
  fun ms => (alike ms).symm

theorem Placed.shown_run (placed : a.Placed) {fs : List Fill} (h : a.fills? value = some fs)
    (ms : MethodSet) :
    Request.shown ((Request.applySetter name value a).run (.allowing e base ms)) =
      (none, (fs.foldl Request.write (.allowing e base ms)).slots,
        (fs.filterMap (·.methods)).getLast?.getD ms) := by
  obtain ⟨apart, deep⟩ := placed.fills_apart h
  rw [Request.run_applySetter_of_free h apart fun f hf => Request.free_allowing (deep f hf)]
  rw [Request.shown, Request.methods_foldl_write]
  rfl

theorem ShownAlike.lacks_iff (placed : a.Placed) (placed' : b.Placed)
    (alike : ShownAlike e base name value a b) :
    a.fills? value = none ↔ b.fills? value = none := by
  have shown := alike .empty
  cases ha : a.fills? value with
  | none =>
      cases hb : b.fills? value with
      | none => simp
      | some gs =>
          rw [Request.run_of_no_fills ha, placed'.shown_run hb] at shown
          cases shown
  | some fs =>
      cases hb : b.fills? value with
      | none =>
          rw [Request.run_of_no_fills hb, placed.shown_run ha] at shown
          cases shown
      | some gs => simp

variable (placed : a.Placed) (placed' : b.Placed) (alike : ShownAlike e base name value a b)
  {fs gs : List Fill} (ha : a.fills? value = some fs) (hb : b.fills? value = some gs)
include placed placed' alike ha hb

theorem ShownAlike.exists_fill : ∀ f ∈ fs, ∃ g ∈ gs, g.level = f.level ∧ g.value = f.value := by
  have shown := alike .empty
  rw [placed.shown_run ha, placed'.shown_run hb] at shown
  obtain ⟨apart, deep⟩ := placed.fills_apart ha
  exact Request.exists_of_slots_foldl_write apart (placed'.fills_apart hb).1
    (fun f hf => Request.free_allowing (deep f hf)) (congrArg (·.2.1) shown)

theorem ShownAlike.methods_eq :
    (fs.filterMap (·.methods)).getLast? = (gs.filterMap (·.methods)).getLast? := by
  refine MethodSet.eq_of_getD_eq fun ms => ?_
  have shown := alike ms
  rw [placed.shown_run ha, placed'.shown_run hb] at shown
  exact congrArg (·.2.2) shown

end ShownAlike

section Compare

variable {a b : Setter}

/-- At any endpoint and under any name, some value and some methods show a difference. -/
def Distinct (a b : Setter) : Prop :=
  ∀ e base name, ∃ value, ¬ShownAlike e base name value a b

/-- Whatever the request and the value are, the outcome is the same. -/
def SameEffect (a b : Setter) : Prop :=
  ∀ (r : Request) (name : String) (value : Option String),
    (Request.applySetter name value a).run r = (Request.applySetter name value b).run r

theorem SameEffect.symm (h : SameEffect a b) : SameEffect b a :=
  fun r name value => (h r name value).symm

theorem Repeats.promotes (h : a.Repeats b) : a.promotes = true := by
  obtain ⟨_, _, _, _, rfl, _⟩ := h
  rfl

theorem Repeats.sameEffect (placed : a.Placed) (h : a.Repeats b) : SameEffect a b := by
  obtain ⟨level, component, ms, below, rfl, rfl⟩ := h
  intro r name value
  let own : Fill := ⟨level, component, some ms⟩
  cases value with
  | none => exact (Request.run_of_fill (f := own) rfl).trans (Request.run_of_fill rfl).symm
  | some value =>
      have apart : below ≠ level := by
        have deeper : below = level + 1 := placed.passes rfl
        omega
      rw [Request.run_of_fills (f := own) (g := ⟨below, value, none⟩) rfl apart,
        Request.run_of_fills (f := own) (g := ⟨below, value, some ms⟩) rfl apart]
      cases r.slots.get? below with
      | some existing => rfl
      | none =>
          cases first : r.put own with
          | error err r' => rfl
          | ok _ r' =>
              -- The first fill has put the methods in force that the second setter repeats.
              obtain ⟨_, rfl⟩ := Request.put_eq_ok_iff.1 first
              rfl

theorem fills?_static_none (level : Nat) (component : String) (methods : Option MethodSet)
    (promotion : Option Promotion) :
    (static level component methods promotion).fills? none =
      some [⟨level, component, methods⟩] := by
  cases promotion <;> rfl

theorem last_methods_single (f : Fill) : ([f].filterMap (·.methods)).getLast? = f.methods := by
  cases h : f.methods <;> simp [h]

theorem last_methods_pair (f g : Fill) :
    ([f, g].filterMap (·.methods)).getLast? = g.methods.or f.methods := by
  cases hf : f.methods <;> cases hg : g.methods <;> simp [hf, hg]

section Static

variable {level level' : Nat} {component component' : String} {methods methods' : Option MethodSet}
  {promotion promotion' : Option Promotion} {e : Endpoint} {base name : String}

/-- Without a value, setters of literal positions show everything but where they pass a value on. -/
theorem ShownAlike.static_congr (placed : (static level component methods promotion).Placed)
    (placed' : (static level' component' methods' promotion').Placed)
    (alike : ShownAlike e base name none (static level component methods promotion)
      (static level' component' methods' promotion')) :
    level' = level ∧ component' = component ∧ methods' = methods := by
  have own := fills?_static_none level component methods promotion
  have own' := fills?_static_none level' component' methods' promotion'
  obtain ⟨_, hg, same⟩ := alike.exists_fill placed placed' own own' _ List.mem_cons_self
  cases List.mem_singleton.1 hg
  have last := alike.methods_eq placed placed' own own'
  rw [last_methods_single, last_methods_single] at last
  exact ⟨same.1, same.2, last.symm⟩

theorem ShownAlike.passes_on {p : Promotion} {value : String}
    (placed : (static level component methods (some p)).Placed)
    (placed' : (static level component methods promotion).Placed)
    (alike : ShownAlike e base name (some value) (static level component methods (some p))
      (static level component methods promotion)) : promotion ≠ none := by
  rintro rfl
  have deeper : p.level = level + 1 := placed.passes rfl
  obtain ⟨_, hg, same, _⟩ := alike.exists_fill placed placed' rfl rfl
    ⟨p.level, value, p.methods⟩ (by simp)
  cases List.mem_singleton.1 hg
  simp only at same
  omega

theorem ShownAlike.repeats_of_ne {p q : Promotion} {value : String}
    (placed : (static level component methods (some p)).Placed)
    (placed' : (static level component methods (some q)).Placed) (ne : p ≠ q)
    (alike : ShownAlike e base name (some value) (static level component methods (some p))
      (static level component methods (some q))) :
    (static level component methods (some p)).Repeats (static level component methods (some q)) ∨
      (static level component methods (some q)).Repeats
        (static level component methods (some p)) := by
  have down : p.level = level + 1 := placed.passes rfl
  have down' : q.level = level + 1 := placed'.passes rfl
  have last := alike.methods_eq placed placed' rfl rfl
  rw [last_methods_pair, last_methods_pair] at last
  obtain ⟨below, inner⟩ := p
  obtain ⟨below', inner'⟩ := q
  simp only at down down' last
  subst down down'
  cases methods with
  | none =>
      rw [Option.or_none, Option.or_none] at last
      cases last
      exact absurd rfl ne
  | some ms =>
      cases inner with
      | none =>
          cases inner' with
          | none => exact absurd rfl ne
          | some ms' =>
              cases last
              exact .inl ⟨level, component, ms, _, rfl, rfl⟩
      | some ms' =>
          cases inner' with
          | none =>
              cases last
              exact .inr ⟨level, component, _, _, rfl, rfl⟩
          | some ms'' => exact absurd (congrArg _ last) ne

end Static

/-- Setters that no request and no value tell apart are the same, or one repeats the other. -/
theorem eq_or_repeats (placed : a.Placed) (placed' : b.Placed) {e : Endpoint} {base name : String}
    (alike : ∀ value, ShownAlike e base name value a b) :
    a = b ∨ a.Repeats b ∨ b.Repeats a := by
  have lacks := (alike none).lacks_iff placed placed'
  cases a with
  | dynamic level methods =>
      cases b with
      | dynamic level' methods' =>
          obtain ⟨_, hg, same, _⟩ := (alike (some "")).exists_fill placed placed' rfl rfl
            _ List.mem_cons_self
          cases List.mem_singleton.1 hg
          have last := (alike (some "")).methods_eq placed placed' rfl rfl
          rw [last_methods_single, last_methods_single] at last
          cases same
          cases last
          exact .inl rfl
      | static => cases (fills?_static_none ..).symm.trans (lacks.1 rfl)
  | static level component methods promotion =>
      cases b with
      | dynamic => cases (fills?_static_none ..).symm.trans (lacks.2 rfl)
      | static level' component' methods' promotion' =>
          obtain ⟨rfl, rfl, rfl⟩ := (alike none).static_congr placed placed'
          have given := alike (some "")
          cases promotion with
          | some p =>
              obtain ⟨q, rfl⟩ := Option.ne_none_iff_exists'.1 (given.passes_on placed placed')
              by_cases same : p = q
              · exact .inl (same ▸ rfl)
              · exact .inr (given.repeats_of_ne placed placed' same)
          | none =>
              cases promotion' with
              | none => exact .inl rfl
              | some q => exact absurd rfl (given.symm.passes_on placed' placed)

theorem distinct_of_not_repeats (placed : a.Placed) (placed' : b.Placed) (ne : a ≠ b)
    (neither : ¬(a.Repeats b ∨ b.Repeats a)) : Distinct a b := by
  intro e base name
  refine Classical.not_forall.1 fun alike => ?_
  exact (eq_or_repeats placed placed' alike).elim ne neither

end Compare

end Setter

namespace Blueprint

/-- A conflict is about the first bid for its label and a later one for another setter. Something
shows the two setters apart, unless one of them repeats the other. Then they have the same effect,
whichever of the two is dropped. -/
theorem rivals_of_conflict {as : List RouteTree.Attempt} {ns resource : String}
    {tree : ResourceTree} (found : (RouteTree.run as).resource? ns resource = some tree)
    (options : Options) (ns' : String) :
    ∀ x ∈ (ofTree options ns' tree).value.conflicts,
      ∃ kept ∈ bids tree.root.preorder, ∃ dropped ∈ bids tree.root.preorder,
        kept.label = x.label ∧ dropped.label = x.label ∧
        x.kept = kept.place ∧ x.dropped = dropped.place ∧
        (ofTree options ns' tree).value.setters.entries.get? x.label = some (kept.entry options) ∧
        let a := kept.setter options
        let b := dropped.setter options
        (¬(a.Repeats b ∨ b.Repeats a) → a.Distinct b) ∧
        (a.Repeats b ∨ b.Repeats a → a.SameEffect b) := by
  intro x hx
  rw [conflicts_ofTree] at hx
  obtain ⟨dropped, hdropped, clashes⟩ := List.mem_filterMap.1 hx
  obtain ⟨kept, first, recorded⟩ := Option.bind_eq_some_iff.1 clashes
  have hkept := List.mem_of_find?_eq_some first
  have same : kept.label = dropped.label := by simpa using List.find?_some first
  rw [clash?, Option.ite_none_left_eq_some] at recorded
  obtain ⟨differ, made⟩ := recorded
  cases made
  have placed : ∀ b ∈ bids tree.root.preorder, (b.setter options).Placed := by
    intro b hb
    obtain ⟨hn, below, _⟩ := mem_bids.1 hb
    exact Setter.placed_of_found found hn below options
  refine ⟨kept, hkept, dropped, hdropped, same, rfl, rfl, rfl, ?_, fun neither => ?_, ?_⟩
  · rw [get?_setters, first]
    rfl
  · exact Setter.distinct_of_not_repeats (placed _ hkept) (placed _ hdropped) differ neither
  · rintro (forth | back)
    · exact forth.sameEffect (placed _ hkept)
    · exact (back.sameEffect (placed _ hdropped)).symm

def attempts (routes : RouteMap) : List RouteTree.Attempt :=
  routes.entries.map fun (route, definition) => ⟨{}, route, definition⟩

/-- A request shows which of two placeholders at different levels a name has been kept for. -/
theorem rivals_of_conflict_postId :
    ∃ tree, (RouteTree.run (attempts sharedLabels)).resource? "wp/v2" "posts" = some tree ∧
      ∃ x ∈ (ofTree {} "wp/v2" tree).value.conflicts,
        ∃ kept ∈ bids tree.root.preorder, ∃ dropped ∈ bids tree.root.preorder,
          x.label = "postId" ∧ x.kept = kept.place ∧ x.dropped = dropped.place ∧
          (kept.setter {}).Distinct (dropped.setter {}) := by
  have computed : ((RouteTree.run (attempts sharedLabels)).resource? "wp/v2" "posts").any
      (fun tree => (ofTree {} "wp/v2" tree).value.conflicts.any (·.label = "postId") &&
        (bids tree.root.preorder).all fun b =>
          b.label ≠ "postId" || !(b.setter {}).promotes) = true := by
    decide +kernel
  obtain ⟨tree, found, holds⟩ := (Option.any_eq_true _ _).1 computed
  rw [Bool.and_eq_true] at holds
  obtain ⟨x, hx, about⟩ := List.any_eq_true.1 holds.1
  have label : x.label = "postId" := of_decide_eq_true about
  obtain ⟨kept, hkept, dropped, hdropped, named, named', place, place', _, apart, _⟩ :=
    rivals_of_conflict found {} "wp/v2" x hx
  refine ⟨tree, found, x, hx, kept, hkept, dropped, hdropped, label, place, place', apart ?_⟩
  have keeps : ∀ b ∈ bids tree.root.preorder, b.label = "postId" →
      (b.setter {}).promotes = false := by
    intro b hb same
    simpa [same] using List.all_eq_true.1 holds.2 b hb
  rintro (forth | back)
  · cases (keeps kept hkept (named.trans label)).symm.trans forth.promotes
  · cases (keeps dropped hdropped (named'.trans label)).symm.trans back.promotes

/-- Items that can be looked at one by one, and items of which only the notes can be looked at. -/
def shopRoutes : RouteMap :=
  .ofList [("/wp/v2/shop/carts/items", ⟨"wp/v2", [.get], []⟩),
    ("/wp/v2/shop/carts/items/(?P<key>)", ⟨"wp/v2", [.get], []⟩),
    ("/wp/v2/shop/orders/items", ⟨"wp/v2", [.get], []⟩),
    ("/wp/v2/shop/orders/items/(?P<id>)/notes", ⟨"wp/v2", [.get], []⟩)]

def itemsSetter (single : Option MethodSet) : Setter :=
  .static 2 "items" (some (.ofList [.get])) (some ⟨3, single⟩)

/-- The setters of both positions for items have the same effect. The conflict between them is the
only one, and it keeps strict options from making a catalog. -/
theorem rejected_for_same_effect :
    (∃ tree, (RouteTree.run (attempts shopRoutes)).resource? "wp/v2" "shop" = some tree ∧
      (ofTree {} "wp/v2" tree).value.conflicts =
        [⟨"wp/v2", "shop", "items", ⟨"items", 2⟩, ⟨"items", 2⟩⟩] ∧
      ∀ n ∈ tree.root.preorder, ∀ m ∈ tree.root.preorder,
        n.component = "items" → m.component = "items" →
          (Setter.ofNode {} n).SameEffect (.ofNode {} m)) ∧
    (match (Catalog.bootstrap { failOnAliasConflict := true } .empty shopRoutes).outcome with
      | .ok _ => none
      | .error err => some err) =
        some (.aliasConflicts [⟨"wp/v2", "shop", "items", ⟨"items", 2⟩, ⟨"items", 2⟩⟩]) := by
  have computed : ((RouteTree.run (attempts shopRoutes)).resource? "wp/v2" "shop").any
      (fun tree => (ofTree {} "wp/v2" tree).value.conflicts =
          [⟨"wp/v2", "shop", "items", ⟨"items", 2⟩, ⟨"items", 2⟩⟩] &&
        tree.root.preorder.all fun n => n.component ≠ "items" ||
          Setter.ofNode {} n = itemsSetter none ||
          Setter.ofNode {} n = itemsSetter (some (.ofList [.get]))) = true := by
    decide +kernel
  obtain ⟨tree, found, holds⟩ := (Option.any_eq_true _ _).1 computed
  rw [Bool.and_eq_true, decide_eq_true_eq] at holds
  have either : ∀ n ∈ tree.root.preorder, n.component = "items" →
      Setter.ofNode {} n = itemsSetter none ∨
        Setter.ofNode {} n = itemsSetter (some (.ofList [.get])) := by
    intro n hn named
    simpa [named] using List.all_eq_true.1 holds.2 n hn
  have placed : (itemsSetter none).Placed := by
    refine ⟨by decide, fun made => ?_⟩
    injection made with own _ _ passed
    rw [← own, ← Option.some.inj passed]
  have same : (itemsSetter none).SameEffect (itemsSetter (some (.ofList [.get]))) :=
    Setter.Repeats.sameEffect placed ⟨_, _, _, _, rfl, rfl⟩
  refine ⟨⟨tree, found, holds.1, fun n hn m hm named named' => ?_⟩, by decide +kernel⟩
  rcases either n hn named with hn | hn <;> rcases either m hm named' with hm | hm <;> rw [hn, hm]
  · exact fun _ _ _ => rfl
  · exact same
  · exact same.symm
  · exact fun _ _ _ => rfl

end Blueprint
end RestRoutes
