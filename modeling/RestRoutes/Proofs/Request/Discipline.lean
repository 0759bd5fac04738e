import RestRoutes.Proofs.Request.Failure
import RestRoutes.Proofs.Request.Paths

/-!
What the slots of a request hold. A slot is filled once and for all, by one of the uses that have
been made of the request (`exists_use_of_slot`). A setter fills levels that its endpoint knows, and
with a text of its own only where that is accepted, so values that are not accepted come from
callers or from the name of the resource (`slot_discipline`).
-/
namespace RestRoutes

def Endpoint.Accepts (e : Endpoint) (level : Nat) (value : String) : Prop :=
  ∃ shapes, e.levels.get? level = some shapes ∧ shapes.any (·.validator.accepts value) = true

namespace Endpoint.Compiled

variable {e : Endpoint} {name : String}

theorem contains_of_fill (compiled : e.Compiled) {setter : Setter}
    (offered : e.capabilities.get? name = some (.path setter)) {value : Option String}
    {fs : List Fill} (hfs : setter.fills? value = some fs) {f : Fill} (hf : f ∈ fs) :
    1 ≤ f.level ∧ e.levels.contains f.level = true := by
  obtain ⟨options, entries, ns, resource, tree, ms, found, rfl⟩ := compiled.exists_tree
  obtain ⟨n, hn, below, made, _⟩ := exists_node_of_path offered
  have own : setter.level = n.level := by rw [made, Setter.level_ofNode]
  have positive : 1 ≤ setter.level := by omega
  have place : ∃ m ∈ tree.root.preorder, m.level = f.level ∧ 1 ≤ f.level := by
    rcases Setter.of_mem_fills hfs hf with ⟨rfl, _⟩ | ⟨_, rfl⟩ | ⟨_, _, _, _, rfl⟩
    · exact ⟨n, hn, own.symm, positive⟩
    · exact ⟨n, hn, own.symm, positive⟩
    · obtain ⟨_, _, _, passes⟩ := Setter.of_static_eq made
      obtain ⟨child, hchild, level⟩ := passes _ rfl
      have deeper := RouteTree.level_of_child found hn hchild
      have inside := (RouteTree.distinct_root found).mem_preorder_of_child hn hchild
      exact ⟨child, inside, level, by simp only at level; omega⟩
  obtain ⟨m, hm, same, deep⟩ := place
  obtain ⟨shapes, listed, _⟩ := Levels.exists_shapes hm
  rw [same] at listed
  rw [levels_ofTree, Dict.contains, listed]
  exact ⟨deep, rfl⟩

theorem accepts_component (compiled : e.Compiled) {level : Nat} {component : String}
    {methods : Option MethodSet} {promotion : Option Promotion}
    (offered : e.capabilities.get? name =
      some (.path (.static level component methods promotion))) : e.Accepts level component := by
  obtain ⟨options, entries, ns, resource, tree, ms, found, rfl⟩ := compiled.exists_tree
  obtain ⟨n, hn, _, made, _⟩ := exists_node_of_path offered
  obtain ⟨literal, rfl, rfl, _⟩ := Setter.of_static_eq made
  obtain ⟨text, stands⟩ := RouteTree.exists_stands found hn
  obtain ⟨shapes, listed, member⟩ := Levels.exists_shapes hn
  refine ⟨shapes, levels_ofTree ▸ listed, List.any_eq_true.2 ⟨.ofNode n, member, ?_⟩⟩
  rw [stands.literal_eq literal]
  exact stands.accepts_text literal

end Endpoint.Compiled

/-- What callers do with a request: acts, and looks at what has come of it. -/
inductive Use where
  | act (a : Act)
  | validate
  | renderPath
  | renderQuery
  | renderUri
  | checkMethod (m : Method)

namespace Request

def look {α : Type} (f : Request → Except Error α) : Op Unit := do
  match f (← get) with
  | .ok _ => return ()
  | .error err => throw err

end Request

namespace Use

def op : Use → Request.Op Unit
  | .act a => a.op
  | .validate => Request.look Request.validate
  | .renderPath => Request.look Request.renderPath
  | .renderQuery => Request.look fun r => .ok r.renderQuery
  | .renderUri => Request.look Request.renderUri
  | .checkMethod m => Request.look (·.checkMethod m)

def fills (e : Endpoint) : Use → List Fill
  | .act a => a.fills e
  | _ => []

/-- A use puts a value of the caller in the slot of a level: at once, for a dynamic position, or by
passing it on from a literal one. -/
inductive Supplies (e : Endpoint) (level : Nat) (value : String) : Use → Prop
  | filled : Supplies e level value (.act (.fill level value))
  | given {name : String} {methods : Option MethodSet} :
      e.capabilities.get? name = some (.path (.dynamic level methods)) →
        Supplies e level value (.act (.invoke name (some value)))
  | passed {name component : String} {above : Nat} {methods methods' : Option MethodSet} :
      e.capabilities.get? name =
        some (.path (.static above component methods (some ⟨level, methods'⟩))) →
        Supplies e level value (.act (.invoke name (some value)))

end Use

namespace Act

variable {e : Endpoint}

theorem fills_invoke (e : Endpoint) (name : String) (value : Option String) :
    (invoke name value).fills e = [] ∨ ∃ setter fs,
      e.capabilities.get? name = some (.path setter) ∧ setter.fills? value = some fs ∧
        (invoke name value).fills e = fs := by
  cases offered : e.capabilities.get? name with
  | none => exact .inl (by simp only [fills, offered])
  | some capability =>
      cases capability with
      | mixin mixin => exact .inl (fills_of_mixin offered value)
      | path setter =>
          rw [fills_of_path offered]
          cases hfs : setter.fills? value with
          | none => exact .inl rfl
          | some fs => exact .inr ⟨setter, fs, rfl, hfs, rfl⟩

theorem nodup_fills (apart : e.Apart) (act : Act) : ((act.fills e).map (·.level)).Nodup := by
  cases act with
  | invoke name value =>
      rcases fills_invoke e name value with nothing | ⟨setter, fs, offered, hfs, same⟩
      · rw [nothing]
        exact .nil
      · rw [same]
        exact apart name setter offered value fs hfs
  | param name value => exact .nil
  | fill level value => simp [fills]

end Act

namespace Use

variable {e : Endpoint} {use : Use}

theorem nodup_fills (apart : e.Apart) (use : Use) : ((use.fills e).map (·.level)).Nodup := by
  cases use with
  | act a => exact a.nodup_fills apart
  | _ => exact .nil

theorem supplies_of_mem_fills {f : Fill} (hf : f ∈ use.fills e) :
    use.Supplies e f.level f.value ∨ ∃ name promotion,
      e.capabilities.get? name = some (.path (.static f.level f.value f.methods promotion)) := by
  cases use with
  | act a =>
      cases a with
      | invoke name value =>
          rcases Act.fills_invoke e name value with nothing | ⟨setter, fs, offered, hfs, same⟩
          · rw [fills, nothing] at hf
            cases hf
          · rw [fills, same] at hf
            rcases Setter.of_mem_fills hfs hf with
              ⟨rfl, rfl⟩ | ⟨promotion, rfl⟩ | ⟨_, _, _, rfl, rfl⟩
            · exact .inl (.given offered)
            · exact .inr ⟨name, promotion, offered⟩
            · exact .inl (.passed offered)
      | param name value => cases hf
      | fill level value =>
          cases List.mem_singleton.1 hf
          exact .inl .filled
  | _ => cases hf

end Use

namespace Request

variable {r : Request}

def used (r : Request) (uses : List Use) : Request := uses.foldl (fun r use => r.after use.op) r

theorem used_cons (use : Use) (uses : List Use) :
    r.used (use :: uses) = (r.after use.op).used uses := rfl

theorem after_look {α : Type} (f : Request → Except Error α) : r.after (look f) = r := by
  unfold after look
  rw [run_bind_of_ok (rfl : (get : Op Request).run r = .ok r r)]
  cases f r <;> rfl

/-- A use changes no slots, or finds all slots that it is for free and fills them. -/
theorem after_use (apart : r.target.Apart) (use : Use) :
    (r.after use.op).target = r.target ∧ ((r.after use.op).slots = r.slots ∨
      (∀ f ∈ use.fills r.target, r.Free f) ∧
        (r.after use.op).slots = ((use.fills r.target).foldl write r).slots) := by
  cases use with
  | act a =>
      refine ⟨target_after apart a, ?_⟩
      rcases run_act apart a with
        ⟨err, query, fails, _⟩ | ⟨r', succeeds, _, free, slots⟩
      · left
        rw [Use.op, after, fails]
      · right
        rw [Use.op, after, succeeds]
        exact ⟨free, slots⟩
  | validate => exact after_look validate ▸ ⟨rfl, .inl rfl⟩
  | renderPath => exact after_look renderPath ▸ ⟨rfl, .inl rfl⟩
  | renderQuery => exact after_look (fun r => .ok r.renderQuery) ▸ ⟨rfl, .inl rfl⟩
  | renderUri => exact after_look renderUri ▸ ⟨rfl, .inl rfl⟩
  | checkMethod m => exact after_look (·.checkMethod m) ▸ ⟨rfl, .inl rfl⟩

theorem get?_slots_after (apart : r.target.Apart) (use : Use) (level : Nat) :
    (r.after use.op).slots.get? level = r.slots.get? level ∨
      ∃ f ∈ use.fills r.target, f.level = level ∧ r.slots.get? level = none ∧
        (r.after use.op).slots.get? level = some f.value := by
  rcases (after_use apart use).2 with same | ⟨free, filled⟩
  · exact .inl (by rw [same])
  · rw [filled]
    by_cases here : ∃ f ∈ use.fills r.target, f.level = level
    · obtain ⟨f, hf, rfl⟩ := here
      exact .inr ⟨f, hf, rfl, free f hf, get?_slots_foldl_write_of_mem (use.nodup_fills apart) hf⟩
    · have elsewhere : ∀ f ∈ use.fills r.target, f.level ≠ level :=
        fun f hf same => here ⟨f, hf, same⟩
      exact .inl (get?_slots_foldl_write elsewhere)

theorem target_used (apart : r.target.Apart) (uses : List Use) :
    (r.used uses).target = r.target := by
  induction uses generalizing r with
  | nil => rfl
  | cons use uses ih =>
      have same := (after_use apart use).1
      rw [used_cons, ih (same ▸ apart), same]

theorem get?_slots_used (apart : r.target.Apart) {level : Nat} {value : String}
    (h : r.slots.get? level = some value) (uses : List Use) :
    (r.used uses).slots.get? level = some value := by
  induction uses generalizing r with
  | nil => exact h
  | cons use uses ih =>
      have same := (after_use apart use).1
      refine ih (same ▸ apart) ?_
      rcases get?_slots_after apart use level with kept | ⟨f, _, _, free, _⟩
      · rw [kept, h]
      · cases free.symm.trans h

/-- A slot that has come to hold a value was filled by one of the uses. -/
theorem exists_use_of_slot (apart : r.target.Apart) {uses : List Use} {level : Nat} {value : String}
    (h : (r.used uses).slots.get? level = some value) :
    r.slots.get? level = some value ∨ ∃ before use later, uses = before ++ use :: later ∧
      (r.used before).slots.get? level = none ∧
        ∃ f ∈ use.fills r.target, f.level = level ∧ f.value = value := by
  induction uses generalizing r with
  | nil => exact .inl h
  | cons use uses ih =>
      obtain ⟨target, _⟩ := after_use apart use
      rcases ih (target ▸ apart) h with now | ⟨before, use', later, rfl, free, filled⟩
      · rcases get?_slots_after apart use level with kept | ⟨f, hf, here, free, filled⟩
        · exact .inl (kept.symm.trans now)
        · cases filled.symm.trans now
          exact .inr ⟨[], use, uses, rfl, free, f, hf, here, rfl⟩
      · exact .inr ⟨use :: before, use', later, rfl, free, target ▸ filled⟩

theorem exists_fill_of_invoke (apart : r.target.Apart) {name : String} {value : Option String}
    {level : Nat} {text : String} (free : r.slots.get? level = none)
    (filled : (r.after (invoke name value)).slots.get? level = some text) :
    ∃ setter fs, r.target.capabilities.get? name = some (.path setter) ∧
      setter.fills? value = some fs ∧ ∃ f ∈ fs, f.level = level ∧ f.value = text := by
  rcases get?_slots_after apart (.act (.invoke name value)) level with kept | ⟨f, hf, here, _, now⟩
  · cases filled.symm.trans (kept.trans free)
  · cases filled.symm.trans now
    rcases Act.fills_invoke r.target name value with nothing | ⟨setter, fs, offered, hfs, same⟩
    · rw [Use.fills, nothing] at hf
      cases hf
    · rw [Use.fills, same] at hf
      exact ⟨setter, fs, offered, hfs, f, hf, here, rfl⟩

theorem eq_component_of_invoke (apart : r.target.Apart) {name component text : String} {level : Nat}
    {methods : Option MethodSet} {promotion : Option Promotion} {value : Option String}
    (offered : r.target.capabilities.get? name =
      some (.path (.static level component methods promotion)))
    (free : r.slots.get? level = none)
    (filled : (r.after (invoke name value)).slots.get? level = some text) : text = component := by
  obtain ⟨setter, fs, offered', hfs, f, hf, rfl, rfl⟩ := exists_fill_of_invoke apart free filled
  cases offered.symm.trans offered'
  rcases Setter.of_mem_fills hfs hf with ⟨other, _⟩ | ⟨_, own⟩ | ⟨_, _, _, _, passed⟩
  · cases other
  · cases own
    rfl
  · -- A value that is passed on goes to another level.
    cases passed
    have different := apart name _ offered (some f.value) _ rfl
    simp at different

/-- A literal position can be chosen without a value while its slot is free. -/
theorem get?_slots_after_select {name component : String} {level : Nat}
    {methods : Option MethodSet} {promotion : Option Promotion}
    (offered : r.target.capabilities.get? name =
      some (.path (.static level component methods promotion)))
    (free : r.slots.get? level = none) :
    (r.after (invoke name none)).slots.get? level = some component := by
  let own : Fill := ⟨level, component, methods⟩
  have fills : (Setter.static level component methods promotion).fills? none = some [own] := by
    cases promotion <;> rfl
  have runs := run_applySetter_of_free fills (by simp) (List.forall_mem_singleton.2 free) name
  rw [after, run_invoke_path none offered, runs]
  exact Dict.get?_insert_self _ _ _

/-- Whatever has been done with a request, slot 0 holds the resource, no slot changes any more once
it is filled, and setters fill known levels below the resource. A literal position fills its own
slot with its text, which is accepted there, so a value that is not accepted stands in slot 0 or was
supplied by the caller. -/
theorem slot_discipline {e : Endpoint} (compiled : e.Compiled) (base : String) (uses : List Use) :
    let r := (new e base).used uses
    r.slots.get? 0 = some e.resource ∧
    (∀ level value later, r.slots.get? level = some value →
      (r.used later).slots.get? level = some value) ∧
    (∀ name value level text, r.slots.get? level = none →
      (r.after (invoke name value)).slots.get? level = some text →
        1 ≤ level ∧ e.levels.contains level = true) ∧
    (∀ name level component methods promotion, e.capabilities.get? name =
      some (.path (.static level component methods promotion)) →
        e.Accepts level component ∧
        (r.slots.get? level = none →
          (r.after (invoke name none)).slots.get? level = some component ∧
          ∀ value text, (r.after (invoke name value)).slots.get? level = some text →
            text = component)) ∧
    ∀ value components, r.validate = .error (.invalidSlot value components) →
      ∃ level shapes, r.slots.get? level = some value ∧ e.levels.get? level = some shapes ∧
        shapes.any (·.validator.accepts value) = false ∧
        components = shapes.map (·.component) ∧
        (level = 0 ∨ ∃ before use later, uses = before ++ use :: later ∧
          ((new e base).used before).slots.get? level = none ∧ use.Supplies e level value) := by
  intro r
  have apart : (new e base).target.Apart := compiled.apart
  have target : r.target = e := target_used apart uses
  have apart' : r.target.Apart := target ▸ compiled.apart
  refine ⟨?_, fun level value later held => get?_slots_used apart' held later, ?_, ?_, ?_⟩
  · exact get?_slots_used apart (Dict.get?_insert_self _ _ _) uses
  · intro name value level text free filled
    obtain ⟨setter, fs, offered, hfs, f, hf, rfl, rfl⟩ := exists_fill_of_invoke apart' free filled
    rw [target] at offered
    exact compiled.contains_of_fill offered hfs hf
  · intro name level component methods promotion literal
    have offered := target ▸ literal
    refine ⟨compiled.accepts_component literal, fun free => ?_⟩
    exact ⟨get?_slots_after_select offered free,
      fun value text => eq_component_of_invoke apart' offered free⟩
  · intro value components refused
    obtain ⟨level, shapes, held, listed, unaccepted, same⟩ := of_validate_eq_invalidSlot refused
    rw [target] at listed
    refine ⟨level, shapes, held, listed, unaccepted, same, ?_⟩
    by_cases top : level = 0
    · exact .inl top
    · right
      have vacant : (new e base).slots.get? level = none := Dict.get?_insert_of_ne _ _ top
      rcases exists_use_of_slot apart held with
        from_start | ⟨before, use, later, split, free, f, hf, rfl, rfl⟩
      · cases vacant.symm.trans from_start
      · refine ⟨before, use, later, split, free, ?_⟩
        rcases Use.supplies_of_mem_fills hf with supplied | ⟨name, promotion, literal⟩
        · exact supplied
        · obtain ⟨shapes', listed', accepted⟩ := compiled.accepts_component literal
          cases listed.symm.trans listed'
          cases unaccepted.symm.trans accepted

/-- The slot after the post is filled by its level, with a text that no route has there. -/
theorem slot_discipline_drafts :
    let uses : List Use :=
      [.act (.invoke "parent" (some "7")), .renderPath, .act (.fill 2 "drafts")]
    ∃ e, e.Compiled ∧
      ((new e "").used uses).validate = .error (.invalidSlot "drafts" ["revisions"]) ∧
      ∃ level before use later, uses = before ++ use :: later ∧ use.Supplies e level "drafts" := by
  intro uses
  have computed : ((Catalog.bootstrap {} .empty revisionRoutes).outcome.bind
      (·.resource "wp/v2" "posts")).toOption.any (fun e => e.resource = "posts" &&
        match ((new e "").used uses).validate with
        | .ok _ => false
        | .error err => err = .invalidSlot "drafts" ["revisions"]) = true := by
    decide +kernel
  obtain ⟨e, found, holds⟩ := exists_ok_of_any computed
  obtain ⟨catalog, made, listed⟩ := Catalog.exists_of_bind found
  have compiled : e.Compiled := .bootstrapped made listed
  simp only [Bool.and_eq_true, decide_eq_true_eq] at holds
  have refused : ((new e "").used uses).validate =
      .error (.invalidSlot "drafts" ["revisions"]) := by
    cases validated : ((new e "").used uses).validate with
    | ok _ => simp [validated] at holds
    | error err => simpa [validated] using holds.2
  obtain ⟨top, _, _, _, source⟩ := slot_discipline compiled "" uses
  obtain ⟨level, _, held, _, _, _, origin⟩ := source _ _ refused
  rcases origin with rfl | ⟨before, use, later, split, _, supplied⟩
  · rw [top, holds.1] at held
    simp at held
  · exact ⟨e, compiled, refused, level, before, use, later, split, supplied⟩

end Request
end RestRoutes
