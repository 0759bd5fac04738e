import RestRoutes.Proofs.Compiled
import RestRoutes.Proofs.Request.Fills

/-!
Operations that fail. A setter never fills one slot twice, since a value that is passed on goes one
level further down, so it does all that it is for or nothing. Operations on the query are free to
fail halfway; where they just set parameters they do not fail at all, so then no failure changes
anything (`failure_changes_nothing`).
-/
namespace RestRoutes

def Endpoint.Apart (e : Endpoint) : Prop :=
  ∀ name setter, e.capabilities.get? name = some (.path setter) →
    ∀ value fs, setter.fills? value = some fs → (fs.map (·.level)).Nodup

theorem Endpoint.Compiled.apart {e : Endpoint} (h : e.Compiled) : e.Apart := by
  obtain ⟨options, entries, ns, resource, tree, ms, found, rfl⟩ := h.exists_tree
  intro name setter offered value fs hfs
  cases setter with
  | dynamic level methods =>
      obtain ⟨value, _, rfl⟩ := Option.map_eq_some_iff.1 hfs
      simp
  | static level component methods promotion =>
      cases promotion with
      | none => cases value <;> cases hfs <;> simp
      | some child =>
          have deeper := level_of_promotion found offered
          cases value <;> cases hfs <;> simp [deeper]

inductive Act where
  | invoke (name : String) (value : Option String)
  | param (name value : String)
  | fill (level : Nat) (value : String)

def Act.op : Act → Request.Op Unit
  | .invoke name value => Request.invoke name value
  | .param name value => Request.param name value
  | .fill level value => Request.fill level value

def Act.fills (e : Endpoint) : Act → List Fill
  | .invoke name value =>
    match e.capabilities.get? name with
    | some (.path setter) => (setter.fills? value).getD []
    | _ => []
  | .param .. => []
  | .fill level value => [⟨level, value, none⟩]

theorem Act.fills_of_path {e : Endpoint} {name : String} {setter : Setter}
    (h : e.capabilities.get? name = some (.path setter)) (value : Option String) :
    (invoke name value).fills e = (setter.fills? value).getD [] := by
  simp only [fills, h]

theorem Act.fills_of_mixin {e : Endpoint} {name : String} {mixin : Mixin}
    (h : e.capabilities.get? name = some (.mixin mixin)) (value : Option String) :
    (invoke name value).fills e = [] := by
  simp only [fills, h]

namespace Request

/-- The request that an operation leaves behind, also where it fails. -/
def after (r : Request) (op : Op Unit) : Request :=
  match op.run r with
  | .ok _ r' => r'
  | .error _ r' => r'

def perform (r : Request) (acts : List Act) : Request := acts.foldl (fun r act => r.after act.op) r

/-- An act fails and changes the query at most, or finds all the slots that it is for free and fills
them. -/
theorem run_act {r : Request} (apart : r.target.Apart) (act : Act) :
    (∃ err query, act.op.run r = .error err { r with query } ∧
      (r.target.SetsParams → query = r.query)) ∨
      ∃ r', act.op.run r = .ok () r' ∧ r'.target = r.target ∧
        (∀ f ∈ act.fills r.target, r.Free f) ∧
        r'.slots = ((act.fills r.target).foldl write r).slots := by
  cases act with
  | invoke name value =>
      cases offered : r.target.capabilities.get? name with
      | none => exact .inl ⟨_, _, run_invoke_unknown value offered, fun _ => rfl⟩
      | some capability =>
          cases capability with
          | mixin mixin =>
              rw [Act.fills_of_mixin offered]
              rcases run_invoke_mixin value offered with succeeds | ⟨err, refused, fails⟩
              · exact .inr ⟨_, succeeds, rfl, List.forall_mem_nil _, rfl⟩
              · refine .inl ⟨err, _, fails, fun plain => ?_⟩
                obtain ⟨s, same⟩ := plain name mixin offered
                rw [same] at refused
                cases refused
          | path setter =>
              have runs := run_invoke_path value offered
              rcases run_applySetter (apart name setter offered value) name with
                ⟨err, fails⟩ | ⟨fs, hfs, free, fills⟩
              · exact .inl ⟨err, _, runs.trans fails, fun _ => rfl⟩
              · rw [Act.fills_of_path offered, hfs, Option.getD_some]
                exact .inr ⟨_, runs.trans fills, target_foldl_write fs, free, rfl⟩
  | param name value => exact .inr ⟨_, rfl, rfl, List.forall_mem_nil _, rfl⟩
  | fill level value =>
      cases held : r.slots.get? level with
      | none =>
          have free : r.Free ⟨level, value, none⟩ := held
          exact .inr ⟨_, run_fill_of_free value held, rfl, List.forall_mem_singleton.2 free, rfl⟩
      | some existing => exact .inl ⟨_, _, run_fill_of_taken value held, fun _ => rfl⟩

theorem target_after {r : Request} (apart : r.target.Apart) (act : Act) :
    (r.after act.op).target = r.target := by
  unfold after
  rcases run_act apart act with ⟨err, query, fails, _⟩ | ⟨r', succeeds, same, _⟩
  · rw [fails]
  · rw [succeeds]
    exact same

theorem target_perform {r : Request} (apart : r.target.Apart) (acts : List Act) :
    (r.perform acts).target = r.target := by
  unfold perform
  induction acts generalizing r with
  | nil => rfl
  | cons act acts ih =>
      have same := target_after apart act
      rw [List.foldl_cons, ih (same ▸ apart), same]

/-- Whatever has been done with a request whose mixins set parameters, an operation that fails
leaves it as it is. A literal position with a value to pass on fills both slots or fails. -/
theorem failure_changes_nothing {e : Endpoint} (compiled : e.Compiled) (plain : e.SetsParams)
    (base : String) (past : List Act) :
    let r := (new e base).perform past
    (∀ (act : Act) err r', act.op.run r = .error err r' → r' = r) ∧
      ∀ name level component methods child value,
        e.capabilities.get? name = some (.path (.static level component methods (some child))) →
        (∃ err, (invoke name (some value)).run r = .error err r) ∨
          ∃ r', (invoke name (some value)).run r = .ok () r' ∧
            r.slots.get? level = none ∧ r'.slots.get? level = some component ∧
            r.slots.get? child.level = none ∧ r'.slots.get? child.level = some value := by
  intro r
  have target : r.target = e := target_perform compiled.apart past
  have apart : r.target.Apart := target ▸ compiled.apart
  constructor
  · intro act err r' h
    rcases run_act apart act with ⟨err', query, fails, kept⟩ | ⟨r'', succeeds, _⟩
    · rw [kept (target ▸ plain)] at fails
      cases h.symm.trans fails
      rfl
    · cases h.symm.trans succeeds
  · intro name level component methods child value offered
    rw [← target] at offered
    have runs := run_invoke_path (some value) offered
    have levels := apart _ _ offered (some value)
    rcases run_applySetter levels name with ⟨err, fails⟩ | ⟨fs, hfs, free, fills⟩
    · exact .inl ⟨err, runs.trans fails⟩
    · have different := levels fs hfs
      cases hfs
      let own : Fill := ⟨level, component, methods⟩
      let passed : Fill := ⟨child.level, value, child.methods⟩
      have first : own ∈ [own, passed] := List.mem_cons_self
      have second : passed ∈ [own, passed] := List.mem_cons_of_mem _ List.mem_cons_self
      exact .inr ⟨_, runs.trans fills,
        free own first, get?_slots_foldl_write_of_mem different first,
        free passed second, get?_slots_foldl_write_of_mem different second⟩

def revisionRoutes : RouteMap :=
  .ofList [("/wp/v2/posts/(?P<parent>)/revisions/(?P<id>)", ⟨"wp/v2", [.get, .delete], []⟩)]

/-- The slot for the revision has been filled by its level: `revisions` is not filled either. -/
theorem failure_changes_nothing_revisions :
    ∃ e, e.Compiled ∧ e.SetsParams ∧
      let r := (new e "").perform [.fill 3 "1"]
      r.slots.get? 2 = none ∧
        (invoke "revisions" (some "9")).run r = .error (.slotOccupied 3 "1") r := by
  have computed : ((Catalog.bootstrap {} .empty revisionRoutes).outcome.bind
      (·.resource "wp/v2" "posts")).toOption.any (fun e =>
        let r := (new e "").perform [.fill 3 "1"]
        r.slots.get? 2 = none && match (invoke "revisions" (some "9")).run r with
          | .ok .. => false
          | .error err _ => err = .slotOccupied 3 "1") = true := by
    decide +kernel
  obtain ⟨e, found, holds⟩ := exists_ok_of_any computed
  obtain ⟨catalog, made, listed⟩ := Catalog.exists_of_bind found
  have compiled : e.Compiled := .bootstrapped made listed
  have plain : e.SetsParams := Catalog.setsParams_of_bootstrap (fun _ _ none_there => by
    cases none_there) made listed
  obtain ⟨unchanged, _⟩ := failure_changes_nothing compiled plain "" [.fill 3 "1"]
  refine ⟨e, compiled, plain, ?_⟩
  simp only [Bool.and_eq_true, decide_eq_true_eq] at holds
  refine ⟨holds.1, ?_⟩
  cases runs : (invoke "revisions" (some "9")).run ((new e "").perform [.fill 3 "1"]) with
  | ok _ r' => simp [runs] at holds
  | error err r' =>
      rw [unchanged (.invoke "revisions" (some "9")) err r' runs]
      simpa [runs] using holds.2

end Request
end RestRoutes
