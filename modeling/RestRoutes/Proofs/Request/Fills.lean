import RestRoutes.Request

/-!
What calling a capability does to a request. A setter stands for the slots it is going to fill
(`Setter.fills?`). It fills all of them when they are free (`run_applySetter_of_free`), and
otherwise fails and leaves the request alone (`run_applySetter_of_not_free`).
-/
namespace RestRoutes

/-- A slot to be filled, and the methods of the position that it is filled for. -/
structure Fill where
  level : Nat
  value : String
  methods : Option MethodSet

/-- The slots that a setter fills with a value. A dynamic position cannot do without one. -/
def Setter.fills? : Setter → Option String → Option (List Fill)
  | .dynamic level methods, value => value.map fun value => [⟨level, value, methods⟩]
  | .static level component methods (some child), some value =>
    some [⟨level, component, methods⟩, ⟨child.level, value, child.methods⟩]
  | .static level component methods _, _ => some [⟨level, component, methods⟩]

/-- Who fills a slot: a dynamic position or a literal one for itself, or a literal one that passes a
value on. -/
theorem Setter.of_mem_fills {setter : Setter} {value : Option String} {fs : List Fill} {f : Fill}
    (h : setter.fills? value = some fs) (hf : f ∈ fs) :
    (setter = .dynamic f.level f.methods ∧ value = some f.value) ∨
    (∃ promotion, setter = .static f.level f.value f.methods promotion) ∨
    ∃ level component methods, value = some f.value ∧
      setter = .static level component methods (some ⟨f.level, f.methods⟩) := by
  cases setter with
  | dynamic level methods =>
      obtain ⟨_, rfl, rfl⟩ := Option.map_eq_some_iff.1 h
      cases List.mem_singleton.1 hf
      exact .inl ⟨rfl, rfl⟩
  | static level component methods promotion =>
      have own : f = ⟨level, component, methods⟩ →
          ∃ p, static level component methods promotion = .static f.level f.value f.methods p := by
        rintro rfl
        exact ⟨promotion, rfl⟩
      cases promotion with
      | none =>
          cases value <;> cases h <;> exact .inr (.inl (own (List.mem_singleton.1 hf)))
      | some child =>
          cases value with
          | none =>
              cases h
              exact .inr (.inl (own (List.mem_singleton.1 hf)))
          | some value =>
              cases h
              rcases List.mem_cons.1 hf with first | second
              · exact .inr (.inl (own first))
              · cases List.mem_singleton.1 second
                exact .inr (.inr ⟨level, component, methods, rfl, rfl⟩)

namespace Request

variable {r : Request}

def Free (r : Request) (f : Fill) : Prop := r.slots.get? f.level = none

def write (r : Request) (f : Fill) : Request :=
  { r with slots := r.slots.insert f.level f.value, methods := f.methods.getD r.methods }

@[simp] theorem target_write (f : Fill) : (r.write f).target = r.target := rfl

@[simp] theorem target_foldl_write (fs : List Fill) : (fs.foldl write r).target = r.target := by
  induction fs generalizing r with
  | nil => rfl
  | cons f fs ih => rw [List.foldl_cons, ih, target_write]

theorem free_write {f g : Fill} (other : g.level ≠ f.level) : (r.write f).Free g ↔ r.Free g := by
  rw [Free, write, Dict.get?_insert_of_ne _ _ other]
  rfl

theorem get?_slots_foldl_write {fs : List Fill} {level : Nat} (h : ∀ f ∈ fs, f.level ≠ level) :
    (fs.foldl write r).slots.get? level = r.slots.get? level := by
  induction fs generalizing r with
  | nil => rfl
  | cons f fs ih =>
      rw [List.foldl_cons, ih fun g hg => h g (List.mem_cons_of_mem _ hg), write,
        Dict.get?_insert_of_ne _ _ (h f List.mem_cons_self).symm]

theorem get?_slots_foldl_write_of_mem {fs : List Fill} (apart : (fs.map (·.level)).Nodup)
    {f : Fill} (hf : f ∈ fs) : (fs.foldl write r).slots.get? f.level = some f.value := by
  induction fs generalizing r with
  | nil => cases hf
  | cons g fs ih =>
      obtain ⟨fresh, rest⟩ := List.nodup_cons.1 apart
      rcases List.mem_cons.1 hf with rfl | later
      · have others : ∀ g ∈ fs, g.level ≠ f.level := fun g hg same =>
          fresh (List.mem_map.2 ⟨g, hg, same⟩)
        rw [List.foldl_cons, get?_slots_foldl_write others, write, Dict.get?_insert_self]
      · exact ih rest later

theorem methods_foldl_write (fs : List Fill) :
    (fs.foldl write r).methods = (fs.filterMap (·.methods)).getLast?.getD r.methods := by
  induction fs generalizing r with
  | nil => rfl
  | cons f fs ih =>
      rw [List.foldl_cons, ih, write]
      cases hf : f.methods with
      | none => simp [hf]
      | some ms => simp [hf, List.getLast?_cons]

section Run

variable {α β : Type} {r' : Request}

theorem run_bind_of_ok {x : Op α} {a : α} (h : x.run r = .ok a r') (f : α → Op β) :
    (x >>= f).run r = (f a).run r' := by
  simp only [EStateM.run] at h
  simp [EStateM.run, bind, EStateM.bind, h]

theorem run_bind_of_error {x : Op α} {err : Error} (h : x.run r = .error err r') (f : α → Op β) :
    (x >>= f).run r = .error err r' := by
  simp only [EStateM.run] at h
  simp [EStateM.run, bind, EStateM.bind, h]

end Run

theorem run_deposit_of_free {f : Fill} (h : r.Free f) (next : Op Unit) :
    (do fill f.level f.value; narrow f.methods; next : Op Unit).run r = next.run (r.write f) := by
  rw [run_bind_of_ok (run_fill_of_free f.value h)]
  rfl

theorem run_deposit_of_taken {f : Fill} (h : ¬r.Free f) (next : Op Unit) :
    ∃ err, (do fill f.level f.value; narrow f.methods; next : Op Unit).run r = .error err r := by
  obtain ⟨existing, taken⟩ := Option.ne_none_iff_exists'.1 h
  exact ⟨_, run_bind_of_error (run_fill_of_taken f.value taken) _⟩

/-- What a setter does: it lacks its value, fills one slot, or fills two after a look at the second
of them. -/
theorem applySetter_cases (name : String) (value : Option String) (setter : Setter) :
    (setter.fills? value = none ∧ applySetter name value setter = throw (.missingValue name)) ∨
    (∃ f, setter.fills? value = some [f] ∧
      applySetter name value setter = do fill f.level f.value; narrow f.methods) ∨
    (∃ f g, setter.fills? value = some [f, g] ∧
      applySetter name value setter = do
        if let some existing := (← get).slots.get? g.level then
          throw (.slotOccupied g.level existing)
        fill f.level f.value
        narrow f.methods
        fill g.level g.value
        narrow g.methods) := by
  cases setter with
  | dynamic level methods =>
      cases value with
      | none => exact .inl ⟨rfl, rfl⟩
      | some value => exact .inr (.inl ⟨_, rfl, rfl⟩)
  | static level component methods promotion =>
      cases value with
      | none => cases promotion <;> exact .inr (.inl ⟨⟨level, component, methods⟩, rfl, rfl⟩)
      | some value =>
          cases promotion with
          | none => exact .inr (.inl ⟨⟨level, component, methods⟩, rfl, rfl⟩)
          | some child =>
              exact .inr (.inr
                ⟨⟨level, component, methods⟩, ⟨child.level, value, child.methods⟩, rfl, rfl⟩)

theorem run_guard_of_free {g : Fill} (h : r.Free g) (next : Op Unit) :
    (do
      if let some existing := (← get).slots.get? g.level then
        throw (.slotOccupied g.level existing)
      next : Op Unit).run r = next.run r := by
  rw [run_bind_of_ok (rfl : (get : Op Request).run r = .ok r r)]
  have empty : r.slots.get? g.level = none := h
  simp only [empty]

theorem run_guard_of_taken {g : Fill} (h : ¬r.Free g) (next : Op Unit) :
    ∃ err, (do
      if let some existing := (← get).slots.get? g.level then
        throw (.slotOccupied g.level existing)
      next : Op Unit).run r = .error err r := by
  obtain ⟨existing, taken⟩ := Option.ne_none_iff_exists'.1 h
  rw [run_bind_of_ok (rfl : (get : Op Request).run r = .ok r r)]
  simp only [taken]
  exact ⟨_, rfl⟩

theorem run_applySetter_of_free {setter : Setter} {value : Option String} {fs : List Fill}
    (h : setter.fills? value = some fs) (apart : (fs.map (·.level)).Nodup)
    (free : ∀ f ∈ fs, r.Free f) (name : String) :
    (applySetter name value setter).run r = .ok () (fs.foldl write r) := by
  rcases applySetter_cases name value setter with
    ⟨lacks, _⟩ | ⟨f, one, does⟩ | ⟨f, g, two, does⟩
  · cases h.symm.trans lacks
  · cases h.symm.trans one
    rw [does]
    exact run_deposit_of_free (free f List.mem_cons_self) (pure ())
  · cases h.symm.trans two
    have other : g.level ≠ f.level := by simpa [eq_comm] using apart
    have second : r.Free g := free g (by simp)
    rw [does, run_guard_of_free second, run_deposit_of_free (free f List.mem_cons_self)]
    exact run_deposit_of_free ((free_write other).2 second) (pure ())

theorem run_applySetter_of_not_free {setter : Setter} {value : Option String}
    (h : ∀ fs, setter.fills? value = some fs → ∃ f ∈ fs, ¬r.Free f) (name : String) :
    ∃ err, (applySetter name value setter).run r = .error err r := by
  rcases applySetter_cases name value setter with
    ⟨_, fails⟩ | ⟨f, one, does⟩ | ⟨f, g, two, does⟩
  · rw [fails]
    exact ⟨_, rfl⟩
  · obtain ⟨f', hf', taken⟩ := h _ one
    cases List.mem_singleton.1 hf'
    rw [does]
    exact run_deposit_of_taken taken (pure ())
  · by_cases second : r.Free g
    · obtain ⟨f', hf', taken⟩ := h _ two
      have first : ¬r.Free f := by
        rcases List.mem_cons.1 hf' with rfl | hf'
        · exact taken
        · cases List.mem_singleton.1 hf'
          exact absurd second taken
      rw [does, run_guard_of_free second]
      exact run_deposit_of_taken first _
    · rw [does]
      exact run_guard_of_taken second _

/-- A setter fails and does nothing, or fills all the slots that it is for. -/
theorem run_applySetter {setter : Setter} {value : Option String}
    (apart : ∀ fs, setter.fills? value = some fs → (fs.map (·.level)).Nodup) (name : String) :
    (∃ err, (applySetter name value setter).run r = .error err r) ∨
      ∃ fs, setter.fills? value = some fs ∧ (∀ f ∈ fs, r.Free f) ∧
        (applySetter name value setter).run r = .ok () (fs.foldl write r) := by
  by_cases able : ∃ fs, setter.fills? value = some fs ∧ ∀ f ∈ fs, r.Free f
  · obtain ⟨fs, hfs, free⟩ := able
    exact .inr ⟨fs, hfs, free, run_applySetter_of_free hfs (apart fs hfs) free name⟩
  · refine .inl (run_applySetter_of_not_free (fun fs hfs => ?_) name)
    have blocked : ¬∀ f ∈ fs, r.Free f := fun free => able ⟨fs, hfs, free⟩
    simpa using blocked

section Invoke

variable {name : String} (value : Option String)

theorem run_invoke_path {setter : Setter}
    (h : r.target.capabilities.get? name = some (.path setter)) :
    (invoke name value).run r = (applySetter name value setter).run r := by
  unfold invoke
  rw [run_bind_of_ok (rfl : (get : Op Request).run r = .ok r r)]
  simp only [h]

/-- Succeed or fail, an operation on the query changes nothing else. -/
theorem run_invoke_mixin {mixin : Mixin}
    (h : r.target.capabilities.get? name = some (.mixin mixin)) :
    let left := { r with query := mixin.apply r.query value }
    (invoke name value).run r = .ok () left ∨
      ∃ err, (mixin.op value).run r.query = .error err left.query ∧
        (invoke name value).run r = .error err left := by
  have runs : (invoke name value).run r = onQuery (mixin.op value) r := by
    unfold invoke
    rw [run_bind_of_ok (rfl : (get : Op Request).run r = .ok r r)]
    simp only [h]
    rfl
  rw [runs]
  unfold onQuery Mixin.apply
  cases (mixin.op value).run r.query with
  | ok _ query => exact .inl rfl
  | error err query => exact .inr ⟨err, rfl, rfl⟩

theorem run_invoke_unknown (h : r.target.capabilities.get? name = none) :
    (invoke name value).run r = .error (.unknownCapability r.target.resource name) r := by
  unfold invoke
  rw [run_bind_of_ok (rfl : (get : Op Request).run r = .ok r r)]
  simp only [h]
  rfl

end Invoke

end Request
end RestRoutes
