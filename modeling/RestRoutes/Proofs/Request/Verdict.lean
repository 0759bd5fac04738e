import Mathlib.Data.List.Basic
import RestRoutes.Proofs.Outcome
import RestRoutes.Request

/-!
What checking a path says. Only the levels that the resource has and that the path reaches count. A
value that its level refuses is reported before any gap, and of several the one at the lowest level;
gaps are reported all at once (`validate_verdict`).
-/
namespace RestRoutes

theorem mapM_verdict {α β : Type} {f : α → Except Error β} {g : α → β} {reason? : α → Option Error}
    (step : ∀ x, f x = Build.verdict (reason? x) (g x)) (xs : List α) :
    xs.mapM f = Build.verdict (xs.findSome? reason?) (xs.map g) := by
  induction xs with
  | nil => rfl
  | cons x xs ih =>
      rw [List.mapM_cons, step, ih, List.findSome?_cons]
      cases reason? x <;> cases xs.findSome? reason? <;> rfl

namespace Request

variable {r : Request}

def levelsReached (r : Request) : List Nat := r.target.levels.keys.filter r.reaches

/-- The value in the slot of a level is accepted by none of the shapes there. -/
def Refuses (r : Request) (level : Nat) (value : String) (shapes : List Shape) : Prop :=
  r.target.levels.get? level = some shapes ∧ r.slots.get? level = some value ∧
    ∀ shape ∈ shapes, shape.validator.accepts value = false

/-- The path as far as it goes, with its gaps marked. -/
def sketch (r : Request) : String :=
  "/".intercalate (r.levelsReached.map fun level => (r.slots.get? level).getD " ??? ")

def shapesReached (r : Request) : List (Nat × List Shape) :=
  r.target.levels.entries.filter (r.reaches ·.1)

theorem map_fst_shapesReached (r : Request) : r.shapesReached.map (·.1) = r.levelsReached := by
  rw [levelsReached, Dict.keys, List.filter_map]
  rfl

theorem reaches_of_filled {level : Nat} {value : String} (held : r.slots.get? level = some value) :
    r.reaches level = true := by
  have key : level ∈ r.slots.keys :=
    List.mem_map.2 ⟨(level, value), Dict.get?_eq_some_iff.1 held, rfl⟩
  exact List.any_eq_true.2 ⟨level, key, by simp⟩

theorem reaches_iff {level : Nat} : r.reaches level = true ↔
    ∃ deepest, r.slots.keys.getLast? = some deepest ∧ level ≤ deepest := by
  have sorted : r.slots.keys.Pairwise (· < ·) :=
    List.pairwise_map.2 (r.slots.ascending.imp Nat.compare_eq_lt.1)
  rw [reaches]
  rcases List.eq_nil_or_concat r.slots.keys with none_filled | ⟨before, deepest, split⟩
  · simp [none_filled]
  · rw [List.concat_eq_append] at split
    rw [split] at sorted ⊢
    have above : ∀ slot ∈ before, slot < deepest := fun slot filled =>
      (List.pairwise_append.1 sorted).2.2 slot filled deepest (List.mem_singleton_self _)
    simp only [List.any_append, List.any_cons, List.any_nil, Bool.or_false, Bool.or_eq_true,
      List.any_eq_true, decide_eq_true_eq, List.getLast?_concat, Option.some.injEq,
      exists_eq_left']
    refine or_iff_right_of_imp fun ⟨slot, filled, le⟩ => ?_
    exact Nat.le_trans le (Nat.le_of_lt (above slot filled))

theorem mem_shapesReached_iff {entry : Nat × List Shape} : entry ∈ r.shapesReached ↔
    r.target.levels.get? entry.1 = some entry.2 ∧ r.reaches entry.1 = true := by
  rw [shapesReached, List.mem_filter, Dict.get?_eq_some_iff]

theorem mem_shapesReached_of_refuses {level : Nat} {value : String} {shapes : List Shape}
    (h : r.Refuses level value shapes) : (level, shapes) ∈ r.shapesReached :=
  mem_shapesReached_iff.2 ⟨h.1, reaches_of_filled h.2.1⟩

theorem mem_levelsReached_iff {level : Nat} : level ∈ r.levelsReached ↔
    r.target.levels.contains level = true ∧ r.reaches level = true := by
  rw [← map_fst_shapesReached, Dict.contains, Option.isSome_iff_exists]
  simp [mem_shapesReached_iff]

def refusal? (r : Request) (entry : Nat × List Shape) : Option Error :=
  match r.slots.get? entry.1 with
  | none => none
  | some value =>
    if entry.2.any (·.validator.accepts value) then none
    else some (.invalidSlot value (entry.2.map (·.component)))

theorem refusal?_eq_some_iff {level : Nat} {shapes : List Shape} {err : Error}
    (listed : r.target.levels.get? level = some shapes) :
    r.refusal? (level, shapes) = some err ↔ ∃ value, r.Refuses level value shapes ∧
      err = .invalidSlot value (shapes.map (·.component)) := by
  unfold refusal? Refuses
  cases r.slots.get? level with
  | none => simp
  | some value =>
      by_cases accepted : shapes.any (·.validator.accepts value) = true
      · simp only [accepted, if_true, reduceCtorEq, false_iff, Option.some.injEq]
        rintro ⟨_, ⟨_, rfl, refused⟩, _⟩
        obtain ⟨shape, member, accepts⟩ := List.any_eq_true.1 accepted
        rw [refused shape member] at accepts
        cases accepts
      · have refused : ∀ shape ∈ shapes, shape.validator.accepts value = false := by
          simpa using accepted
        simp only [accepted, Bool.false_eq_true, if_false, Option.some.injEq]
        constructor
        · rintro rfl
          exact ⟨value, ⟨listed, rfl, refused⟩, rfl⟩
        · rintro ⟨_, ⟨_, rfl, _⟩, same⟩
          exact same.symm

def gap? (r : Request) : Option Error :=
  if r.levelsReached.all r.slots.contains then none else some (.incompletePath r.sketch)

theorem slotValues_eq (r : Request) : r.slotValues =
    Build.verdict (r.shapesReached.findSome? r.refusal?) (r.levelsReached.map r.slots.get?) := by
  rw [← map_fst_shapesReached, List.map_map]
  refine mapM_verdict (fun entry => ?_) r.shapesReached
  simp only [refusal?, Function.comp_apply]
  cases r.slots.get? entry.1 with
  | none => rfl
  | some value =>
      simp only
      split <;> rfl

/-- A value that is refused is reported before what is missing. -/
theorem validate_eq (r : Request) :
    r.validate = Build.verdict ((r.shapesReached.findSome? r.refusal?).or r.gap?) () := by
  have complete : (r.levelsReached.map r.slots.get?).all (·.isSome) =
      r.levelsReached.all r.slots.contains := List.all_map
  have drawn : (r.levelsReached.map r.slots.get?).map (·.getD " ??? ") =
      r.levelsReached.map fun level => (r.slots.get? level).getD " ??? " := List.map_map
  rw [validate, slotValues_eq]
  cases r.shapesReached.findSome? r.refusal? with
  | some err => rfl
  | none =>
      rw [Option.none_or, gap?, sketch, ← complete, ← drawn, Build.verdict_none]
      simp only [bind, Except.bind]
      split <;> rfl

theorem findSome?_refusal?_eq_some_iff {err : Error} :
    r.shapesReached.findSome? r.refusal? = some err ↔
      ∃ level value shapes, r.Refuses level value shapes ∧
        err = .invalidSlot value (shapes.map (·.component)) ∧
        ∀ lower < level, ∀ value shapes, ¬r.Refuses lower value shapes := by
  have sorted : r.shapesReached.Pairwise fun a b => a.1 < b.1 :=
    (r.target.levels.ascending.imp Nat.compare_eq_lt.1).sublist List.filter_sublist
  constructor
  · intro found
    obtain ⟨before, ⟨level, shapes⟩, behind, split, reports, silent⟩ :=
      List.findSome?_eq_some_iff.1 found
    have here : (level, shapes) ∈ r.shapesReached := by simp [split]
    obtain ⟨value, refuses, same⟩ :=
      (refusal?_eq_some_iff (mem_shapesReached_iff.1 here).1).1 reports
    refine ⟨level, value, shapes, refuses, same, fun lower below value' shapes' refuses' => ?_⟩
    have there := mem_shapesReached_of_refuses refuses'
    rw [split] at there sorted
    rcases List.mem_append.1 there with earlier | later
    · have reports' := (refusal?_eq_some_iff refuses'.1).2 ⟨value', refuses', rfl⟩
      rw [silent _ earlier] at reports'
      cases reports'
    · rcases List.mem_cons.1 later with same' | later
      · cases same'
        exact Nat.lt_irrefl _ below
      · have above := (List.pairwise_cons.1 (List.pairwise_append.1 sorted).2.1).1 _ later
        exact Nat.lt_asymm below above
  · rintro ⟨level, value, shapes, refuses, rfl, lowest⟩
    obtain ⟨before, behind, split⟩ := List.append_of_mem (mem_shapesReached_of_refuses refuses)
    have reports := (refusal?_eq_some_iff refuses.1).2 ⟨value, refuses, rfl⟩
    refine List.findSome?_eq_some_iff.2
      ⟨before, (level, shapes), behind, split, reports, fun ⟨lower, shapes'⟩ earlier => ?_⟩
    rw [split] at sorted
    have below : lower < level :=
      (List.pairwise_append.1 sorted).2.2 _ earlier _ List.mem_cons_self
    have listed : r.target.levels.get? lower = some shapes' := by
      have here : (lower, shapes') ∈ r.shapesReached := by simp [split, earlier]
      exact (mem_shapesReached_iff.1 here).1
    rw [Option.eq_none_iff_forall_ne_some]
    intro err reports'
    obtain ⟨value', refuses', _⟩ := (refusal?_eq_some_iff listed).1 reports'
    exact lowest lower below value' shapes' refuses'

theorem findSome?_refusal?_eq_none_iff : r.shapesReached.findSome? r.refusal? = none ↔
    ∀ level value shapes, ¬r.Refuses level value shapes := by
  rw [List.findSome?_eq_none_iff]
  constructor
  · intro silent level value shapes refuses
    have reports := (refusal?_eq_some_iff refuses.1).2 ⟨value, refuses, rfl⟩
    rw [silent _ (mem_shapesReached_of_refuses refuses)] at reports
    cases reports
  · rintro accepted ⟨level, shapes⟩ here
    rw [Option.eq_none_iff_forall_ne_some]
    intro err reports
    obtain ⟨value, refuses, _⟩ :=
      (refusal?_eq_some_iff (mem_shapesReached_iff.1 here).1).1 reports
    exact accepted level value shapes refuses

theorem gap?_eq_none_iff : r.gap? = none ↔
    ∀ level ∈ r.levelsReached, (r.slots.get? level).isSome = true := by
  rw [gap?]
  split
  · next full => simpa [Dict.contains] using full
  · next lacks => simpa [Dict.contains] using lacks

theorem gap?_eq_some_iff {err : Error} : r.gap? = some err ↔
    (∃ level ∈ r.levelsReached, r.slots.get? level = none) ∧ err = .incompletePath r.sketch := by
  rw [gap?]
  split
  · next full =>
      simp only [reduceCtorEq, false_iff]
      rintro ⟨⟨level, reached, free⟩, _⟩
      have filled := List.all_eq_true.1 full level reached
      rw [Dict.contains, free] at filled
      cases filled
  · next lacks =>
      have free : ∃ level ∈ r.levelsReached, r.slots.get? level = none := by
        simpa [Dict.contains] using lacks
      rw [and_iff_right free, Option.some.injEq, eq_comm]

theorem validate_eq_invalidSlot_iff {value : String} {components : List String} :
    r.validate = .error (.invalidSlot value components) ↔
      ∃ level shapes, r.Refuses level value shapes ∧ components = shapes.map (·.component) ∧
        ∀ lower < level, ∀ value shapes, ¬r.Refuses lower value shapes := by
  rw [validate_eq, Build.verdict_eq_error_iff, Option.or_eq_some_iff,
    findSome?_refusal?_eq_some_iff, gap?_eq_some_iff]
  constructor
  · rintro (⟨level, _, shapes, refuses, same, lowest⟩ | ⟨_, _, same⟩)
    · cases same
      exact ⟨level, shapes, refuses, rfl, lowest⟩
    · cases same
  · rintro ⟨level, shapes, refuses, rfl, lowest⟩
    exact .inl ⟨level, value, shapes, refuses, rfl, lowest⟩

theorem validate_eq_ok_iff : r.validate = .ok () ↔
    (∀ level value shapes, ¬r.Refuses level value shapes) ∧
      ∀ level ∈ r.levelsReached, (r.slots.get? level).isSome = true := by
  rw [validate_eq, Build.verdict_eq_ok_iff, Option.or_eq_none_iff, findSome?_refusal?_eq_none_iff,
    gap?_eq_none_iff]
  exact and_iff_left rfl

end Request
end RestRoutes
