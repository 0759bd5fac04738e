import RestRoutes.Proofs.Request.Calls
import RestRoutes.Proofs.Request.Verdict

/-!
Paths that are complete. Slots that are filled from the top down are listed in that order
(`entries_foldl_write`), and a path is valid when each level up to the last slot has a position that
accepts what the slot holds (`validate_of_positions`).
-/
namespace RestRoutes

theorem Dict.insertEntry_of_above {κ α : Type} [Ord κ] {k : κ} (v : α) {es : List (κ × α)}
    (above : ∀ entry ∈ es, compare k entry.1 = .gt) : insertEntry k v es = es ++ [(k, v)] := by
  induction es with
  | nil => rfl
  | cons entry es ih =>
      obtain ⟨k', v'⟩ := entry
      have first := above (k', v') List.mem_cons_self
      simp only [insertEntry, first, List.cons_append]
      rw [ih fun e he => above e (List.mem_cons_of_mem _ he)]

namespace Request

variable {r : Request}

theorem entries_foldl_write {fs : List Fill} (ascending : fs.Pairwise (·.level < ·.level))
    (below : ∀ entry ∈ r.slots.entries, ∀ f ∈ fs, entry.1 < f.level) :
    (fs.foldl write r).slots.entries =
      r.slots.entries ++ fs.map fun f => (f.level, f.value) := by
  induction fs generalizing r with
  | nil => simp
  | cons f fs ih =>
      obtain ⟨first, rest⟩ := List.pairwise_cons.1 ascending
      have last : (r.write f).slots.entries = r.slots.entries ++ [(f.level, f.value)] :=
        Dict.insertEntry_of_above f.value fun entry he =>
          Nat.compare_eq_gt.2 (below entry he f List.mem_cons_self)
      have below' : ∀ entry ∈ (r.write f).slots.entries, ∀ g ∈ fs, entry.1 < g.level := by
        intro entry he g hg
        rw [last, List.mem_append, List.mem_singleton] at he
        rcases he with he | rfl
        · exact below entry he g (List.mem_cons_of_mem _ hg)
        · exact first g hg
      rw [List.foldl_cons, ih rest below', last]
      simp

theorem validate_of_accepted (h : ∀ level shapes, r.target.levels.get? level = some shapes →
    level ≤ r.slots.keys.getLast?.getD 0 → ∃ value, r.slots.get? level = some value ∧
      shapes.any (·.validator.accepts value) = true) : r.validate = .ok () := by
  have filled : ∀ level shapes, r.target.levels.get? level = some shapes →
      r.reaches level = true → ∃ value, r.slots.get? level = some value ∧
        shapes.any (·.validator.accepts value) = true := by
    intro level shapes listed reached
    obtain ⟨deepest, last, le⟩ := reaches_iff.1 reached
    exact h level shapes listed (by rwa [last])
  refine validate_eq_ok_iff.2 ⟨?_, fun level reached => ?_⟩
  · rintro level value shapes ⟨listed, held, refused⟩
    obtain ⟨_, same, accepted⟩ := filled level shapes listed (reaches_of_filled held)
    cases held.symm.trans same
    obtain ⟨shape, member, accepts⟩ := List.any_eq_true.1 accepted
    rw [refused shape member] at accepts
    cases accepts
  · obtain ⟨defined, reached⟩ := mem_levelsReached_iff.1 reached
    obtain ⟨shapes, listed⟩ := Option.isSome_iff_exists.1 defined
    obtain ⟨value, held, _⟩ := filled level shapes listed reached
    rw [held]
    rfl

theorem validate_of_positions {nodes : List Node} (flat : r.target.levels = .ofNodes nodes)
    (h : ∀ level ≤ r.slots.keys.getLast?.getD 0, ∃ n ∈ nodes, n.level = level ∧
      ∃ value, r.slots.get? level = some value ∧ n.validator.accepts value = true) :
    r.validate = .ok () := by
  refine validate_of_accepted fun level shapes listed reached => ?_
  obtain ⟨n, hn, rfl, value, held, accepted⟩ := h level reached
  obtain ⟨shapes', listed', member⟩ := Levels.exists_shapes hn
  rw [flat] at listed
  cases listed.symm.trans listed'
  exact ⟨value, held, List.any_eq_true.2 ⟨.ofNode n, member, accepted⟩⟩

theorem of_validate_eq_invalidSlot {value : String} {components : List String}
    (h : r.validate = .error (.invalidSlot value components)) :
    ∃ level shapes, r.slots.get? level = some value ∧ r.target.levels.get? level = some shapes ∧
      shapes.any (·.validator.accepts value) = false ∧ components = shapes.map (·.component) := by
  obtain ⟨level, shapes, ⟨listed, held, refused⟩, same, _⟩ := validate_eq_invalidSlot_iff.1 h
  exact ⟨level, shapes, held, listed, by simpa using refused, same⟩

theorem renderPath_of_valid (h : r.validate = .ok ()) : r.renderPath =
    .ok ("/".intercalate ((r.target.ns :: r.slots.values).filter (!·.isEmpty))) := by
  unfold renderPath
  rw [h]
  rfl

end Request
end RestRoutes
