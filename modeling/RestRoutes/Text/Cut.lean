/-!
Cutting texts at the first occurrence of another text. A cut loses nothing (`append_of_cutAt?`).
-/
namespace RestRoutes

/-- The text before and after the first occurrence of a separator. -/
def cutAt? (separator : List Char) : List Char → Option (List Char × List Char)
  | [] => none
  | c :: cs =>
    if separator.isPrefixOf (c :: cs) then some ([], (c :: cs).drop separator.length)
    else (cutAt? separator cs).map fun (before, after) => (c :: before, after)

theorem append_of_cutAt? {separator cs before after : List Char}
    (h : cutAt? separator cs = some (before, after)) : cs = before ++ separator ++ after := by
  induction cs generalizing before with
  | nil => cases h
  | cons c cs ih =>
      unfold cutAt? at h
      split at h
      · next hp =>
          cases h
          simpa using (List.prefix_iff_eq_append.1 (List.isPrefixOf_iff_prefix.1 hp)).symm
      · obtain ⟨⟨before', after'⟩, hc, same⟩ := Option.map_eq_some_iff.1 h
        cases same
        rw [ih hc]
        simp

theorem cutAt?_of_not_mem {c : Char} {before : List Char} (h : c ∉ before) (after : List Char) :
    cutAt? [c] (before ++ c :: after) = some (before, after) := by
  induction before with
  | nil => simp [cutAt?]
  | cons b before ih =>
      obtain ⟨other, rest⟩ := List.ne_and_not_mem_of_not_mem_cons h
      simp [cutAt?, other, ih rest]

theorem cutAt?_eq_none_iff {c : Char} {cs : List Char} : cutAt? [c] cs = none ↔ c ∉ cs := by
  induction cs with
  | nil => simp [cutAt?]
  | cons b cs ih =>
      by_cases here : c = b
      · simp [cutAt?, here]
      · simp [cutAt?, here, ih]

/-- The text without an ending, if it has that ending. -/
def dropEnding (ending cs : List Char) : List Char :=
  if ending.isSuffixOf cs then cs.take (cs.length - ending.length) else cs

theorem dropEnding_append (ending cs : List Char) : dropEnding ending (cs ++ ending) = cs := by
  simp [dropEnding]

theorem dropEnding_of_not_mem {ending cs : List Char} {c : Char} (hc : c ∈ ending) (h : c ∉ cs) :
    dropEnding ending cs = cs := by
  unfold dropEnding
  split
  · next ends => exact absurd ((List.isSuffixOf_iff_suffix.1 ends).subset hc) h
  · rfl

end RestRoutes
