import RestRoutes.Text.Case

/-!
What case conversion leaves alone. The runs of a mapping ascend, and so do the ranges of a set, so
one walk along both shows that they have nothing in common (`CodeMap.image?_of_contains`), and then
the mapping changes no member of the set (`CaseMap.lookup_of_spares`). Lower-casing changes nothing
that it has made (`CaseMap.small_of_mem_lower`), and a text is in lower case if and only if each of
its characters is (`lowerFrom_eq_self_iff`).
-/
namespace RestRoutes

namespace CodeRun

theorem image?_eq_some_iff {r : CodeRun} {c d : Nat} :
    r.image? c = some d ↔ (r.first ≤ c ∧ c ≤ r.last ∧ (c - r.first) % r.step = 0) ∧
      r.target + (c - r.first) = d := by
  simp [image?]

theorem preimage?_of_image? {r : CodeRun} {c d : Nat} (h : r.image? c = some d) :
    r.preimage? d = some c := by
  obtain ⟨⟨low, high, aligned⟩, rfl⟩ := image?_eq_some_iff.1 h
  have back : r.target + (c - r.first) - r.target = c - r.first := by omega
  have inside : r.target ≤ r.target + (c - r.first) ∧ c - r.first ≤ r.last - r.first ∧
      (c - r.first) % r.step = 0 := ⟨by omega, by omega, aligned⟩
  rw [preimage?, back, if_pos inside]
  congr 1
  omega

/-- `r'` changes nothing that `r` leads to: the two lie apart, or their code points alternate. -/
def clears (r r' : CodeRun) : Bool :=
  r.target + (r.last - r.first) < r'.first || r'.last < r.target ||
    (r'.step == 2 && (r.first == r.last || r.step == 2) && (r.target + r'.first) % 2 == 1)

theorem image?_of_clears {r r' : CodeRun} {c d : Nat} (h : r.clears r' = true)
    (hd : r.image? c = some d) : r'.image? d = none := by
  obtain ⟨⟨low, high, aligned⟩, rfl⟩ := image?_eq_some_iff.1 hd
  rw [image?, if_neg]
  rintro ⟨low', high', aligned'⟩
  -- Where the runs overlap, the image and the code points of `r'` differ in parity.
  simp only [clears, Bool.or_eq_true, Bool.and_eq_true, decide_eq_true_eq, beq_iff_eq] at h
  rcases h with (above | below) | ⟨⟨two', single | two⟩, odd⟩
  · omega
  · omega
  · rw [two'] at aligned'
    omega
  · rw [two] at aligned
    rw [two'] at aligned'
    omega

end CodeRun

namespace CodeMap

theorem image?_ne_of_preimage {m : CodeMap} {c d : Nat} (h : m.preimage d = []) :
    m.image? c ≠ some d := by
  intro image
  obtain ⟨r, hr, image⟩ := List.exists_of_findSome?_eq_some image
  have listed : c ∈ m.preimage d := List.mem_filterMap.2 ⟨r, hr, r.preimage?_of_image? image⟩
  rw [h] at listed
  cases listed

theorem image?_of_clears {m : CodeMap} {c d : Nat}
    (h : (m.all fun r => m.all fun r' => r.clears r') = true) (hd : m.image? c = some d) :
    m.image? d = none := by
  obtain ⟨r, hr, image⟩ := List.exists_of_findSome?_eq_some hd
  exact List.findSome?_eq_none_iff.2 fun r' hr' =>
    CodeRun.image?_of_clears (List.all_eq_true.1 (List.all_eq_true.1 h r hr) r' hr') image

/-- No run meets a range. Both are passed in order, and the runs start at `low` or later. -/
def avoids (low : Nat) : CodeMap → List (Nat × Nat) → Bool
  | [], _ => true
  | r :: rs, ranges =>
    let rest := ranges.dropWhile (·.2 < r.first)
    low ≤ r.first && rest.head?.all (r.last < ·.1) && avoids r.first rs rest

theorem le_first_of_avoids {low : Nat} {m : CodeMap} {ranges : List (Nat × Nat)}
    (h : avoids low m ranges = true) {r : CodeRun} (hr : r ∈ m) : low ≤ r.first := by
  induction m generalizing low ranges with
  | nil => cases hr
  | cons r' rs ih =>
      simp only [avoids, Bool.and_eq_true, decide_eq_true_eq] at h
      obtain ⟨⟨ascending, _⟩, later⟩ := h
      rcases List.mem_cons.1 hr with rfl | hr
      · exact ascending
      · exact Nat.le_trans ascending (ih later hr)

theorem memRanges_dropWhile {first c : Nat} {ranges : List (Nat × Nat)} (hc : first ≤ c)
    (h : CodeSet.memRanges c ranges = true) :
    CodeSet.memRanges c (ranges.dropWhile (·.2 < first)) = true := by
  induction ranges with
  | nil => exact h
  | cons range rest ih =>
      obtain ⟨lo, hi⟩ := range
      rw [List.dropWhile_cons]
      split
      · next below =>
          have below : hi < first := by simpa using below
          unfold CodeSet.memRanges at h
          split at h
          · cases h
          · rw [if_neg (by omega)] at h
            exact ih h
      · exact h

theorem not_memRanges_of_avoids {low c : Nat} {m : CodeMap} {ranges : List (Nat × Nat)}
    (h : avoids low m ranges = true) {r : CodeRun} (hr : r ∈ m) (above : r.first ≤ c)
    (below : c ≤ r.last) : CodeSet.memRanges c ranges = false := by
  induction m generalizing low ranges with
  | nil => cases hr
  | cons r' rs ih =>
      simp only [avoids, Bool.and_eq_true] at h
      obtain ⟨⟨_, ahead⟩, later⟩ := h
      rw [Bool.eq_false_iff]
      intro member
      rcases List.mem_cons.1 hr with rfl | hr
      · have member := memRanges_dropWhile above member
        cases rest : ranges.dropWhile (·.2 < r.first) with
        | nil =>
            rw [rest] at member
            cases member
        -- The first range that is left lies behind the run.
        | cons range _ =>
            have beyond : r.last < range.1 := by simpa [rest] using ahead
            rw [rest, CodeSet.memRanges, if_pos (by omega)] at member
            cases member
      · have start := le_first_of_avoids later hr
        have member := memRanges_dropWhile (Nat.le_trans start above) member
        rw [ih later hr] at member
        cases member

theorem image?_of_contains {m : CodeMap} {s : CodeSet} {c : Nat}
    (h : avoids 0 m s.ranges = true) (hc : s.contains c = true) : m.image? c = none := by
  refine List.findSome?_eq_none_iff.2 fun r hr => ?_
  rw [CodeRun.image?, if_neg]
  rintro ⟨above, below, _⟩
  rw [CodeSet.contains, not_memRanges_of_avoids h hr above below] at hc
  cases hc

theorem image?_filter {m : CodeMap} {keep : CodeRun → Bool} {c : Nat}
    (h : ∀ r, keep r = false → r.image? c = none) : image? (m.filter keep) c = m.image? c := by
  induction m with
  | nil => rfl
  | cons r rs ih =>
      unfold image? at ih ⊢
      cases kept : keep r with
      | true => rw [List.filter_cons_of_pos kept, List.findSome?_cons, List.findSome?_cons, ih]
      | false =>
          have left_out : ¬keep r = true := by simp [kept]
          rw [List.filter_cons_of_neg left_out, List.findSome?_cons, h r kept, ih]

end CodeMap

namespace CaseMap

variable {sequences : List (Nat × List Nat)} {runs : CodeMap} {c d : Char}

def spares (sequences : List (Nat × List Nat)) (runs : CodeMap) (s : CodeSet) : Bool :=
  sequences.all (fun e => !s.contains e.1) && runs.avoids 0 s.ranges

theorem lookup_of_unlisted (h : ∀ e ∈ sequences, e.1 ≠ c.toNat)
    (h' : runs.image? c.toNat = none) : lookup sequences runs c = [c] := by
  have unlisted : sequences.lookup c.toNat = none :=
    List.lookup_eq_none_iff.2 fun e he => by simpa using (h e he).symm
  simp [lookup, unlisted, h']

theorem lookup_of_spares {s : CodeSet} (h : spares sequences runs s = true)
    (hc : s.contains c.toNat = true) : lookup sequences runs c = [c] := by
  simp only [spares, Bool.and_eq_true, List.all_eq_true, Bool.not_eq_true'] at h
  refine lookup_of_unlisted (fun e he same => ?_) (CodeMap.image?_of_contains h.2 hc)
  have absent := h.1 e he
  rw [same, hc] at absent
  cases absent

theorem lookup_filter {keep : CodeRun → Bool} (h : ∀ r, keep r = false → r.image? c.toNat = none) :
    lookup sequences (runs.filter keep) c = lookup sequences runs c := by
  rw [lookup, lookup, CodeMap.image?_filter h]

theorem mem_lookup_cases (h : d ∈ lookup sequences runs c) :
    lookup sequences runs c = [c] ∧ d = c ∨ ∃ n, d = Char.ofNat n ∧
      ((∃ e ∈ sequences, n ∈ e.2) ∨ runs.image? c.toNat = some n) := by
  unfold lookup at h ⊢
  split at h
  · next codes found =>
      obtain ⟨before, after, rfl, _⟩ := List.lookup_eq_some_iff.1 found
      obtain ⟨n, hn, rfl⟩ := List.mem_map.1 h
      exact .inr ⟨n, rfl, .inl ⟨_, List.mem_append_right _ List.mem_cons_self, hn⟩⟩
  · cases image : runs.image? c.toNat with
    | none =>
        simp only [image, List.mem_singleton] at h
        exact .inl ⟨rfl, h⟩
    | some n =>
        simp only [image, List.mem_singleton] at h
        exact .inr ⟨n, h, .inr rfl⟩

/-- A number that no character has gives the first character. -/
theorem toNat_ofNat_cases (n : Nat) : (Char.ofNat n).toNat = n ∨ (Char.ofNat n).toNat = 0 := by
  by_cases valid : n.isValidChar
  · have char : Char.ofNat n = Char.ofNatAux n valid := dif_pos valid
    exact .inl (char ▸ rfl)
  · have char : Char.ofNat n = Char.ofNat 0 := dif_neg valid
    exact .inr (char ▸ rfl)

theorem eq_of_mem_lookup (positive : 0 < d.toNat) (unlisted : ∀ e ∈ sequences, d.toNat ∉ e.2)
    (unreached : runs.preimage d.toNat = []) (h : d ∈ lookup sequences runs c) : d = c := by
  rcases mem_lookup_cases h with ⟨_, same⟩ | ⟨n, rfl, given⟩
  · exact same
  · have number := (toNat_ofNat_cases n).resolve_right (by omega)
    rw [number] at unlisted unreached
    rcases given with ⟨e, he, hn⟩ | image
    · exact absurd hn (unlisted e he)
    · exact absurd image (CodeMap.image?_ne_of_preimage unreached)

def Small (c : Char) : Prop := lower c = [c]

instance (c : Char) : Decidable (Small c) := inferInstanceAs (Decidable (lower c = [c]))

theorem small_of_image? (h : c.toNat ≠ 0x130) (h' : lowerRuns.image? c.toNat = none) :
    Small c := by
  refine lookup_of_unlisted ?_ h'
  simpa [lowerSequences] using h.symm

theorem small_of_mem_lower (h : d ∈ lower c) : Small d := by
  have clear : (lowerRuns.all fun r => lowerRuns.all fun r' => r.clears r') = true := by
    decide +kernel
  have unreached : lowerRuns.preimage 0x130 = [] := by decide +kernel
  have listed : ∀ e ∈ lowerSequences, ∀ n ∈ e.2, Small (Char.ofNat n) := by decide +kernel
  have first : Small (Char.ofNat 0) := by decide +kernel
  rcases mem_lookup_cases h with ⟨fixed, rfl⟩ | ⟨n, rfl, ⟨e, he, hn⟩ | image⟩
  · exact fixed
  · exact listed e he n hn
  · rcases toNat_ofNat_cases n with number | zero
    · refine small_of_image? ?_ ?_
      · rintro same
        rw [← number, same] at image
        exact CodeMap.image?_ne_of_preimage unreached image
      · rw [number]
        exact CodeMap.image?_of_clears clear image
    · rw [← Char.ofNat_toNat (Char.ofNat n), zero]
      exact first

end CaseMap

open CaseMap (Small)

def lowerPiece (before : List Char) (c : Char) (after : List Char) : List Char :=
  if c = 'Σ' then [lowerSigma before after] else CaseMap.lower c

theorem lowerFrom_cons (before : List Char) (c : Char) (cs : List Char) :
    lowerFrom before (c :: cs) = lowerPiece before c cs ++ lowerFrom (c :: before) cs := rfl

theorem lowerSigma_cases (before after : List Char) :
    lowerSigma before after = 'ς' ∨ lowerSigma before after = 'σ' := by
  unfold lowerSigma
  split
  · exact .inl rfl
  · exact .inr rfl

theorem small_of_mem_lowerPiece {before after : List Char} {c d : Char}
    (h : d ∈ lowerPiece before c after) : Small d := by
  unfold lowerPiece at h
  split at h
  · obtain rfl := List.mem_singleton.1 h
    rcases lowerSigma_cases before after with small | small <;> rw [small] <;> decide +kernel
  · exact CaseMap.small_of_mem_lower h

theorem lowerPiece_of_small {before after : List Char} {c : Char} (h : Small c) :
    lowerPiece before c after = [c] := by
  rw [lowerPiece, if_neg]
  · exact h
  · rintro rfl
    exact absurd h (by decide +kernel)

theorem small_of_mem_lowerFrom {before cs : List Char} {d : Char} (h : d ∈ lowerFrom before cs) :
    Small d := by
  induction cs generalizing before with
  | nil => cases h
  | cons c cs ih =>
      rw [lowerFrom_cons] at h
      rcases List.mem_append.1 h with h | h
      · exact small_of_mem_lowerPiece h
      · exact ih h

theorem lowerFrom_of_small {before cs : List Char} (h : ∀ c ∈ cs, Small c) :
    lowerFrom before cs = cs := by
  induction cs generalizing before with
  | nil => rfl
  | cons c cs ih =>
      obtain ⟨here, later⟩ := List.forall_mem_cons.1 h
      rw [lowerFrom_cons, lowerPiece_of_small here, ih later, List.singleton_append]

theorem lowerFrom_eq_self_iff {before cs : List Char} :
    lowerFrom before cs = cs ↔ ∀ c ∈ cs, Small c := by
  constructor
  · intro same c hc
    rw [← same] at hc
    exact small_of_mem_lowerFrom hc
  · exact lowerFrom_of_small

theorem toLower_eq_self_iff {s : String} : toLower s = s ↔ ∀ c ∈ s.toList, Small c := by
  rw [toLower, ← String.toList_inj, String.toList_ofList]
  exact lowerFrom_eq_self_iff

end RestRoutes
