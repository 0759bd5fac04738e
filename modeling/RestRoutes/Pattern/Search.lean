import RestRoutes.Pattern.Regex

/-!
Searching a text. Repetitions of repetitions are collapsed before, where one of the two has nothing
to add, so that nesting them does not multiply the work; what matches stays the same
(`Regex.spans_collapsed`).
-/
namespace RestRoutes.Pattern.Regex

/-- Whether everything that matches is empty. -/
def takesNothing : Regex → Bool
  | .empty | .look _ => true
  | .set _ => false
  | .seq a b | .alt a b => a.takesNothing && b.takesNothing
  | .rep r _ max _ => max == some 0 || r.takesNothing
  | .group _ r => r.takesNothing

/-- A repetition, or its body where that matches the same already. -/
def repeated (r : Regex) (min : Nat) (max : Option Nat) (greedy : Bool) : Regex :=
  if max.any fun m => m < min || m == 0 then .rep r min max greedy
  else match r with
    | .rep s 0 none g => .rep s 0 none g
    | .rep s 1 none g => if min ≤ 1 then .rep s min none g else .rep r min max greedy
    | r => if r.takesNothing && min != 0 then r else .rep r min max greedy

def collapsed : Regex → Regex
  | .seq a b => .seq a.collapsed b.collapsed
  | .alt a b => .alt a.collapsed b.collapsed
  | .rep r min max greedy => r.collapsed.repeated min max greedy
  | .group _ r => r.collapsed
  | r => r

theorem times_of_subset {R S : Nat → Nat → Prop} (h : ∀ i j, R i j → S i j) {n i j : Nat}
    (ht : Times R n i j) : Times S n i j := by
  induction n generalizing i with
  | zero => exact ht
  | succ n ih =>
      obtain ⟨k, hik, hk⟩ := ht
      exact ⟨k, h i k hik, ih hk⟩

theorem times_congr {R S : Nat → Nat → Prop} (h : ∀ i j, R i j ↔ S i j) (n i j : Nat) :
    Times R n i j ↔ Times S n i j :=
  ⟨times_of_subset fun i j => (h i j).1, times_of_subset fun i j => (h i j).2⟩

theorem eq_of_times {R : Nat → Nat → Prop} (h : ∀ i j, R i j → i = j) {n i j : Nat}
    (ht : Times R n i j) : i = j := by
  induction n generalizing i with
  | zero => exact ht
  | succ n ih =>
      obtain ⟨k, hik, hk⟩ := ht
      cases h i k hik
      exact ih hk

theorem eq_of_takesNothing {t : Array Char} {r : Regex} (h : r.takesNothing = true) {i j : Nat}
    (hs : Spans t r i j) : i = j := by
  induction r generalizing i j with
  | empty => exact hs
  | set s => cases h
  | look l => exact hs.2
  | seq a b iha ihb =>
      obtain ⟨ha, hb⟩ := Bool.and_eq_true_iff.1 h
      obtain ⟨k, hik, hkj⟩ := hs
      exact (iha ha hik).trans (ihb hb hkj)
  | alt a b iha ihb =>
      obtain ⟨ha, hb⟩ := Bool.and_eq_true_iff.1 h
      exact hs.elim (iha ha) (ihb hb)
  | rep r min max _ ih =>
      obtain ⟨n, -, hmax, ht⟩ := hs
      rcases Bool.or_eq_true_iff.1 h with h | h
      · cases Nat.le_zero.1 (hmax 0 (by simpa using h))
        exact ht
      · exact eq_of_times (fun i j => ih h) ht
  | group _ r ih => exact ih h hs

/-- A relation that goes nowhere may be applied any number of times. -/
theorem times_idle {R : Nat → Nat → Prop} (h : ∀ i j, R i j → i = j) (n i j : Nat) :
    Times R (n + 1) i j ↔ R i j := by
  induction n generalizing i with
  | zero => exact ⟨fun ⟨k, hik, hkj⟩ => hkj ▸ hik, fun hij => ⟨j, hij, rfl⟩⟩
  | succ n ih =>
      constructor
      · rintro ⟨k, hik, hk⟩
        cases h _ k hik
        exact (ih _).1 hk
      · intro hij
        cases h _ j hij
        exact ⟨_, hij, (ih _).2 hij⟩

/-- What steps of an unbounded repetition reach, the repetition reaches in one. -/
theorem times_of_times_rep {t : Array Char} {s : Regex} {least n i j : Nat} {g : Bool}
    (h : Times (Spans t (.rep s least none g)) n i j) :
    ∃ m, n * least ≤ m ∧ Times (Spans t s) m i j := by
  induction n generalizing i with
  | zero => exact ⟨0, by omega, h⟩
  | succ n ih =>
      obtain ⟨k, ⟨m, hm, -, hik⟩, hk⟩ := h
      obtain ⟨m', hm', hkj⟩ := ih hk
      exact ⟨m + m', by rw [Nat.succ_mul]; omega, hik.append hkj⟩

/-- Any number of empty repetitions may come before one that is not. -/
theorem times_rep_of_times {t : Array Char} {s : Regex} {m i j : Nat} {g : Bool}
    (h : Times (Spans t s) m i j) (n : Nat) : Times (Spans t (.rep s 0 none g)) (n + 1) i j := by
  induction n with
  | zero => exact ⟨j, ⟨m, Nat.zero_le m, by simp, h⟩, rfl⟩
  | succ n ih => exact ⟨i, ⟨0, Nat.le_refl 0, by simp, rfl⟩, ih⟩

/-- The bounds allow a number of repetitions that is not zero. -/
theorem exists_count {min : Nat} {max : Option Nat}
    (h : ¬ (max.any fun m => m < min || m == 0) = true) :
    ∃ n, min ≤ n + 1 ∧ (∀ m, max = some m → n + 1 ≤ m) ∧ (min ≤ 1 → n = 0) := by
  refine ⟨min - 1, by omega, ?_, by omega⟩
  rintro m rfl
  simp only [Option.any_some, Bool.or_eq_true, decide_eq_true_eq, beq_iff_eq] at h
  omega

theorem spans_repeated (t : Array Char) (r : Regex) (min : Nat) (max : Option Nat) (greedy : Bool)
    (i j : Nat) :
    Spans t (r.repeated min max greedy) i j ↔ Spans t (.rep r min max greedy) i j := by
  unfold repeated
  split
  · rfl
  · next h =>
      obtain ⟨n, hmin, hmax, hone⟩ := exists_count h
      split
      · next s g =>
          constructor
          · rintro ⟨m, -, -, ht⟩
            exact ⟨n + 1, hmin, hmax, times_rep_of_times ht n⟩
          · rintro ⟨k, -, -, ht⟩
            obtain ⟨m, -, hm⟩ := times_of_times_rep ht
            exact ⟨m, Nat.zero_le m, by simp, hm⟩
      · next s g =>
          split
          · next hle =>
              cases hone hle
              constructor
              · rintro ⟨m, hm, -, ht⟩
                cases m with
                | zero => exact ⟨0, hm, by simp, ht⟩
                | succ m => exact ⟨1, hle, hmax, j, ⟨m + 1, by omega, by simp, ht⟩, rfl⟩
              · rintro ⟨k, hk, -, ht⟩
                obtain ⟨m, hm, ht⟩ := times_of_times_rep ht
                exact ⟨m, by omega, by simp, ht⟩
          · rfl
      · split
        · next hr =>
            obtain ⟨hr, hpos⟩ := Bool.and_eq_true_iff.1 hr
            have idle := fun i j => eq_of_takesNothing (t := t) (i := i) (j := j) hr
            constructor
            · exact fun hs => ⟨n + 1, hmin, hmax, (times_idle idle n i j).2 hs⟩
            · rintro ⟨k, hk, -, ht⟩
              cases k with
              | zero => simp only [Nat.le_zero.1 hk, bne_self_eq_false, Bool.false_eq_true] at hpos
              | succ k => exact (times_idle idle k i j).1 ht
        · rfl

/-- Collapsing changes nothing about what matches. -/
theorem spans_collapsed (t : Array Char) (r : Regex) (i j : Nat) :
    Spans t r.collapsed i j ↔ Spans t r i j := by
  induction r generalizing i j with
  | empty | set _ | look _ => rfl
  | seq a b iha ihb => simp only [collapsed, Spans, iha, ihb]
  | alt a b iha ihb => simp only [collapsed, Spans, iha, ihb]
  | rep r min max greedy ih =>
      rw [collapsed, spans_repeated]
      simp only [Spans, times_congr ih]
  | group _ r ih => exact ih i j

/-- Whether some stretch of the text matches. -/
def search (r : Regex) (text : String) : Bool :=
  let t := text.toList.toArray
  !(ends t r.collapsed (List.range (t.size + 1))).isEmpty

theorem search_eq_true_iff {r : Regex} {text : String} :
    r.search text = true ↔ ∃ i ≤ text.length, ∃ j, Spans text.toList.toArray r i j := by
  have size : text.toList.toArray.size = text.length := by simp [String.length_toList]
  simp only [search, Bool.not_eq_true', List.isEmpty_eq_false_iff_exists_mem, mem_ends _ _ _ _,
    spans_collapsed, List.mem_range, size]
  exact ⟨fun ⟨j, i, hi, h⟩ => ⟨i, by omega, j, h⟩, fun ⟨i, hi, j, h⟩ => ⟨j, i, by omega, h⟩⟩

end RestRoutes.Pattern.Regex
