import RestRoutes.Text.Property

/-!
Regular expressions without flags and what they match. `Regex.Spans` says which stretches of a text
an expression covers; `Regex.ends` computes the places where they end from the places where they may
start, and the two agree (`Regex.mem_ends`).
-/
namespace RestRoutes.Pattern

/-- Conditions on the place between two characters. -/
inductive Look where
  | textStart
  | textEnd
  | lineStart (crlf : Bool)
  | lineEnd (crlf : Bool)
  | boundary (ascii : Bool)
  | notBoundary (ascii : Bool)
  | wordStart (ascii : Bool)
  | wordEnd (ascii : Bool)
  | wordStartHalf (ascii : Bool)
  | wordEndHalf (ascii : Bool)
deriving DecidableEq, Repr

def isAsciiWord (c : Char) : Bool := c.isAlphanum || c == '_'

def isWordChar (ascii : Bool) (c : Char) : Bool :=
  if ascii then isAsciiWord c else Property.word.contains c.toNat

/-- Whether the condition holds between two neighbours; at an end of the text one is missing. A
carriage return and the line feed after it end one line together. -/
def Look.holds (l : Look) (before after : Option Char) : Bool :=
  let left (ascii : Bool) := before.any (isWordChar ascii)
  let right (ascii : Bool) := after.any (isWordChar ascii)
  match l with
  | .textStart => before.isNone
  | .textEnd => after.isNone
  | .lineStart false => before.all (· == '\n')
  | .lineStart true => before.all fun c => c == '\n' || (c == '\r' && after != some '\n')
  | .lineEnd false => after.all (· == '\n')
  | .lineEnd true => after.all fun c => c == '\r' || (c == '\n' && before != some '\r')
  | .boundary ascii => left ascii != right ascii
  | .notBoundary ascii => left ascii == right ascii
  | .wordStart ascii => !left ascii && right ascii
  | .wordEnd ascii => left ascii && !right ascii
  | .wordStartHalf ascii => !left ascii
  | .wordEndHalf ascii => !right ascii

inductive Regex where
  | empty
  | set (s : CodeSet)
  | look (l : Look)
  | seq (a b : Regex)
  /-- A branch, and the branches after it. -/
  | alt (a b : Regex)
  /-- At least `min` times, and at most `max` times if there is a bound. A greedy repetition prefers
  more of them, which does not change what matches. -/
  | rep (r : Regex) (min : Nat) (max : Option Nat) (greedy : Bool)
  /-- Parentheses, with their number if they have one. -/
  | group (number : Option Nat) (r : Regex)
deriving Inhabited

namespace Regex

/-- The character before a place. -/
def charBefore (t : Array Char) : Nat → Option Char
  | 0 => none
  | i + 1 => t[i]?

/-- A relation between places, applied a number of times. -/
def Times (R : Nat → Nat → Prop) : Nat → Nat → Nat → Prop
  | 0, i, j => i = j
  | n + 1, i, k => ∃ j, R i j ∧ Times R n j k

/-- The stretch of a text from place `i` to place `j` matches. -/
def Spans (t : Array Char) : Regex → Nat → Nat → Prop
  | .empty, i, j => i = j
  | .set s, i, j => (∃ c, t[i]? = some c ∧ s.contains c.toNat = true) ∧ j = i + 1
  | .look l, i, j => l.holds (charBefore t i) t[i]? = true ∧ i = j
  | .seq a b, i, k => ∃ j, Spans t a i j ∧ Spans t b j k
  | .alt a b, i, j => Spans t a i j ∨ Spans t b i j
  | .rep r min max _, i, j => ∃ n, min ≤ n ∧ (∀ m, max = some m → n ≤ m) ∧ Times (Spans t r) n i j
  | .group _ r, i, j => Spans t r i j

/-- The places of a second list that are new, after those of the first. -/
def addPlaces (seen found : List Nat) : List Nat :=
  seen ++ found.filter (!seen.contains ·)

/-- Applies a step a number of times. Where nothing is left, nothing comes of it. -/
def iterate (f : List Nat → List Nat) : Nat → List Nat → List Nat
  | 0, places => places
  | n + 1, places => if places.isEmpty then [] else iterate f n (f places)

/-- Everything that at most `n` steps reach. `frontier` holds the places that the last step
added. -/
def reach (f : List Nat → List Nat) : Nat → (seen frontier : List Nat) → List Nat
  | 0, seen, _ => seen
  | n + 1, seen, frontier =>
    let new := (f frontier).filter (!seen.contains ·)
    if new.isEmpty then seen else reach f n (seen ++ new) new

/-- The places where matches end that start at the given places. A text of length `n` has `n + 1`
places, so of more than `n` repetitions one is empty, and no more than `n + 1` steps add a place. -/
def ends (t : Array Char) : Regex → List Nat → List Nat
  | .empty, places => places
  | .set s, places => places.filterMap fun i =>
    if t[i]?.any (s.contains ·.toNat) then some (i + 1) else none
  | .look l, places => places.filter fun i => l.holds (charBefore t i) t[i]?
  | .seq a b, places => ends t b (ends t a places)
  | .alt a b, places => addPlaces (ends t a places) (ends t b places)
  | .rep r min max _, places =>
    let start := iterate (ends t r) (Nat.min min (t.size + 1)) places
    match max with
    | none => reach (ends t r) (t.size + 1) start start
    | some max => if max < min then [] else reach (ends t r) (max - min) start start
  | .group _ r, places => ends t r places

theorem mem_addPlaces {seen found : List Nat} {j : Nat} :
    j ∈ addPlaces seen found ↔ j ∈ seen ∨ j ∈ found := by
  by_cases h : j ∈ seen <;> simp [addPlaces, h]

/-- `f` computes the places that `R` leads to. -/
def Computes (f : List Nat → List Nat) (R : Nat → Nat → Prop) : Prop :=
  ∀ places j, j ∈ f places ↔ ∃ i ∈ places, R i j

theorem mem_iterate {f : List Nat → List Nat} {R : Nat → Nat → Prop} (hf : Computes f R)
    (n : Nat) (places : List Nat) (j : Nat) :
    j ∈ iterate f n places ↔ ∃ i ∈ places, Times R n i j := by
  induction n generalizing places with
  | zero => simp [iterate, Times]
  | succ n ih =>
      unfold iterate
      split
      · next h => simp [List.isEmpty_iff.1 h]
      · rw [ih]
        constructor
        · rintro ⟨k, hk, hn⟩
          obtain ⟨i, hi, hik⟩ := (hf places k).1 hk
          exact ⟨i, hi, k, hik, hn⟩
        · rintro ⟨i, hi, k, hik, hn⟩
          exact ⟨k, (hf places k).2 ⟨i, hi, hik⟩, hn⟩

/-- From a set one gets to its members only, or over one of the places where it is left. -/
theorem mem_or_of_times {R : Nat → Nat → Prop} {seen new : List Nat}
    (step : ∀ i ∈ seen, ∀ k, R i k → k ∈ seen ∨ k ∈ new) {m i j : Nat} (hi : i ∈ seen)
    (ht : Times R m i j) : j ∈ seen ∨ ∃ k ∈ new, ∃ m' ≤ m, Times R m' k j := by
  induction m generalizing i with
  | zero => exact .inl (ht ▸ hi)
  | succ m ih =>
      obtain ⟨k, hik, hk⟩ := ht
      rcases step i hi k hik with inside | fresh
      · rcases ih inside hk with h | ⟨l, hl, m', hm, hl'⟩
        · exact .inl h
        · exact .inr ⟨l, hl, m', by omega, hl'⟩
      · exact .inr ⟨k, fresh, m, by omega, hk⟩

/-- Once every step from outside the frontier stays inside, only the frontier leads further. -/
theorem mem_reach {f : List Nat → List Nat} {R : Nat → Nat → Prop} (hf : Computes f R)
    (n : Nat) (seen frontier : List Nat) (sub : ∀ i ∈ frontier, i ∈ seen)
    (closed : ∀ i ∈ seen, i ∉ frontier → ∀ j, R i j → j ∈ seen) (j : Nat) :
    j ∈ reach f n seen frontier ↔ j ∈ seen ∨ ∃ i ∈ frontier, ∃ m ≤ n, Times R m i j := by
  induction n generalizing seen frontier with
  | zero =>
      constructor
      · exact .inl
      · rintro (h | ⟨i, hi, m, hm, ht⟩)
        · exact h
        · cases Nat.le_zero.1 hm
          exact ht ▸ sub i hi
  | succ n ih =>
      have memNew : ∀ k, k ∈ (f frontier).filter (!seen.contains ·) ↔
          (∃ i ∈ frontier, R i k) ∧ k ∉ seen := fun k => by simp [hf frontier k]
      have step : ∀ i ∈ seen, ∀ k, R i k →
          k ∈ seen ∨ k ∈ (f frontier).filter (!seen.contains ·) := by
        intro i hi k hik
        by_cases hseen : k ∈ seen
        · exact .inl hseen
        · by_cases hfr : i ∈ frontier
          · exact .inr ((memNew k).2 ⟨⟨i, hfr, hik⟩, hseen⟩)
          · exact absurd (closed i hi hfr k hik) hseen
      unfold reach
      simp only
      split
      · next hempty =>
          refine ⟨.inl, fun h => h.elim id fun ⟨i, hi, m, _, ht⟩ => ?_⟩
          rcases mem_or_of_times step (sub i hi) ht with inside | ⟨k, hk, _⟩
          · exact inside
          · rw [List.isEmpty_iff.1 hempty] at hk
            cases hk
      · rw [ih _ _ (fun i hi => List.mem_append_right _ hi) ?_]
        · constructor
          · rintro (h | ⟨k, hk, m, hm, ht⟩)
            · rcases List.mem_append.1 h with h | h
              · exact .inl h
              · obtain ⟨⟨i, hi, hij⟩, -⟩ := (memNew j).1 h
                exact .inr ⟨i, hi, 1, by omega, j, hij, rfl⟩
            · obtain ⟨⟨i, hi, hik⟩, -⟩ := (memNew k).1 hk
              exact .inr ⟨i, hi, m + 1, by omega, k, hik, ht⟩
          · rintro (h | ⟨i, hi, m, hm, ht⟩)
            · exact .inl (List.mem_append_left _ h)
            · cases m with
              | zero => exact .inl (List.mem_append_left _ (ht ▸ sub i hi))
              | succ m =>
                  obtain ⟨k, hik, hk⟩ := ht
                  rcases step i (sub i hi) k hik with inside | fresh
                  · rcases mem_or_of_times step inside hk with h | ⟨l, hl, m', hm', hl'⟩
                    · exact .inl (List.mem_append_left _ h)
                    · exact .inr ⟨l, hl, m', by omega, hl'⟩
                  · exact .inr ⟨k, fresh, m, by omega, hk⟩
        · intro i hi hnot k hik
          have hi : i ∈ seen := (List.mem_append.1 hi).elim id fun h => absurd h hnot
          exact (step i hi k hik).elim (List.mem_append_left _) (List.mem_append_right _)

theorem mem_reach_self {f : List Nat → List Nat} {R : Nat → Nat → Prop} (hf : Computes f R)
    (n : Nat) (start : List Nat) (j : Nat) :
    j ∈ reach f n start start ↔ ∃ i ∈ start, ∃ m ≤ n, Times R m i j := by
  rw [mem_reach hf n start start (fun _ h => h) (fun i hi hnot => absurd hi hnot)]
  constructor
  · rintro (h | h)
    · exact ⟨j, h, 0, by omega, rfl⟩
    · exact h
  · exact .inr

theorem Times.append {R : Nat → Nat → Prop} {m n i j k : Nat} (h : Times R m i j)
    (h' : Times R n j k) : Times R (m + n) i k := by
  induction m generalizing i with
  | zero => cases h; simpa using h'
  | succ m ih =>
      obtain ⟨l, hil, hl⟩ := h
      rw [Nat.succ_add]
      exact ⟨l, hil, ih hl⟩

theorem Times.split {R : Nat → Nat → Prop} {m n i k : Nat} (h : Times R (m + n) i k) :
    ∃ j, Times R m i j ∧ Times R n j k := by
  induction m generalizing i with
  | zero => exact ⟨i, rfl, by simpa using h⟩
  | succ m ih =>
      rw [Nat.succ_add] at h
      obtain ⟨l, hil, hl⟩ := h
      obtain ⟨j, hlj, hj⟩ := ih hl
      exact ⟨j, ⟨l, hil, hlj⟩, hj⟩

/-- A relation that never goes back and stops at `size`. -/
def Forward (R : Nat → Nat → Prop) (size : Nat) : Prop := ∀ i j, R i j → i = j ∨ i < j ∧ j ≤ size

theorem Times.forward {R : Nat → Nat → Prop} {size : Nat} (hR : Forward R size) {n i j : Nat}
    (h : Times R n i j) : i = j ∨ i < j ∧ j ≤ size := by
  induction n generalizing i with
  | zero => exact .inl h
  | succ n ih =>
      obtain ⟨k, hik, hk⟩ := h
      rcases hR i k hik with rfl | ⟨hlt, hle⟩
      · exact ih hk
      · rcases ih hk with rfl | ⟨hlt', hle'⟩
        · exact .inr ⟨hlt, hle⟩
        · exact .inr ⟨by omega, hle'⟩

/-- Steps that stay where they are can be left out. -/
theorem Times.shorten {R : Nat → Nat → Prop} {size : Nat} (hR : Forward R size) {n i j : Nat}
    (h : Times R n i j) : ∃ m ≤ j - i, Times R m i j := by
  induction n generalizing i with
  | zero => exact ⟨0, by omega, h⟩
  | succ n ih =>
      obtain ⟨k, hik, hk⟩ := h
      obtain ⟨m, hm, ht⟩ := ih hk
      rcases hR i k hik with rfl | ⟨hlt, -⟩
      · exact ⟨m, hm, ht⟩
      · refine ⟨m + 1, ?_, k, hik, ht⟩
        rcases Times.forward hR hk with rfl | ⟨hlt', -⟩ <;> omega

/-- Where there are more steps than places to go, one of them stays, and can be repeated or left
out. -/
theorem Times.idle {R : Nat → Nat → Prop} {size : Nat} (hR : Forward R size) {n i j : Nat}
    (h : Times R (n + 1) i j) (idle : j - i < n + 1) : Times R (n + 2) i j ∧ Times R n i j := by
  induction n generalizing i with
  | zero =>
      obtain ⟨k, hik, rfl⟩ := h
      rcases hR i k hik with rfl | ⟨_, _⟩
      · exact ⟨⟨i, hik, i, hik, rfl⟩, rfl⟩
      · omega
  | succ n ih =>
      obtain ⟨k, hik, hk⟩ := h
      rcases hR i k hik with rfl | ⟨hlt, -⟩
      · exact ⟨⟨i, hik, i, hik, hk⟩, hk⟩
      · have hkj : k = j ∨ k < j := (hk.forward hR).imp_right (·.1)
        obtain ⟨more, less⟩ := ih hk (by omega)
        exact ⟨⟨k, hik, more⟩, ⟨k, hik, less⟩⟩

/-- More than `size` steps lead nowhere that `size + 1` steps do not lead. -/
theorem times_min {R : Nat → Nat → Prop} {size : Nat} (hR : Forward R size) (n i j : Nat) :
    Times R (Nat.min n (size + 1)) i j ↔ Times R n i j := by
  by_cases hn : n ≤ size + 1
  · rw [show Nat.min n (size + 1) = n from Nat.min_eq_left hn]
  · obtain ⟨d, rfl⟩ : ∃ d, n = size + 1 + d := ⟨n - (size + 1), by omega⟩
    rw [show Nat.min (size + 1 + d) (size + 1) = size + 1 from Nat.min_eq_right (by omega)]
    clear hn
    induction d with
    | zero => rfl
    | succ d ih =>
        rw [ih]
        have room : ∀ {m}, Times R m i j → j - i < size + d + 1 := fun h => by
          rcases h.forward hR with rfl | ⟨_, _⟩ <;> omega
        constructor
        · intro h
          rw [show size + 1 + d = size + d + 1 by omega] at h
          rw [show size + 1 + (d + 1) = size + d + 2 by omega]
          exact (h.idle hR (room h)).1
        · intro h
          rw [show size + 1 + (d + 1) = (size + d + 1) + 1 by omega] at h
          rw [show size + 1 + d = size + d + 1 by omega]
          exact (h.idle hR (Nat.lt_succ_of_lt (room h))).2

theorem spans_forward (t : Array Char) (r : Regex) : Forward (Spans t r) t.size := by
  induction r with
  | empty => exact fun i j h => .inl h
  | set s =>
      rintro i j ⟨⟨c, hc, -⟩, rfl⟩
      obtain ⟨h, -⟩ := Array.getElem?_eq_some_iff.1 hc
      exact .inr ⟨by omega, by omega⟩
  | look l => exact fun i j h => .inl h.2
  | seq a b iha ihb =>
      rintro i k ⟨j, ha, hb⟩
      rcases iha i j ha with rfl | ⟨_, _⟩
      · exact ihb i k hb
      · rcases ihb j k hb with rfl | ⟨_, _⟩
        · exact .inr ⟨by omega, by omega⟩
        · exact .inr ⟨by omega, by omega⟩
  | alt a b iha ihb => exact fun i j h => h.elim (iha i j) (ihb i j)
  | rep r min max _ ih =>
      rintro i j ⟨n, -, -, h⟩
      exact h.forward ih
  | group _ r ih => exact ih

theorem mem_ends (t : Array Char) (r : Regex) : Computes (ends t r) (Spans t r) := by
  induction r with
  | empty => intro places j; simp [ends, Spans]
  | set s =>
      intro places j
      simp only [ends, List.mem_filterMap, Spans, Option.any_eq_true]
      constructor
      · rintro ⟨i, hi, h⟩
        split at h
        · next hc => cases h; exact ⟨i, hi, hc, rfl⟩
        · cases h
      · rintro ⟨i, hi, hc, rfl⟩
        exact ⟨i, hi, by rw [if_pos hc]⟩
  | look l =>
      intro places j
      simp only [ends, List.mem_filter, Spans]
      exact ⟨fun h => ⟨j, h.1, h.2, rfl⟩, by rintro ⟨i, hi, hl, rfl⟩; exact ⟨hi, hl⟩⟩
  | seq a b iha ihb =>
      intro places k
      simp only [ends, Spans, ihb _ k, iha places]
      exact ⟨fun ⟨j, ⟨i, hi, ha⟩, hb⟩ => ⟨i, hi, j, ha, hb⟩,
        fun ⟨i, hi, j, ha, hb⟩ => ⟨j, ⟨i, hi, ha⟩, hb⟩⟩
  | alt a b iha ihb =>
      intro places j
      simp only [ends, Spans, mem_addPlaces, iha places j, ihb places j]
      exact ⟨fun h => h.elim (fun ⟨i, hi, ha⟩ => ⟨i, hi, .inl ha⟩)
          (fun ⟨i, hi, hb⟩ => ⟨i, hi, .inr hb⟩),
        fun ⟨i, hi, h⟩ => h.elim (fun ha => .inl ⟨i, hi, ha⟩) (fun hb => .inr ⟨i, hi, hb⟩)⟩
  | rep r min max _ ih =>
      intro places j
      have enough : ∀ n i, Times (Spans t r) n i j → ∃ m ≤ t.size + 1, Times (Spans t r) m i j :=
        fun n i h => by
          obtain ⟨m, hm, ht⟩ := h.shorten (spans_forward t r)
          rcases h.forward (spans_forward t r) with rfl | ⟨_, _⟩
          · exact ⟨m, by omega, ht⟩
          · exact ⟨m, by omega, ht⟩
      cases max with
      | none =>
          simp only [ends, mem_reach_self ih, mem_iterate ih, times_min (spans_forward t r), Spans]
          constructor
          · rintro ⟨k, ⟨i, hi, hk⟩, m, -, hj⟩
            exact ⟨i, hi, min + m, by omega, by simp, hk.append hj⟩
          · rintro ⟨i, hi, n, hmin, -, h⟩
            obtain ⟨m, rfl⟩ := Nat.exists_eq_add_of_le hmin
            obtain ⟨k, hk, hj⟩ := h.split
            obtain ⟨m', hm', hj'⟩ := enough m k hj
            exact ⟨k, ⟨i, hi, hk⟩, m', hm', hj'⟩
      | some max =>
          simp only [ends, Spans]
          split
          · next hlt =>
              simp only [List.not_mem_nil, false_iff]
              rintro ⟨i, -, n, hmin, hmax, -⟩
              have := hmax max rfl
              omega
          · next hge =>
              simp only [mem_reach_self ih, mem_iterate ih, times_min (spans_forward t r)]
              constructor
              · rintro ⟨k, ⟨i, hi, hk⟩, m, hm, hj⟩
                exact ⟨i, hi, min + m, by omega, fun _ h => by cases h; omega, hk.append hj⟩
              · rintro ⟨i, hi, n, hmin, hmax, h⟩
                have := hmax max rfl
                obtain ⟨m, rfl⟩ := Nat.exists_eq_add_of_le hmin
                obtain ⟨k, hk, hj⟩ := h.split
                exact ⟨k, ⟨i, hi, hk⟩, m, by omega, hj⟩
  | group _ r ih => exact ih

end Regex
end RestRoutes.Pattern
