/-!
Finite maps listed by ascending key. Walking a map meets its keys in order, and two maps that answer
every question alike are equal (`ext_get?`). A map to `Unit` is a set.
-/
namespace RestRoutes

/-- Entries by ascending key, at most one for each key. -/
structure Dict (κ : Type) [Ord κ] (α : Type) where
  entries : List (κ × α)
  ascending : entries.Pairwise fun a b => compare a.1 b.1 = .lt

namespace Dict

section Entries

variable {κ α : Type} [Ord κ]

/-- Replaces the value of a key, or puts the key in its place. -/
def insertEntry (k : κ) (v : α) : List (κ × α) → List (κ × α)
  | [] => [(k, v)]
  | (k', v') :: rest =>
    match compare k k' with
    | .lt => (k, v) :: (k', v') :: rest
    | .eq => (k, v) :: rest
    | .gt => (k', v') :: insertEntry k v rest

def lookupEntry (k : κ) : List (κ × α) → Option α
  | [] => none
  | (k', v') :: rest => if compare k k' = .eq then some v' else lookupEntry k rest

instance [DecidableEq κ] [DecidableEq α] : DecidableEq (Dict κ α) := fun a b =>
  if h : a.entries = b.entries then isTrue (by cases a; cases b; cases h; rfl)
  else isFalse fun same => h (same ▸ rfl)

def empty : Dict κ α := ⟨[], .nil⟩

instance : EmptyCollection (Dict κ α) := ⟨empty⟩

instance : Inhabited (Dict κ α) := ⟨empty⟩

def get? (d : Dict κ α) (k : κ) : Option α := lookupEntry k d.entries

def contains (d : Dict κ α) (k : κ) : Bool := (d.get? k).isSome

def erase (d : Dict κ α) (k : κ) : Dict κ α :=
  ⟨d.entries.filter fun e => compare k e.1 != .eq, d.ascending.sublist List.filter_sublist⟩

def keys (d : Dict κ α) : List κ := d.entries.map (·.1)

def values (d : Dict κ α) : List α := d.entries.map (·.2)

def size (d : Dict κ α) : Nat := d.entries.length

def isEmpty (d : Dict κ α) : Bool := d.entries.isEmpty

theorem get?_empty (k : κ) : (empty : Dict κ α).get? k = none := rfl

theorem mem_insertEntry {k : κ} {v : α} {es : List (κ × α)} {e : κ × α}
    (h : e ∈ insertEntry k v es) : e = (k, v) ∨ e ∈ es := by
  induction es with
  | nil => simpa [insertEntry] using h
  | cons head rest ih =>
      obtain ⟨k', v'⟩ := head
      simp only [insertEntry] at h
      split at h
      · simpa using h
      · rcases List.mem_cons.1 h with rfl | h
        · exact .inl rfl
        · exact .inr (List.mem_cons_of_mem _ h)
      · rcases List.mem_cons.1 h with rfl | h
        · exact .inr (List.mem_cons_self ..)
        · exact (ih h).imp_right (List.mem_cons_of_mem _)

end Entries

section Lawful

variable {κ α : Type} [Ord κ] [Std.TransOrd κ] [Std.LawfulEqOrd κ]

theorem insertEntry_ascending {k : κ} {v : α} {es : List (κ × α)}
    (h : es.Pairwise fun a b => compare a.1 b.1 = .lt) :
    (insertEntry k v es).Pairwise fun a b => compare a.1 b.1 = .lt := by
  induction es with
  | nil => simp [insertEntry]
  | cons head rest ih =>
      obtain ⟨k', v'⟩ := head
      obtain ⟨hhead, hrest⟩ := List.pairwise_cons.1 h
      simp only [insertEntry]
      split
      · next hlt =>
          refine List.pairwise_cons.2 ⟨fun e he => ?_, h⟩
          rcases List.mem_cons.1 he with rfl | he
          · exact hlt
          · exact Std.TransCmp.lt_trans hlt (hhead e he)
      · next heq =>
          cases Std.LawfulEqCmp.eq_of_compare heq
          exact List.pairwise_cons.2 ⟨hhead, hrest⟩
      · next hgt =>
          refine List.pairwise_cons.2 ⟨fun e he => ?_, ih hrest⟩
          rcases mem_insertEntry he with rfl | he
          · exact Std.OrientedCmp.lt_of_gt hgt
          · exact hhead e he

def insert (d : Dict κ α) (k : κ) (v : α) : Dict κ α :=
  ⟨insertEntry k v d.entries, insertEntry_ascending d.ascending⟩

/-- Adds a value to those of its key. -/
def push (d : Dict κ (List α)) (k : κ) (v : α) : Dict κ (List α) :=
  d.insert k ((d.get? k).getD [] ++ [v])

/-- Adds keys to a set. -/
def addAll (d : Dict κ Unit) (ks : List κ) : Dict κ Unit := ks.foldl (fun d k => d.insert k ()) d

/-- Later entries replace earlier ones of the same key. -/
def ofList (es : List (κ × α)) : Dict κ α := es.foldl (fun d e => d.insert e.1 e.2) empty

omit [Std.TransOrd κ] in
theorem lookupEntry_insertEntry (k k' : κ) (v : α) (es : List (κ × α)) :
    lookupEntry k' (insertEntry k v es) =
      if compare k' k = .eq then some v else lookupEntry k' es := by
  induction es with
  | nil => simp [insertEntry, lookupEntry]
  | cons head rest ih =>
      obtain ⟨k₀, v₀⟩ := head
      simp only [insertEntry]
      split
      · simp [lookupEntry]
      · next heq =>
          cases Std.LawfulEqCmp.eq_of_compare heq
          simp only [lookupEntry]
          split <;> rfl
      · next hgt =>
          simp only [lookupEntry, ih]
          by_cases h₀ : compare k' k₀ = .eq
          · cases Std.LawfulEqCmp.eq_of_compare h₀
            have : compare k' k ≠ .eq := fun h => by
              cases Std.LawfulEqCmp.eq_of_compare h
              simp at hgt
            simp [this]
          · simp [h₀]

theorem get?_insert (d : Dict κ α) (k k' : κ) (v : α) :
    (d.insert k v).get? k' = if compare k' k = .eq then some v else d.get? k' :=
  lookupEntry_insertEntry k k' v d.entries

theorem get?_insert_self (d : Dict κ α) (k : κ) (v : α) : (d.insert k v).get? k = some v := by
  simp [get?_insert]

theorem get?_insert_of_ne (d : Dict κ α) {k k' : κ} (v : α) (h : k' ≠ k) :
    (d.insert k v).get? k' = d.get? k' := by
  rw [get?_insert, if_neg fun heq => h (Std.LawfulEqCmp.eq_of_compare heq)]

/-- A key keeps what it has, and the values that are added under it come after that. -/
theorem get?_foldl_push {β : Type} [DecidableEq κ] (key : β → κ) (value : β → α)
    (d : Dict κ (List α)) (xs : List β) (k : κ) :
    (xs.foldl (fun d x => d.push (key x) (value x)) d).get? k =
      if xs.filter (key · = k) = [] then d.get? k
      else some ((d.get? k).getD [] ++ (xs.filter (key · = k)).map value) := by
  induction xs generalizing d with
  | nil => rfl
  | cons x xs ih =>
      rw [List.foldl_cons, ih, push]
      by_cases here : key x = k
      · subst here
        by_cases last : xs.filter (key · = key x) = [] <;> simp [get?_insert_self, last]
      · rw [get?_insert_of_ne _ _ (Ne.symm here)]
        simp [here]

omit [Std.TransOrd κ] in
theorem lookupEntry_eq_some_iff {k : κ} {v : α} {es : List (κ × α)}
    (h : es.Pairwise fun a b => compare a.1 b.1 = .lt) :
    lookupEntry k es = some v ↔ (k, v) ∈ es := by
  induction es with
  | nil => simp [lookupEntry]
  | cons head rest ih =>
      obtain ⟨k₀, v₀⟩ := head
      obtain ⟨hhead, hrest⟩ := List.pairwise_cons.1 h
      simp only [lookupEntry, List.mem_cons, Prod.mk.injEq]
      by_cases h₀ : compare k k₀ = .eq
      · cases Std.LawfulEqCmp.eq_of_compare h₀
        have absent : (k, v) ∉ rest := fun hm => by
          have := hhead _ hm
          simp at this
        simp [absent, eq_comm]
      · have : k ≠ k₀ := fun e => h₀ (e ▸ Std.ReflCmp.compare_self)
        simp [h₀, this, ih hrest]

omit [Std.TransOrd κ] in
theorem get?_eq_some_iff {d : Dict κ α} {k : κ} {v : α} : d.get? k = some v ↔ (k, v) ∈ d.entries :=
  lookupEntry_eq_some_iff d.ascending

/-- An ascending list is fixed by its members. -/
theorem entries_eq_of_mem_iff {es fs : List (κ × α)}
    (he : es.Pairwise fun a b => compare a.1 b.1 = .lt)
    (hf : fs.Pairwise fun a b => compare a.1 b.1 = .lt) (h : ∀ e, e ∈ es ↔ e ∈ fs) : es = fs := by
  induction es generalizing fs with
  | nil =>
      cases fs with
      | nil => rfl
      | cons f fs => exact absurd ((h f).2 (List.mem_cons_self ..)) List.not_mem_nil
  | cons e es ih =>
      cases fs with
      | nil => exact absurd ((h e).1 (List.mem_cons_self ..)) List.not_mem_nil
      | cons f fs =>
          obtain ⟨hhe, hte⟩ := List.pairwise_cons.1 he
          obtain ⟨hhf, htf⟩ := List.pairwise_cons.1 hf
          have heads : e = f := by
            rcases List.mem_cons.1 ((h e).1 (List.mem_cons_self ..)) with same | inf
            · exact same
            rcases List.mem_cons.1 ((h f).2 (List.mem_cons_self ..)) with same | ine
            · exact same.symm
            have lt₁ := hhf e inf
            have lt₂ := hhe f ine
            have := Std.TransCmp.lt_trans lt₁ lt₂
            simp at this
          subst heads
          congr 1
          refine ih hte htf fun x => ⟨fun hx => ?_, fun hx => ?_⟩
          · rcases List.mem_cons.1 ((h x).1 (List.mem_cons_of_mem _ hx)) with rfl | hx'
            · have := hhe _ hx
              simp at this
            · exact hx'
          · rcases List.mem_cons.1 ((h x).2 (List.mem_cons_of_mem _ hx)) with rfl | hx'
            · have := hhf _ hx
              simp at this
            · exact hx'

theorem ext_get? {d e : Dict κ α} (h : ∀ k, d.get? k = e.get? k) : d = e := by
  have same : d.entries = e.entries :=
    entries_eq_of_mem_iff d.ascending e.ascending fun x => by
      rw [← get?_eq_some_iff, ← get?_eq_some_iff, h]
  cases d
  cases e
  cases same
  rfl

end Lawful

end Dict
end RestRoutes
