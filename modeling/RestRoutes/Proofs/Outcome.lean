import RestRoutes.Notice

/-!
What computations that leave notices give. A step of a computation has one value that it can succeed
with, and fails if there is a reason to (`Build.verdict`); a walk through a list of such steps fails
for the first of their reasons, and has one value too (`Build.outcome_foldlM`). A walk that may find
nothing finds something at each item or nothing at all (`mapM_eq_some_iff`).
-/
namespace RestRoutes

theorem exists_ok_of_any {ε α : Type} {x : Except ε α} {p : α → Bool}
    (h : x.toOption.any p = true) : ∃ a, x = .ok a ∧ p a = true := by
  cases x with
  | error e => cases h
  | ok a => exact ⟨a, rfl, h⟩

section Except

variable {ε α β : Type} {x : Except ε α} {b : β}

theorem bind_eq_ok_iff {f : α → Except ε β} : x >>= f = .ok b ↔ ∃ a, x = .ok a ∧ f a = .ok b := by
  cases x <;> simp [bind, Except.bind]

theorem map_eq_ok_iff {f : α → β} : x.map f = .ok b ↔ ∃ a, x = .ok a ∧ f a = b := by
  cases x <;> simp [Except.map]

end Except

section Traversal

variable {α β : Type} {f : α → Option β}

theorem mapM_eq_some_iff {xs : List α} {ys : List β} :
    xs.mapM f = some ys ↔ xs.map f = ys.map some := by
  induction xs generalizing ys with
  | nil => cases ys <;> simp
  | cons x xs ih =>
      rw [List.mapM_cons]
      cases ys with
      | nil => cases f x <;> cases xs.mapM f <;> simp
      | cons y ys =>
          rw [List.map_cons, List.map_cons, List.cons.injEq, ← ih]
          cases f x <;> cases xs.mapM f <;> simp

theorem mapM_isSome_iff {xs : List α} :
    (xs.mapM f).isSome = true ↔ ∀ x ∈ xs, (f x).isSome = true := by
  induction xs with
  | nil => simp
  | cons x xs ih =>
      rw [List.mapM_cons, List.forall_mem_cons, ← ih]
      cases f x <;> cases xs.mapM f <;> simp

end Traversal

namespace Logged

variable {α β : Type}

@[simp] theorem value_pure (a : α) : (pure a : Logged α).value = a := rfl

@[simp] theorem value_bind (x : Logged α) (f : α → Logged β) :
    (x >>= f).value = (f x.value).value := rfl

@[simp] theorem value_map (f : α → β) (x : Logged α) : (f <$> x).value = f x.value := rfl

theorem value_foldlM (f : β → α → Logged β) (xs : List α) (b : β) :
    (xs.foldlM f b).value = xs.foldl (fun b x => (f b x).value) b := by
  induction xs generalizing b with
  | nil => rfl
  | cons x xs ih => simp only [List.foldlM_cons, value_bind, ih, List.foldl_cons]

end Logged

namespace Build

variable {α β : Type}

def outcome (x : Build α) : Except Error α := x.run.value

@[simp] theorem outcome_pure (a : α) : outcome (pure a) = .ok a := rfl

@[simp] theorem outcome_throw (e : Error) : outcome (throw e : Build α) = .error e := rfl

@[simp] theorem outcome_lift (x : Logged α) : outcome (liftM x) = .ok x.value := rfl

theorem outcome_bind (x : Build α) (f : α → Build β) :
    outcome (x >>= f) = x.outcome.bind fun a => (f a).outcome := by
  change (ExceptT.bindCont f x.run.value).value = x.run.value.bind fun a => (f a).outcome
  cases x.run.value with
  | error e => rfl
  | ok a => rfl

@[simp] theorem outcome_bind_ok {x : Build α} {a : α} (h : x.outcome = .ok a) (f : α → Build β) :
    outcome (x >>= f) = (f a).outcome := by
  rw [outcome_bind, h]
  rfl

@[simp] theorem outcome_note_bind (n : Notice) (f : Unit → Build β) :
    outcome (liftM (Logged.note n) >>= f) = (f ()).outcome :=
  outcome_bind_ok (outcome_lift _) f

@[simp] theorem outcome_map_lift (f : α → β) (x : Logged α) :
    outcome (f <$> (liftM x : Build α)) = .ok (f x.value) := rfl

/-- What a step gives that fails if there is a reason to, and otherwise has one value. -/
def verdict (reason? : Option Error) (a : α) : Except Error α :=
  match reason? with
  | none => .ok a
  | some err => .error err

@[simp] theorem verdict_none (a : α) : verdict none a = .ok a := rfl

@[simp] theorem verdict_some (err : Error) (a : α) : verdict (some err) a = .error err := rfl

theorem verdict_eq_ok_iff {reason? : Option Error} {a b : α} :
    verdict reason? a = .ok b ↔ reason? = none ∧ b = a := by
  cases reason? <;> simp [eq_comm]

theorem verdict_eq_error_iff {reason? : Option Error} {a : α} {err : Error} :
    verdict reason? a = .error err ↔ reason? = some err := by
  cases reason? <;> simp

theorem outcome_bind_verdict {x : Build α} {f : α → Build β} {first? second? : Option Error} {a : α}
    {b : β} (first : x.outcome = verdict first? a) (second : (f a).outcome = verdict second? b) :
    outcome (x >>= f) = verdict (first?.or second?) b := by
  rw [outcome_bind, first]
  cases first? with
  | none => exact second
  | some err => rfl

/-- A walk fails for the first reason that one of its steps has. -/
theorem outcome_foldlM {f : β → α → Build β} {g : β → α → β} {reason? : α → Option Error}
    (step : ∀ b x, (f b x).outcome = verdict (reason? x) (g b x)) (xs : List α) (b : β) :
    (xs.foldlM f b).outcome = verdict (xs.findSome? reason?) (xs.foldl g b) := by
  induction xs generalizing b with
  | nil => rfl
  | cons x xs ih =>
      rw [List.foldlM_cons, outcome_bind_verdict (step b x) (ih (g b x)), List.findSome?_cons]
      cases reason? x <;> rfl

theorem outcome_mapM {f : α → Build β} {g : α → β} {reason? : α → Option Error}
    (step : ∀ x, (f x).outcome = verdict (reason? x) (g x)) (xs : List α) :
    (xs.mapM f).outcome = verdict (xs.findSome? reason?) (xs.map g) := by
  induction xs with
  | nil => simp
  | cons x xs ih =>
      have rest : outcome (xs.mapM f >>= fun ys => pure (g x :: ys)) =
          verdict ((xs.findSome? reason?).or none) (g x :: xs.map g) :=
        outcome_bind_verdict ih rfl
      rw [List.mapM_cons, outcome_bind_verdict (step x) rest, List.findSome?_cons, Option.or_none]
      cases reason? x <;> rfl

end Build
end RestRoutes
