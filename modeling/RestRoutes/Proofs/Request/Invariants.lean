import RestRoutes.Proofs.Methods
import RestRoutes.Proofs.Request.Discipline

/-!
What holds of a request throughout. An operation keeps an invariant when the request that it leaves
behind does not break it, be it by success or by failure (`Keeps`). All operations are put together
from filling slots, narrowing the methods and changing the query, so an invariant that these keep
still holds after any uses (`Stable.holds_used`).
-/
namespace RestRoutes

theorem Setter.mem_methodSets_of_fill {setter : Setter} {value : Option String} {fs : List Fill}
    (h : setter.fills? value = some fs) {f : Fill} (hf : f ∈ fs) {s : MethodSet}
    (hs : f.methods = some s) : s ∈ setter.methodSets := by
  rcases of_mem_fills h hf with ⟨rfl, _⟩ | ⟨_, rfl⟩ | ⟨_, _, _, _, rfl⟩
  · simp [methodSets, hs]
  · simp [methodSets, hs]
  · simp [methodSets, hs]

namespace Request

/-- The request that the operation leaves behind does not break the invariant. -/
def Keeps (Inv : Request → Prop) {α : Type} (x : Op α) : Prop :=
  ∀ r, Inv r → match x.run r with
    | .ok _ r' => Inv r'
    | .error _ r' => Inv r'

variable {Inv : Request → Prop} {α β : Type}

theorem Keeps.throw (err : Error) : Keeps Inv (throw err : Op α) := by
  intro r holds
  exact holds

theorem Keeps.modify {f : Request → Request} (h : ∀ r, Inv r → Inv (f r)) :
    Keeps Inv (modify f : Op Unit) := by
  intro r holds
  exact h r holds

theorem Keeps.bind {x : Op α} {f : α → Op β} (hx : Keeps Inv x) (hf : ∀ a, Keeps Inv (f a)) :
    Keeps Inv (x >>= f) := by
  intro r holds
  have left := hx r holds
  cases ran : x.run r with
  | ok a r' =>
      rw [ran] at left
      rw [run_bind_of_ok ran]
      exact hf a r' left
  | error err r' =>
      rw [ran] at left
      rw [run_bind_of_error ran]
      exact left

theorem Keeps.after {op : Op Unit} (h : Keeps Inv op) {r : Request} (holds : Inv r) :
    Inv (r.after op) := by
  have left := h r holds
  unfold Request.after
  cases ran : op.run r with
  | ok a r' =>
      rw [ran] at left
      exact left
  | error err r' =>
      rw [ran] at left
      exact left

theorem keeps_fill (slots : ∀ r level value, Inv r →
    Inv { r with slots := r.slots.insert level value }) (level : Nat) (value : String) :
    Keeps Inv (fill level value) := by
  intro r holds
  rw [run_fill]
  cases r.slots.get? level with
  | none => exact slots r level value holds
  | some existing => exact holds

theorem keeps_narrow {methods : Option MethodSet}
    (brings : ∀ s, methods = some s → ∀ r, Inv r → Inv { r with methods := s }) :
    Keeps Inv (narrow methods) := by
  intro r holds
  cases methods with
  | none => exact holds
  | some s => exact brings s rfl r holds

theorem keeps_applySetter
    (slots : ∀ r level value, Inv r → Inv { r with slots := r.slots.insert level value })
    {setter : Setter} (brings : ∀ s ∈ setter.methodSets, ∀ r, Inv r → Inv { r with methods := s })
    (name : String) (value : Option String) : Keeps Inv (applySetter name value setter) := by
  have deposit : ∀ fs, setter.fills? value = some fs → ∀ f ∈ fs,
      Keeps Inv (fill f.level f.value) ∧ Keeps Inv (narrow f.methods) := by
    intro fs hfs f hf
    refine ⟨keeps_fill slots _ _, keeps_narrow fun s hs => ?_⟩
    exact brings s (Setter.mem_methodSets_of_fill hfs hf hs)
  rcases applySetter_cases name value setter with
    ⟨_, does⟩ | ⟨f, one, does⟩ | ⟨f, g, two, does⟩
  · rw [does]
    exact .throw _
  · obtain ⟨fills, narrows⟩ := deposit _ one f (by simp)
    rw [does]
    exact fills.bind fun _ => narrows
  · obtain ⟨fills, narrows⟩ := deposit _ two f (by simp)
    obtain ⟨fills', narrows'⟩ := deposit _ two g (by simp)
    rw [does]
    intro r holds
    by_cases second : r.Free g
    · rw [run_guard_of_free second]
      exact (fills.bind fun _ => narrows.bind fun _ => fills'.bind fun _ => narrows') r holds
    · obtain ⟨err, fails⟩ := run_guard_of_taken second _
      rw [fails]
      exact holds

/-- The three ways in which a request changes keep an invariant. -/
structure Stable (Inv : Request → Prop) : Prop where
  slots : ∀ r level value, Inv r → Inv { r with slots := r.slots.insert level value }
  methods : ∀ r, Inv r → ∀ name setter, r.target.capabilities.get? name = some (.path setter) →
    ∀ s ∈ setter.methodSets, ∀ r', Inv r' → Inv { r' with methods := s }
  mixin : ∀ r, Inv r → ∀ name m, r.target.capabilities.get? name = some (.mixin m) →
    ∀ value, Inv { r with query := m.apply r.query value }
  param : ∀ r name value, Inv r → Inv { r with query := r.query.insert name [value] }

namespace Stable

theorem keeps_invoke (stable : Stable Inv) (name : String) (value : Option String) :
    Keeps Inv (invoke name value) := by
  intro r holds
  cases offered : r.target.capabilities.get? name with
  | none =>
      rw [run_invoke_unknown value offered]
      exact holds
  | some capability =>
      cases capability with
      | mixin m =>
          have left := stable.mixin r holds name m offered value
          rcases run_invoke_mixin value offered with succeeds | ⟨err, _, fails⟩
          · rw [succeeds]
            exact left
          · rw [fails]
            exact left
      | path setter =>
          rw [run_invoke_path value offered]
          exact keeps_applySetter stable.slots (stable.methods r holds name setter offered)
            name value r holds

theorem keeps_act (stable : Stable Inv) (act : Act) : Keeps Inv act.op := by
  cases act with
  | invoke name value => exact stable.keeps_invoke name value
  | param name value => exact .modify fun r => stable.param r name value
  | fill level value => exact keeps_fill stable.slots level value

theorem holds_after (stable : Stable Inv) {r : Request} (holds : Inv r) (use : Use) :
    Inv (r.after use.op) := by
  cases use with
  | act a => exact (stable.keeps_act a).after holds
  | validate => exact (after_look validate).symm ▸ holds
  | renderPath => exact (after_look renderPath).symm ▸ holds
  | renderQuery => exact (after_look fun r => .ok r.renderQuery).symm ▸ holds
  | renderUri => exact (after_look renderUri).symm ▸ holds
  | checkMethod m => exact (after_look (·.checkMethod m)).symm ▸ holds

/-- What holds of a request holds after any uses, if it withstands each way to change a request. -/
theorem holds_used (stable : Stable Inv) {r : Request} (holds : Inv r) (uses : List Use) :
    Inv (r.used uses) := by
  induction uses generalizing r with
  | nil => exact holds
  | cons use uses ih =>
      rw [used_cons]
      exact ih (stable.holds_after holds use)

end Stable

end Request
end RestRoutes
