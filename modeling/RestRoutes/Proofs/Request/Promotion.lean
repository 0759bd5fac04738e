import RestRoutes.Proofs.Request.Fills
import RestRoutes.Proofs.Tree.Invariant

/-!
Values that are passed on. What comes of a setter is fixed by the slots that it is for: it fails
without a change because of the first of them that is taken, where the slot for a value to pass on
is looked at first, or fills all of them (`run_of_fill`, `run_of_fills`). So a literal position that
passes a value on to its child does what choosing it alone and then giving the value to the child
would do (`promotion_as_two_calls`).
-/
namespace RestRoutes

namespace Setter

variable {options : Options} {n child : Node}

theorem ofNode_of_dynamic (dynamic : n.isDynamic = true) :
    ofNode options n = .dynamic n.level n.methods := if_pos dynamic

theorem ofNode_of_literal (literal : n.isDynamic = false) :
    ofNode options n = .static n.level (n.names.head?.getD n.component) n.methods
      (if options.childPromotion then promotion? n else none) :=
  if_neg (Bool.eq_false_iff.1 literal)

theorem promotion?_of_only (only : n.dynamicChildren = [child]) :
    promotion? n = some ⟨child.level, child.methods⟩ := by
  rw [promotion?, only]

theorem promotion?_eq_none (several : n.dynamicChildren.length ≠ 1) : promotion? n = none := by
  unfold promotion?
  split
  · next only => simp [only] at several
  · rfl

end Setter

theorem RouteTree.level_of_child_run {as : List Attempt} {ns name : String} {tree : ResourceTree}
    (found : (run as).resource? ns name = some tree) {n c : Node} (hn : n ∈ tree.root.preorder)
    (hc : c ∈ n.children) : c.level = n.level + 1 := by
  obtain ⟨entries, folded⟩ := exists_folded_run as
  rw [folded.eq_grown] at found
  exact level_of_child found hn hc

namespace Request

variable {r : Request} {name : String} {value : Option String} {setter : Setter} {f g : Fill}

def put (r : Request) (f : Fill) : EStateM.Result Error Request Unit :=
  match r.slots.get? f.level with
  | some existing => .error (.slotOccupied f.level existing) r
  | none => .ok () (r.write f)

theorem put_of_free (h : r.slots.get? f.level = none) : r.put f = .ok () (r.write f) := by
  rw [put, h]

theorem put_of_taken {existing : String} (h : r.slots.get? f.level = some existing) :
    r.put f = .error (.slotOccupied f.level existing) r := by
  rw [put, h]

theorem run_deposit (f : Fill) :
    (do fill f.level f.value; narrow f.methods : Op Unit).run r = r.put f := by
  cases held : r.slots.get? f.level with
  | none =>
      rw [put_of_free held]
      exact run_deposit_of_free held (pure ())
  | some existing =>
      rw [put_of_taken held]
      exact run_bind_of_error (run_fill_of_taken f.value held) _

theorem run_of_no_fills (lacks : setter.fills? value = none) :
    (applySetter name value setter).run r = .error (.missingValue name) r := by
  rcases applySetter_cases name value setter with ⟨_, fails⟩ | ⟨_, one, _⟩ | ⟨_, _, two, _⟩
  · rw [fails]
    rfl
  · cases one.symm.trans lacks
  · cases two.symm.trans lacks

theorem run_of_fill (fills : setter.fills? value = some [f]) :
    (applySetter name value setter).run r = r.put f := by
  rcases applySetter_cases name value setter with ⟨lacks, _⟩ | ⟨_, one, does⟩ | ⟨_, _, two, _⟩
  · cases lacks.symm.trans fills
  · cases one.symm.trans fills
    rw [does]
    exact run_deposit f
  · cases two.symm.trans fills

/-- A setter for two slots looks at the second one, fills the first one and then the second. -/
theorem run_of_fills (fills : setter.fills? value = some [f, g]) (apart : g.level ≠ f.level) :
    (applySetter name value setter).run r =
      match r.slots.get? g.level with
      | some existing => .error (.slotOccupied g.level existing) r
      | none => match r.put f with
        | .ok _ r' => .ok () (r'.write g)
        | .error err r' => .error err r' := by
  rcases applySetter_cases name value setter with ⟨lacks, _⟩ | ⟨_, one, _⟩ | ⟨_, _, two, does⟩
  · cases lacks.symm.trans fills
  · cases one.symm.trans fills
  · cases two.symm.trans fills
    rw [does]
    cases second : r.slots.get? g.level with
    | some existing =>
        rw [run_bind_of_ok (rfl : (get : Op Request).run r = .ok r r)]
        simp only [second]
        rfl
    | none =>
        rw [run_guard_of_free second]
        cases first : r.slots.get? f.level with
        | some existing =>
            rw [put_of_taken first]
            exact run_bind_of_error (run_fill_of_taken f.value first) _
        | none =>
            rw [run_deposit_of_free first, put_of_free first]
            exact run_deposit_of_free ((free_write apart).2 second) (pure ())

theorem put_eq_ok_iff {r' : Request} : r.put f = .ok () r' ↔ r.Free f ∧ r' = r.write f := by
  rw [Free]
  cases held : r.slots.get? f.level with
  | none => simp [put_of_free held, eq_comm]
  | some existing => simp [put_of_taken held]

theorem of_put_eq_error {err : Error} {r' : Request} (h : r.put f = .error err r') :
    r' = r ∧ ∃ level existing, err = .slotOccupied level existing ∧
      r.slots.get? level = some existing := by
  cases held : r.slots.get? f.level with
  | none => cases (put_of_free held).symm.trans h
  | some existing =>
      cases (put_of_taken held).symm.trans h
      exact ⟨rfl, f.level, existing, rfl, held⟩

theorem run_of_fills_eq_ok_iff (fills : setter.fills? value = some [f, g])
    (apart : g.level ≠ f.level) {r' : Request} :
    (applySetter name value setter).run r = .ok () r' ↔
      ∃ between, r.put f = .ok () between ∧ between.put g = .ok () r' := by
  simp only [put_eq_ok_iff, and_assoc, exists_and_left, exists_eq_left, free_write apart]
  rw [run_of_fills fills apart, Free, Free]
  cases second : r.slots.get? g.level with
  | some existing => simp
  | none =>
      cases first : r.slots.get? f.level with
      | some existing => simp [put_of_taken first]
      | none => simp [put_of_free first, eq_comm]

theorem of_run_of_fills_eq_error (fills : setter.fills? value = some [f, g])
    (apart : g.level ≠ f.level) {err : Error} {r' : Request}
    (h : (applySetter name value setter).run r = .error err r') :
    r' = r ∧ ∃ level existing, err = .slotOccupied level existing ∧
      r.slots.get? level = some existing := by
  rw [run_of_fills fills apart] at h
  cases second : r.slots.get? g.level with
  | some existing =>
      rw [second] at h
      cases h
      exact ⟨rfl, g.level, existing, rfl, second⟩
  | none =>
      rw [second] at h
      cases first : r.put f with
      | ok _ between =>
          rw [first] at h
          cases h
      | error err' r'' =>
          rw [first] at h
          cases h
          exact of_put_eq_error first

/-- To choose a literal position with one dynamic child and a value, where values are passed on, is
to choose it alone and then to give the value to the child: the one succeeds if and only if the
others do one after the other, and leaves the same request. If it fails, a slot that it needs is
taken, and nothing has changed. With another number of dynamic children, or where values are not
passed on, the value makes no difference. -/
theorem promotion_as_two_calls {as : List RouteTree.Attempt} {ns resource : String}
    {tree : ResourceTree} (found : (RouteTree.run as).resource? ns resource = some tree) {n : Node}
    (hn : n ∈ tree.root.preorder) (literal : n.isDynamic = false) (options : Options) (r : Request)
    (name childName value : String) :
    let once := (applySetter name (some value) (.ofNode options n)).run r
    let alone := (applySetter name none (.ofNode options n)).run r
    (options.childPromotion = true → ∀ child, n.dynamicChildren = [child] →
      (∀ r', once = .ok () r' ↔ ∃ between, alone = .ok () between ∧
        (applySetter childName (some value) (.ofNode options child)).run between = .ok () r') ∧
      ∀ err r', once = .error err r' → r' = r ∧
        ∃ level existing, err = .slotOccupied level existing ∧
          r.slots.get? level = some existing) ∧
    (options.childPromotion = false ∨ n.dynamicChildren.length ≠ 1 → once = alone) := by
  intro once alone
  let own : Fill := ⟨n.level, n.names.head?.getD n.component, n.methods⟩
  have made : Setter.ofNode options n = _ := Setter.ofNode_of_literal literal
  refine ⟨fun promotes child only => ?_, fun useless => ?_⟩
  · have member : child ∈ n.dynamicChildren := by simp [only]
    obtain ⟨below, dynamic⟩ := List.mem_filter.1 member
    let passed : Fill := ⟨child.level, value, child.methods⟩
    have apart : passed.level ≠ own.level := by
      have deeper : passed.level = own.level + 1 := RouteTree.level_of_child_run found hn below
      rw [deeper]
      exact Nat.succ_ne_self _
    rw [if_pos promotes, Setter.promotion?_of_only only] at made
    have both : (Setter.ofNode options n).fills? (some value) = some [own, passed] := by
      rw [made]
      rfl
    have first : (Setter.ofNode options n).fills? none = some [own] := by
      rw [made]
      rfl
    have second : (Setter.ofNode options child).fills? (some value) = some [passed] := by
      rw [Setter.ofNode_of_dynamic dynamic]
      rfl
    refine ⟨fun r' => ?_, fun err r' fails => of_run_of_fills_eq_error both apart fails⟩
    refine (run_of_fills_eq_ok_iff both apart).trans (exists_congr fun between => ?_)
    rw [show alone = r.put own from run_of_fill first, run_of_fill second]
  · have no_promotion : (if options.childPromotion then Setter.promotion? n else none) = none := by
      rcases useless with off | several
      · rw [off]
        rfl
      · rw [Setter.promotion?_eq_none several, ite_self]
    rw [no_promotion] at made
    have same : ∀ v, (Setter.ofNode options n).fills? v = some [own] := by
      intro v
      rw [made]
      cases v <;> rfl
    exact (run_of_fill (same _)).trans (run_of_fill (same _)).symm

def revisionsFolded : List RouteTree.Attempt :=
  [⟨{}, "/wp/v2/posts/(?P<parent>)/revisions/(?P<id>)", ⟨"wp/v2", [.get, .delete], []⟩⟩]

/-- Choosing `revisions` with 9 succeeds, so choosing it alone and giving 9 to its child does. -/
theorem promotion_as_two_calls_revisions :
    ∃ tree, (RouteTree.run revisionsFolded).resource? "wp/v2" "posts" = some tree ∧
      ∃ n ∈ tree.root.preorder, n.isDynamic = false ∧ ∃ child, n.dynamicChildren = [child] ∧
        ({} : Options).childPromotion = true ∧ ∃ between r',
          (applySetter "revisions" none (.ofNode {} n)).run
            (new (.ofTree {} "wp/v2" tree []) "") = .ok () between ∧
          (applySetter "id" (some "9") (.ofNode {} child)).run between = .ok () r' ∧
          r'.slots.entries = [(0, "posts"), (2, "revisions"), (3, "9")] := by
  have computed : ((RouteTree.run revisionsFolded).resource? "wp/v2" "posts").any (fun tree =>
      tree.root.preorder.any fun n => !n.isDynamic && n.dynamicChildren.length = 1 &&
        match (applySetter "revisions" (some "9") (.ofNode {} n)).run
          (new (.ofTree {} "wp/v2" tree []) "") with
        | .ok _ r' => decide (r'.slots.entries = [(0, "posts"), (2, "revisions"), (3, "9")])
        | .error .. => false) = true := by
    decide +kernel
  obtain ⟨tree, found, some_node⟩ := (Option.any_eq_true _ _).1 computed
  obtain ⟨n, hn, holds⟩ := List.any_eq_true.1 some_node
  simp only [Bool.and_eq_true, Bool.not_eq_true', decide_eq_true_eq] at holds
  obtain ⟨⟨literal, single⟩, succeeds⟩ := holds
  obtain ⟨child, only⟩ := List.length_eq_one_iff.1 single
  obtain ⟨promoted, _⟩ := promotion_as_two_calls found hn literal {}
    (new (.ofTree {} "wp/v2" tree []) "") "revisions" "id" "9"
  obtain ⟨same, _⟩ := promoted rfl child only
  cases runs : (applySetter "revisions" (some "9") (.ofNode {} n)).run
      (new (.ofTree {} "wp/v2" tree []) "") with
  | error err r' => simp [runs] at succeeds
  | ok _ r' =>
      obtain ⟨between, first, second⟩ := (same r').1 runs
      exact ⟨tree, found, n, hn, literal, child, only, rfl, between, r', first, second,
        by simpa [runs] using succeeds⟩

end Request
end RestRoutes
