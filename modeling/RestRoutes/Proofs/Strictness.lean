import RestRoutes.Proofs.Bootstrap

/-!
What strictness changes. Options that are strict about patterns or about conflicts refuse some maps
of routes, the former for the first component in the order of the routes that cannot be used; where
they refuse nothing they make the same catalog as lenient ones (`Catalog.bootstrap_of_strictness`).
-/
namespace RestRoutes

/-- An empty pattern is a pattern, so a placeholder without one is never refused. -/
theorem Pattern.compile_empty : ∃ regex, compile "" = .ok regex := by
  have compiles : (compile "").toOption.any (fun _ => true) = true := by decide +kernel
  obtain ⟨regex, h, _⟩ := exists_ok_of_any compiles
  exact ⟨regex, h⟩

namespace Component

/-- A component is a placeholder, and what it has for a pattern does not compile. -/
def Unusable (text : String) (cause : InvalidPattern) : Prop :=
  ∃ group, Segment.classify text = .dynamic group ∧ cause.pattern = group.pattern ∧
    Pattern.compile group.pattern = .error cause.flaw

def Usable (text : String) : Prop := ¬∃ cause, Unusable text cause

theorem flaw?_eq_some_iff {text : String} {cause : InvalidPattern} :
    (Segment.classify text).flaw? = some cause ↔ Unusable text cause := by
  unfold Segment.flaw? Unusable
  cases Segment.classify text with
  | literal text' => simp [Segment.validator]
  | dynamic group =>
      obtain ⟨pattern, flaw⟩ := cause
      simp only [Segment.validator, Validator.ofPattern, Segment.dynamic.injEq, exists_eq_left']
      by_cases blank : group.pattern.isEmpty
      · obtain ⟨regex, compiles⟩ := Pattern.compile_empty
        rw [String.isEmpty_iff] at blank
        simp [blank, compiles]
      · rw [if_neg blank]
        cases made : Pattern.ofSource group.pattern with
        | ok p =>
            have kept : ∀ flaw, Pattern.compile group.pattern ≠ .error flaw := fun flaw h => by
              rw [Pattern.ofSource_eq_error_iff.2 h] at made
              cases made
            simp [kept]
        | error flaw' =>
            rw [Pattern.ofSource_eq_error_iff] at made
            simp [made, eq_comm]

theorem flaw?_eq_none_iff {text : String} :
    (Segment.classify text).flaw? = none ↔ Usable text := by
  simp [Usable, ← flaw?_eq_some_iff, Option.eq_none_iff_forall_ne_some]

end Component

namespace RouteTree

variable {options : Options} {entries : List (String × RouteDefinition)}
  {entry : String × RouteDefinition}

/-- Every component of a route can be used. Routes that are skipped have no components. -/
def Usable (entry : String × RouteDefinition) : Prop :=
  ∀ text ∈ componentsOf entry.1 entry.2, Component.Usable text

/-- What is wrong with the first component of a route that cannot be used. -/
def Flawed (entry : String × RouteDefinition) (cause : InvalidPattern) : Prop :=
  ∃ texts text rest, componentsOf entry.1 entry.2 = texts ++ text :: rest ∧
    (∀ t ∈ texts, Component.Usable t) ∧ Component.Unusable text cause

/-- The first route that cannot be used, and what is wrong with it. -/
def FirstFlawed (entries : List (String × RouteDefinition)) (route : String)
    (cause : InvalidPattern) : Prop :=
  ∃ before d after, entries = before ++ (route, d) :: after ∧ (∀ entry ∈ before, Usable entry) ∧
    Flawed (route, d) cause

theorem refusal?_eq_some_iff (strict : options.strictPatterns = true) {err : Error} :
    refusal? options entry = some err ↔ ∃ cause, Flawed entry cause ∧
      .invalidRoute entry.1 cause = err := by
  unfold refusal? Flawed
  rw [List.findSome?_eq_some_iff]
  simp only [Component.refusal?, strict, if_true, Option.map_eq_some_iff, Option.map_eq_none_iff,
    Component.flaw?_eq_some_iff, Component.flaw?_eq_none_iff]
  constructor
  · rintro ⟨texts, text, rest, split, ⟨cause, unusable, rfl⟩, before⟩
    exact ⟨cause, ⟨texts, text, rest, split, before, unusable⟩, rfl⟩
  · rintro ⟨cause, ⟨texts, text, rest, split, before, unusable⟩, rfl⟩
    exact ⟨texts, text, rest, split, ⟨cause, unusable, rfl⟩, before⟩

theorem refusal?_eq_none_iff (strict : options.strictPatterns = true) :
    refusal? options entry = none ↔ Usable entry := by
  simp [refusal?, Component.refusal?, strict, Component.flaw?_eq_none_iff, Usable]

theorem findSome?_refusal?_eq_some_iff {err : Error} :
    entries.findSome? (refusal? options) = some err ↔ options.strictPatterns = true ∧
      ∃ route cause, FirstFlawed entries route cause ∧ .invalidRoute route cause = err := by
  cases strict : options.strictPatterns with
  | false => simp [List.findSome?_eq_some_iff, refusal?_lenient strict]
  | true =>
      rw [List.findSome?_eq_some_iff]
      simp only [refusal?_eq_some_iff strict, refusal?_eq_none_iff strict]
      constructor
      · rintro ⟨before, ⟨route, d⟩, after, split, ⟨cause, flawed, rfl⟩, usable⟩
        exact ⟨trivial, route, cause, ⟨before, d, after, split, usable, flawed⟩, rfl⟩
      · rintro ⟨_, route, cause, ⟨before, d, after, split, usable, flawed⟩, rfl⟩
        exact ⟨before, (route, d), after, split, ⟨cause, flawed, rfl⟩, usable⟩

theorem findSome?_refusal?_eq_none_iff : entries.findSome? (refusal? options) = none ↔
    (options.strictPatterns = true → ∀ entry ∈ entries, Usable entry) := by
  rw [List.findSome?_eq_none_iff]
  cases strict : options.strictPatterns with
  | false => simp [refusal?_lenient strict]
  | true => simp [refusal?_eq_none_iff strict]

theorem exists_firstFlawed_iff :
    (∃ route cause, FirstFlawed entries route cause) ↔ ¬∀ entry ∈ entries, Usable entry := by
  let strict : Options := { strictPatterns := true }
  have refused : entries.findSome? (refusal? strict) ≠ none ↔
      ∃ err, entries.findSome? (refusal? strict) = some err := Option.ne_none_iff_exists'
  simp only [ne_eq, findSome?_refusal?_eq_none_iff, findSome?_refusal?_eq_some_iff, strict,
    forall_const, true_and] at refused
  rw [refused]
  constructor
  · rintro ⟨route, cause, first⟩
    exact ⟨_, route, cause, first, rfl⟩
  · rintro ⟨_, route, cause, first, _⟩
    exact ⟨route, cause, first⟩

end RouteTree

section Promotion

variable {options options' : Options} (same : options.childPromotion = options'.childPromotion)
include same

theorem Setter.ofNode_congr : ofNode options = ofNode options' := by
  funext n
  unfold ofNode
  rw [same]

theorem Blueprint.ofTree_congr : ofTree options = ofTree options' := by
  have register : registerNode options = registerNode options' := by
    funext t n
    unfold registerNode
    rw [Setter.ofNode_congr same]
  funext ns tree
  unfold ofTree
  rw [register]

/-- Of the options only the one about values that are passed on matters for what is made. -/
theorem Catalog.ofTree_congr (mixins : MixinTable) (t : RouteTree) :
    ofTree options mixins t = ofTree options' mixins t := by
  unfold ofTree compile Endpoint.ofTree
  rw [Blueprint.ofTree_congr same]

end Promotion

namespace Catalog

theorem refusal?_eq_some_iff {options : Options} {c : Catalog} {err : Error} :
    refusal? options c = some err ↔ options.failOnAliasConflict = true ∧ c.conflicts ≠ [] ∧
      .aliasConflicts c.conflicts = err := by
  unfold refusal?
  cases options.failOnAliasConflict <;> simp

theorem refusal?_eq_none_iff {options : Options} {c : Catalog} :
    refusal? options c = none ↔ (options.failOnAliasConflict = true → c.conflicts = []) := by
  unfold refusal?
  cases options.failOnAliasConflict <;> simp

section Bootstrap

variable {options : Options} {mixins : MixinTable} {routes : RouteMap}

theorem bootstrap_eq_invalidRoute_iff {route : String} {cause : InvalidPattern} :
    (bootstrap options mixins routes).outcome = .error (.invalidRoute route cause) ↔
      options.strictPatterns = true ∧ RouteTree.FirstFlawed routes.entries route cause := by
  rw [outcome_bootstrap, Build.verdict_eq_error_iff, Option.or_eq_some_iff,
    RouteTree.findSome?_refusal?_eq_some_iff, refusal?_eq_some_iff]
  simp

theorem bootstrap_eq_aliasConflicts_iff {conflicts : List AliasConflict} :
    (bootstrap options mixins routes).outcome = .error (.aliasConflicts conflicts) ↔
      (options.strictPatterns = true → ∀ entry ∈ routes.entries, RouteTree.Usable entry) ∧
        options.failOnAliasConflict = true ∧ conflicts ≠ [] ∧
          conflicts = (ofTree options mixins (.grown routes.entries)).conflicts := by
  rw [outcome_bootstrap, Build.verdict_eq_error_iff, Option.or_eq_some_iff,
    RouteTree.findSome?_refusal?_eq_some_iff, RouteTree.findSome?_refusal?_eq_none_iff,
    refusal?_eq_some_iff]
  constructor
  · rintro (⟨_, _, _, _, absurd⟩ | ⟨usable, intolerant, some_conflict, same⟩)
    · cases absurd
    · cases same
      exact ⟨usable, intolerant, some_conflict, rfl⟩
  · rintro ⟨usable, intolerant, some_conflict, rfl⟩
    exact .inr ⟨usable, intolerant, some_conflict, rfl⟩

theorem bootstrap_eq_ok_iff {c : Catalog} :
    (bootstrap options mixins routes).outcome = .ok c ↔
      (options.strictPatterns = true → ∀ entry ∈ routes.entries, RouteTree.Usable entry) ∧
        (options.failOnAliasConflict = true → c.conflicts = []) ∧
          c = ofTree options mixins (.grown routes.entries) := by
  rw [outcome_bootstrap, Build.verdict_eq_ok_iff, Option.or_eq_none_iff,
    RouteTree.findSome?_refusal?_eq_none_iff, refusal?_eq_none_iff, and_assoc]
  constructor
  · rintro ⟨usable, quiet, rfl⟩
    exact ⟨usable, quiet, rfl⟩
  · rintro ⟨usable, quiet, rfl⟩
    exact ⟨usable, quiet, rfl⟩

end Bootstrap

/-- Lenient options always make a catalog. Strict ones make the same one, or are in the way: for the
first route that cannot be used if there is one, and otherwise for the conflicts of that catalog. -/
theorem bootstrap_of_strictness (promotion : Bool) (mixins : MixinTable) (routes : RouteMap) :
    ∃ c, (bootstrap ⟨promotion, false, false⟩ mixins routes).outcome = .ok c ∧
      ∀ intolerant strict : Bool,
        let made := (bootstrap ⟨promotion, intolerant, strict⟩ mixins routes).outcome
        let usable := ∀ entry ∈ routes.entries, RouteTree.Usable entry
        (∀ route cause, made = .error (.invalidRoute route cause) ↔
          strict = true ∧ RouteTree.FirstFlawed routes.entries route cause) ∧
        ((∃ route cause, made = .error (.invalidRoute route cause)) ↔ strict = true ∧ ¬usable) ∧
        (∀ conflicts, made = .error (.aliasConflicts conflicts) ↔
          (strict = true → usable) ∧ intolerant = true ∧ conflicts ≠ [] ∧
            conflicts = c.conflicts) ∧
        ∀ c', made = .ok c' ↔
          (strict = true → usable) ∧ (intolerant = true → c'.conflicts = []) ∧ c' = c := by
  refine ⟨ofTree ⟨promotion, false, false⟩ mixins (.grown routes.entries), ?_, ?_⟩
  · exact bootstrap_eq_ok_iff.2 ⟨nofun, nofun, rfl⟩
  intro intolerant strict made usable
  have same : ofTree ⟨promotion, false, false⟩ mixins (.grown routes.entries) =
      ofTree ⟨promotion, intolerant, strict⟩ mixins (.grown routes.entries) := ofTree_congr rfl _ _
  rw [same]
  refine ⟨fun _ _ => bootstrap_eq_invalidRoute_iff, ?_,
    fun _ => bootstrap_eq_aliasConflicts_iff, fun _ => bootstrap_eq_ok_iff⟩
  constructor
  · rintro ⟨route, cause, blamed⟩
    obtain ⟨by_patterns, first⟩ := bootstrap_eq_invalidRoute_iff.1 blamed
    exact ⟨by_patterns, RouteTree.exists_firstFlawed_iff.1 ⟨route, cause, first⟩⟩
  · rintro ⟨by_patterns, some_flaw⟩
    obtain ⟨route, cause, first⟩ := RouteTree.exists_firstFlawed_iff.2 some_flaw
    exact ⟨route, cause, bootstrap_eq_invalidRoute_iff.2 ⟨by_patterns, first⟩⟩

end Catalog
end RestRoutes
