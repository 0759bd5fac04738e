import RestRoutes.Proofs.Path.Gaps
import RestRoutes.Proofs.Tree.Branches

/-!
What the namespace of a route is taken out of. It is cut where it first stands between slashes, and
that need not be at the front: what stands around it is then put together (`withRoute_components`).
-/
namespace RestRoutes

theorem cutAt?_eq_none_iff_absent {separator cs : List Char} (nonempty : separator ≠ []) :
    cutAt? separator cs = none ↔ ¬separator <:+: cs := by
  induction cs with
  | nil => simp [cutAt?, nonempty]
  | cons c cs ih =>
      rw [cutAt?, List.infix_cons_iff, ← List.isPrefixOf_iff_prefix]
      split
      · next here => simp [here]
      · next other => simp [other, ih]

theorem cutAt?_of_prefix {separator : List Char} (nonempty : separator ≠ []) (rest : List Char) :
    cutAt? separator (separator ++ rest) = some ([], rest) := by
  obtain ⟨c, cs, rfl⟩ := List.exists_cons_of_ne_nil nonempty
  simp [cutAt?]

theorem not_prefix_of_cutAt? {separator cs before after : List Char}
    (h : cutAt? separator cs = some (before, after)) {k : Nat} (hk : k < before.length) :
    ¬separator <+: cs.drop k := by
  induction cs generalizing before k with
  | nil => cases h
  | cons c cs ih =>
      unfold cutAt? at h
      split at h
      · cases h
        cases hk
      · next other =>
          obtain ⟨⟨before', after'⟩, below, same⟩ := Option.map_eq_some_iff.1 h
          cases same
          cases k with
          | zero => rwa [List.isPrefixOf_iff_prefix] at other
          | succ k => exact ih below (Nat.lt_of_succ_lt_succ hk)

theorem dropEnding_cases (ending cs : List Char) :
    dropEnding ending cs = cs ∨ cs = dropEnding ending cs ++ ending := by
  unfold dropEnding
  split
  · next ends =>
      exact .inr (List.suffix_iff_eq_append.1 (List.isSuffixOf_iff_suffix.1 ends)).symm
  · exact .inl rfl

namespace Path

open Group.Token (read? Ends NoOpener)

theorem piece_append_of_ends {rest : List Char} (ends : Ends rest) (cs : List Char) :
    piece (cs ++ rest) = piece cs ∧ afterPiece (cs ++ rest) = afterPiece cs ++ rest := by
  have ends' : Ends (afterPiece cs ++ rest) := by
    rcases afterPiece_cases cs with none_left | ⟨tail, slash⟩
    · rwa [none_left]
    · exact .inr ⟨tail ++ rest, by rw [slash, List.cons_append]⟩
  have cut := piece_append (slash_not_mem_piece cs) ends'
  rwa [← List.append_assoc, piece_append_afterPiece] at cut

/-- No group that opens in the first text closes in the second, with a slash between them. -/
def Apart (cs after : List Char) : Prop :=
  ∀ tail, tail <:+ cs → read? (tail ++ '/' :: after) =
    (read? tail).map fun (token, rest) => (token, rest ++ '/' :: after)

namespace Apart

variable {cs after : List Char}

theorem of_suffix {tail : List Char} (h : Apart cs after) (part : tail <:+ cs) :
    Apart tail after := fun _ smaller => h _ (smaller.trans part)

theorem of_noOpener (h : NoOpener cs) : Apart cs after := by
  intro tail part
  have closed : NoOpener tail := fun opener listed within =>
    h opener listed (within.trans part.isInfix)
  have alone := Group.Token.read?_of_noOpener closed (.inl rfl)
  rw [List.append_nil] at alone
  rw [alone, Group.Token.read?_of_noOpener closed (.inr ⟨after, rfl⟩)]
  rfl

theorem pattern?_append (open_still : ')' ∉ after) (cs : List Char) :
    Group.Token.pattern? (cs ++ '/' :: after) =
      (Group.Token.pattern? cs).map fun (pattern, rest) => (pattern, rest ++ '/' :: after) := by
  induction cs with
  | nil =>
      have open_here : ')' ∉ '/' :: after := by simp [open_still]
      have none_closes := Group.Token.pattern?_append open_here []
      rwa [List.append_nil] at none_closes
  | cons c cs ih =>
      by_cases closes : c = ')'
      · subst closes
        rw [List.cons_append, Group.Token.pattern?_close, Group.Token.pattern?_close]
        rcases cs with _ | ⟨c, _ | ⟨c', cs⟩⟩ <;> grind
      · have single : ')' ∉ [c] := by simpa using Ne.symm closes
        rw [← List.singleton_append, List.append_assoc, Group.Token.pattern?_append single, ih,
          Group.Token.pattern?_append single, Option.map_map, Option.map_map]
        rfl

/-- A group needs a parenthesis to close with. -/
theorem of_not_mem (open_still : ')' ∉ after) : Apart cs after := by
  intro tail _
  apply Option.ext
  rintro ⟨token, rest⟩
  rw [Group.Token.read?_eq_some_iff, Option.map_eq_some_iff]
  constructor
  · rintro ⟨listed, named, name, ends, behind, text, closed⟩
    rw [List.append_cons token.name, ← List.append_assoc] at text
    rcases List.append_eq_append_iff.1 text with ⟨more, _, beyond⟩ | ⟨more, within, rfl⟩
    · have closes : ')' ∈ '/' :: after := by
        rw [beyond, Group.Token.append_of_pattern? closed]
        simp
      simp [open_still] at closes
    · rw [pattern?_append open_still, Option.map_eq_some_iff] at closed
      obtain ⟨⟨pattern, rest'⟩, closed, same⟩ := closed
      cases same
      refine ⟨(token, rest'), Group.Token.read?_eq_some_iff.2
        ⟨listed, named, name, ends, more, ?_, closed⟩, rfl⟩
      simp [within]
  · rintro ⟨⟨token', rest'⟩, reads, same⟩
    cases same
    obtain ⟨listed, named, name, ends, behind, rfl, closed⟩ := Group.Token.read?_eq_some_iff.1 reads
    refine ⟨listed, named, name, ends, behind ++ '/' :: after, by simp, ?_⟩
    rw [pattern?_append open_still, closed]
    rfl

theorem lastGroup?_eq (h : Apart cs after) :
    lastGroup? (cs ++ '/' :: after) =
      (lastGroup? cs).map fun (before, token, rest) => (before, token, rest ++ '/' :: after) := by
  induction cs with
  | nil => simp [lastGroup?]
  | cons c cs ih =>
      have here := h _ (List.suffix_refl _)
      rw [List.cons_append] at here ⊢
      unfold lastGroup?
      split
      · rfl
      · rw [ih (h.of_suffix (List.suffix_cons c cs)), here]
        cases lastGroup? cs with
        | none => simp [Option.map_map, Function.comp_def]
        | some found => rfl

end Apart

theorem afterPiece_suffix (cs : List Char) : afterPiece cs <:+ cs := List.dropWhile_suffix _

theorem components_append {cs after : List Char} (h : Apart cs after) :
    components (cs ++ '/' :: after) = components cs ++ components after := by
  induction 0, cs using induct_pieces with
  | nil i => rw [List.nil_append, components_slash, components_nil, List.nil_append]
  | group i cs before token rest found ih =>
      have whole := h.lastGroup?_eq
      rw [found] at whole
      obtain ⟨piece_eq, after_eq⟩ := piece_append_of_ends (.inr ⟨after, rfl⟩) rest
      have part : afterPiece rest <:+ cs := by
        rw [text_of_lastGroup? found]
        exact (afterPiece_suffix rest).trans (List.suffix_append _ _)
      rw [components_of_group whole, components_of_group found, piece_eq, after_eq,
        ih (h.of_suffix part), List.cons_append]
  | plain i cs nonempty found ih =>
      have whole := h.lastGroup?_eq
      rw [found] at whole
      obtain ⟨piece_eq, after_eq⟩ := piece_append_of_ends (.inr ⟨after, rfl⟩) cs
      have part : (afterPiece cs).tail <:+ cs :=
        (List.tail_suffix _).trans (afterPiece_suffix cs)
      rw [components_of_plain whole, components_of_plain found, piece_eq, after_eq,
        List.append_assoc]
      congr 1
      cases rest : afterPiece cs with
      | nil => rw [List.nil_append, List.tail_cons, List.tail_nil, components_nil, List.nil_append]
      | cons c tail =>
          rw [rest, List.tail_cons] at ih part
          exact ih (h.of_suffix part)

theorem filter_flatten_components (cs : List Char) :
    (components cs).flatten.filter (· ≠ '/') = cs.filter (· ≠ '/') :=
  (joined_components cs).filter_flatten

theorem mem_split {text : String} {path : List Char} :
    text ∈ split (String.ofList path) ↔ ∃ c ∈ components path, String.ofList c = text := by
  rw [split, String.toList_ofList, List.mem_map]

theorem split_injective {cs cs' : List Char}
    (h : split (String.ofList cs) = split (String.ofList cs')) :
    components cs = components cs' := by
  simp only [split, String.toList_ofList] at h
  exact (List.map_inj_right fun _ _ => String.ofList_inj.1).1 h

end Path

namespace RouteTree

def written (route : String) : List Char := dropEnding ['/', '?'] route.toList

def frame (ns : String) : List Char := '/' :: ns.toList ++ ['/']

/-- A route without its namespace in front, and without an optional slash at its end. -/
def unprefixed (route ns : String) : String :=
  String.ofList (if frame ns <+: written route then (written route).drop (frame ns).length
    else written route)

/-- The namespace stands in a route, but not in front. -/
def Buried (route ns : String) : Prop := frame ns <:+: written route ∧ ¬frame ns <+: written route

instance (route ns : String) : Decidable (Buried route ns) :=
  inferInstanceAs (Decidable (_ ∧ _))

theorem frame_ne_nil (ns : String) : frame ns ≠ [] := by simp [frame]

section Stripped

variable {route : String} {d : RouteDefinition}

theorem componentsOf_of_folds (folds : componentsOf route d ≠ []) :
    componentsOf route d =
      match cutAt? (frame d.ns) (written route) with
      | some (before, after) => Path.split (String.ofList (before ++ after))
      | none => Path.split (String.ofList (written route)) := by
  unfold componentsOf relative? at folds ⊢
  split at folds
  · exact absurd rfl folds
  · next path found =>
      simp only at found
      split at found
      · cases found
      · rw [frame, written]
        split at found <;> cases found <;> simp only [*]

theorem componentsOf_of_not_buried (folds : componentsOf route d ≠ [])
    (front : ¬Buried route d.ns) : componentsOf route d = Path.split (unprefixed route d.ns) := by
  rw [componentsOf_of_folds folds, unprefixed]
  by_cases here : frame d.ns <+: written route
  · obtain ⟨rest, same⟩ := here
    rw [← same, cutAt?_of_prefix (frame_ne_nil _), if_pos (List.prefix_append _ _), List.drop_left]
    rfl
  · have nowhere : ¬frame d.ns <:+: written route := fun within => front ⟨within, here⟩
    rw [(cutAt?_eq_none_iff_absent (frame_ne_nil _)).2 nowhere, if_neg here]

theorem componentsOf_of_buried (folds : componentsOf route d ≠ []) (buried : Buried route d.ns) :
    ∃ before after, before ≠ [] ∧ written route = before ++ frame d.ns ++ after ∧
      (∀ k < before.length, ¬frame d.ns <+: (written route).drop k) ∧
      componentsOf route d = Path.split (String.ofList (before ++ after)) := by
  rw [componentsOf_of_folds folds]
  cases cut : cutAt? (frame d.ns) (written route) with
  | none => exact absurd buried.1 ((cutAt?_eq_none_iff_absent (frame_ne_nil _)).1 cut)
  | some parts =>
      obtain ⟨before, after⟩ := parts
      refine ⟨before, after, ?_, append_of_cutAt? cut, fun k => not_prefix_of_cutAt? cut, rfl⟩
      rintro rfl
      exact buried.2 ⟨after, (append_of_cutAt? cut).symm⟩

theorem componentsOf_ne_of_buried (folds : componentsOf route d ≠ [])
    (buried : Buried route d.ns) (some_text : ∃ c ∈ d.ns.toList, c ≠ '/') :
    componentsOf route d ≠ Path.split (unprefixed route d.ns) := by
  obtain ⟨before, after, _, text, _, parts⟩ := componentsOf_of_buried folds buried
  rw [parts, unprefixed, if_neg buried.2]
  intro same
  have letters := congrArg (fun cs => (cs.flatten.filter (· ≠ '/')).length)
    (Path.split_injective same)
  simp only [Path.filter_flatten_components] at letters
  rw [text, List.filter_append, List.filter_append, List.filter_append] at letters
  obtain ⟨c, hc, plain⟩ := some_text
  have kept : c ∈ (frame d.ns).filter (· ≠ '/') := by
    rw [List.mem_filter]
    exact ⟨by simp [frame, hc], by simpa using plain⟩
  have positive := List.length_pos_of_mem kept
  simp only [List.length_append] at letters
  omega

theorem mem_split_of_mem_written {text : String}
    (h : text ∈ Path.split (String.ofList (written route))) : text ∈ Path.split route := by
  rcases dropEnding_cases ['/', '?'] route.toList with same | marked
  · rwa [written, same, String.ofList_toList] at h
  · obtain ⟨c, hc, rfl⟩ := Path.mem_split.1 h
    rw [← String.ofList_toList (s := route), marked]
    refine Path.mem_split.2 ⟨c, ?_, rfl⟩
    rw [Path.components_append (.of_not_mem (by simp))]
    exact List.mem_append_left _ hc

/-- A namespace that opens no group goes without changing what is behind it. -/
theorem mem_split_of_mem_unprefixed {ns text : String}
    (closed : frame ns <+: written route → Group.Token.NoOpener ns.toList)
    (h : text ∈ Path.split (unprefixed route ns)) : text ∈ Path.split route := by
  apply mem_split_of_mem_written
  unfold unprefixed at h
  split at h
  · next here =>
      obtain ⟨rest, same⟩ := here
      rw [← same, List.drop_left] at h
      obtain ⟨c, hc, rfl⟩ := Path.mem_split.1 h
      refine Path.mem_split.2 ⟨c, ?_, rfl⟩
      have spelled : frame ns ++ rest = '/' :: (ns.toList ++ '/' :: rest) := by simp [frame]
      rw [← same, spelled, Path.components_slash,
        Path.components_append (.of_noOpener (closed ⟨rest, same⟩))]
      exact List.mem_append_right _ hc
  · exact h

end Stripped

theorem withRoute_of_folds {options : Options} (lenient : options.strictPatterns = false)
    (t : RouteTree) {route : String} {d : RouteDefinition} (folds : componentsOf route d ≠ []) :
    ∃ text rest, componentsOf route d = text :: rest ∧
      (t.withRoute options route d).outcome =
        .ok (t.insert d (.lenient text) (rest.map .lenient)) := by
  have outcome := outcome_withRoute options t (route, d)
  rw [refusal?_lenient lenient, Build.verdict_none, add] at outcome
  cases parts : componentsOf route d with
  | nil => exact absurd parts folds
  | cons text rest =>
      rw [parts] at outcome
      exact ⟨text, rest, rfl, outcome⟩

/-- The components that a route is folded in by are those of the route without its namespace,
unless the namespace stands in the route but not in front. It is cut out even then, and what stood
before and behind it is one text. -/
theorem withRoute_components {options : Options} (lenient : options.strictPatterns = false)
    (t : RouteTree) {route : String} {d : RouteDefinition} (folds : componentsOf route d ≠ []) :
    (∃ text rest, componentsOf route d = text :: rest ∧
      (t.withRoute options route d).outcome =
        .ok (t.insert d (.lenient text) (rest.map .lenient))) ∧
    (¬Buried route d.ns → componentsOf route d = Path.split (unprefixed route d.ns) ∧
      ((frame d.ns <+: written route → Group.Token.NoOpener d.ns.toList) →
        ∀ text ∈ componentsOf route d, text ∈ Path.split route)) ∧
    (Buried route d.ns → ∃ before after, before ≠ [] ∧
      written route = before ++ frame d.ns ++ after ∧
      (∀ k < before.length, ¬frame d.ns <+: (written route).drop k) ∧
      componentsOf route d = Path.split (String.ofList (before ++ after))) ∧
    ((∃ c ∈ d.ns.toList, c ≠ '/') →
      (componentsOf route d = Path.split (unprefixed route d.ns) ↔ ¬Buried route d.ns)) := by
  refine ⟨withRoute_of_folds lenient t folds, fun front => ?_, componentsOf_of_buried folds,
    fun some_text => ⟨fun same buried => ?_, componentsOf_of_not_buried folds⟩⟩
  · have parts := componentsOf_of_not_buried folds front
    exact ⟨parts, fun closed text h => mem_split_of_mem_unprefixed closed (parts ▸ h)⟩
  · exact componentsOf_ne_of_buried folds buried some_text same

/-- The namespace of posts is in front, and an optional slash at the end. -/
theorem withRoute_components_posts :
    let route := "/wp/v2/posts/(?P<id>[0-9]+)/?"
    let d : RouteDefinition := ⟨"wp/v2", [.get], []⟩
    componentsOf route d ≠ [] ∧ ¬Buried route d.ns ∧
      componentsOf route d = Path.split "posts/(?P<id>[0-9]+)" ∧
      ∀ text ∈ componentsOf route d, text ∈ Path.split route := by
  intro route d
  have folds : componentsOf route d ≠ [] := by decide +kernel
  have front : ¬Buried route d.ns := by decide +kernel
  have lenient : ({} : Options).strictPatterns = false := rfl
  have whole := (withRoute_components lenient empty folds).2.1 front
  have bare : unprefixed route d.ns = "posts/(?P<id>[0-9]+)" := by decide +kernel
  rw [bare] at whole
  exact ⟨folds, front, whole.1, whole.2 fun _ => by decide +kernel⟩

/-- The namespace is behind another component, which is then put before the resource. -/
theorem namespace_cut_out :
    let route := "/foo/wp/v2/posts"
    let d : RouteDefinition := ⟨"wp/v2", [.get], []⟩
    ¬frame d.ns <+: written route ∧ componentsOf route d = ["fooposts"] ∧
      Path.split (unprefixed route d.ns) = ["foo", "wp", "v2", "posts"] ∧
      "fooposts" ∉ Path.split route := by
  decide +kernel

end RouteTree
end RestRoutes
