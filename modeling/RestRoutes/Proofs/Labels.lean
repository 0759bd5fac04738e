import RestRoutes.Endpoint
import RestRoutes.Proofs.Outcome

/-!
Who gets a label. In the table of setters, as among the capabilities of an endpoint, the first to
come keeps the label (`get?_enterAll`, `get?_attachAll`); a table without conflicts gives every
position the setter that was made for it (`setter_of_no_conflict`).
-/
namespace RestRoutes

theorem Dict.get?_eq_find? {α : Type} (d : Dict String α) (k : String) :
    d.get? k = (d.entries.find? (·.1 = k)).map (·.2) := by
  unfold get?
  induction d.entries with
  | nil => rfl
  | cons entry entries ih =>
      obtain ⟨k', v⟩ := entry
      by_cases same : k' = k
      · simp [lookupEntry, same]
      · have differ : compare k k' ≠ .eq := fun h => same (Std.LawfulEqCmp.eq_of_compare h).symm
        simpa [lookupEntry, differ, same] using ih

structure Candidate where
  label : String
  origin : Place
  setter : Setter

namespace AliasTable

def enter (t : AliasTable) (c : Candidate) : AliasTable :=
  (t.register c.label c.origin c.setter).value.1

/-- The conflict that a candidate makes, if its label has another setter. -/
def conflict? (t : AliasTable) (c : Candidate) : Option AliasConflict :=
  match t.entries.get? c.label with
  | none => none
  | some kept =>
    if kept.setter = c.setter then none else some ⟨t.ns, t.resource, c.label, kept.origin, c.origin⟩

theorem conflicts_enter (t : AliasTable) (c : Candidate) :
    (t.enter c).conflicts = t.conflicts ++ (t.conflict? c).toList := by
  unfold enter conflict?
  cases found : t.entries.get? c.label with
  | none => simp [register_of_free _ _ found]
  | some kept =>
      by_cases same : kept.setter = c.setter
      · rw [← same, register_of_same _ found]
        simp
      · simp [register_of_conflict found same, same]

theorem get?_enter (t : AliasTable) (c : Candidate) (label : String) :
    (t.enter c).entries.get? label =
      (t.entries.get? label).or (if label = c.label then some ⟨c.setter, c.origin⟩ else none) := by
  unfold enter
  cases found : t.entries.get? c.label with
  | none =>
      rw [register_of_free _ _ found]
      by_cases here : label = c.label
      · subst here
        simp [Dict.get?_insert_self, found]
      · simp [Dict.get?_insert_of_ne _ _ here, here]
  | some kept =>
      have unchanged : (t.register c.label c.origin c.setter).value.1.entries = t.entries := by
        by_cases same : kept.setter = c.setter
        · rw [← same, register_of_same _ found]
        · simp [register_of_conflict found same]
      rw [unchanged]
      by_cases here : label = c.label
      · subst here
        simp [found]
      · simp [here]

/-- A label belongs to the first that is put forward under it. -/
theorem get?_enterAll (t : AliasTable) (cs : List Candidate) (label : String) :
    (cs.foldl enter t).entries.get? label =
      (t.entries.get? label).or
        ((cs.find? (·.label = label)).map fun c => ⟨c.setter, c.origin⟩) := by
  induction cs generalizing t with
  | nil => simp
  | cons c cs ih =>
      rw [List.foldl_cons, ih, get?_enter, Option.or_assoc]
      by_cases here : c.label = label
      · simp [here]
      · simp [here, Ne.symm here]

theorem conflicts_prefix (t : AliasTable) (cs : List Candidate) :
    t.conflicts <+: (cs.foldl enter t).conflicts := by
  induction cs generalizing t with
  | nil => exact List.prefix_rfl
  | cons c cs ih =>
      refine List.IsPrefix.trans ?_ (ih (t.enter c))
      rw [conflicts_enter]
      exact List.prefix_append _ _

theorem exists_candidate {ns resource label : String} {cs : List Candidate} {entry : AliasEntry}
    (h : (cs.foldl enter (empty ns resource)).entries.get? label = some entry) :
    ∃ c ∈ cs, c.label = label ∧ c.setter = entry.setter := by
  rw [get?_enterAll, empty, Dict.get?_empty, Option.none_or, Option.map_eq_some_iff] at h
  obtain ⟨c, found, rfl⟩ := h
  exact ⟨c, List.mem_of_find?_eq_some found, by simpa using List.find?_some found, rfl⟩

theorem setter_of_no_conflict {t : AliasTable} {cs : List Candidate}
    (h : (cs.foldl enter t).conflicts = []) {c : Candidate} (hc : c ∈ cs) :
    ∃ entry, (cs.foldl enter t).entries.get? c.label = some entry ∧ entry.setter = c.setter := by
  induction cs generalizing t with
  | nil => cases hc
  | cons first cs ih =>
      rcases List.mem_cons.1 hc with rfl | later
      · have quiet : (t.enter c).conflicts = [] :=
          List.prefix_nil.1 (h ▸ conflicts_prefix (t.enter c) cs)
        rw [conflicts_enter] at quiet
        have agrees := (List.append_eq_nil_iff.1 quiet).2
        rw [List.foldl_cons, get?_enterAll, get?_enter]
        cases found : t.entries.get? c.label with
        | none => exact ⟨⟨c.setter, c.origin⟩, by simp, rfl⟩
        | some kept =>
            refine ⟨kept, by simp, ?_⟩
            by_cases same : kept.setter = c.setter
            · exact same
            · simp [conflict?, found, same] at agrees
      · exact ih h later

theorem contains_enterAll (ns resource : String) (cs : List Candidate) (label : String) :
    (cs.foldl enter (empty ns resource)).entries.contains label = true ↔
      ∃ c ∈ cs, c.label = label := by
  rw [Dict.contains, get?_enterAll, empty, Dict.get?_empty, Option.none_or, Option.isSome_map,
    List.find?_isSome]
  simp

theorem exists_conflict?_iff (t : AliasTable) (c : Candidate) (cs : List Candidate)
    (label : String) :
    (∃ x ∈ t.conflict? c, x.label = label) ↔
      c.label = label ∧ ∃ kept, ((c :: cs).foldl enter t).entries.get? label = some kept ∧
        kept.setter ≠ c.setter := by
  rw [List.foldl_cons, get?_enterAll, get?_enter, conflict?]
  by_cases here : c.label = label
  · subst here
    cases t.entries.get? c.label with
    | none => simp
    | some kept => by_cases same : kept.setter = c.setter <;> simp [same]
  · cases t.entries.get? c.label with
    | none => simp [here]
    | some kept => by_cases same : kept.setter = c.setter <;> simp [same, here]

/-- Whether there are conflicts about a label depends on the setter that it ends up with. -/
theorem exists_conflict_iff {t : AliasTable} {cs : List Candidate} {label : String} :
    (∃ x ∈ (cs.foldl enter t).conflicts, x.label = label) ↔
      (∃ x ∈ t.conflicts, x.label = label) ∨ ∃ c ∈ cs, c.label = label ∧
        ∃ kept, (cs.foldl enter t).entries.get? label = some kept ∧ kept.setter ≠ c.setter := by
  induction cs generalizing t with
  | nil => simp
  | cons c cs ih =>
      have first := exists_conflict?_iff t c cs label
      rw [List.foldl_cons] at first ⊢
      rw [ih, conflicts_enter]
      simp only [List.mem_append, Option.mem_toList, or_and_right, exists_or, List.mem_cons,
        exists_eq_left, ← first, or_assoc]
      rfl

theorem exists_conflict_of_empty_iff {ns resource label : String} {cs : List Candidate} :
    (∃ x ∈ (cs.foldl enter (empty ns resource)).conflicts, x.label = label) ↔
      ∃ c ∈ cs, ∃ d ∈ cs, c.label = label ∧ d.label = label ∧ c.setter ≠ d.setter := by
  have none_before : ¬∃ x ∈ (empty ns resource).conflicts, x.label = label := by simp [empty]
  rw [exists_conflict_iff, or_iff_right none_before]
  constructor
  · rintro ⟨d, hd, rfl, kept, hkept, differ⟩
    obtain ⟨c, hc, same, setter⟩ := exists_candidate hkept
    exact ⟨c, hc, d, hd, same, rfl, setter ▸ differ⟩
  · rintro ⟨c, hc, d, hd, rfl, same, differ⟩
    have known := (contains_enterAll ns resource cs c.label).2 ⟨c, hc, rfl⟩
    obtain ⟨kept, hkept⟩ := Option.isSome_iff_exists.1 known
    by_cases first : kept.setter = c.setter
    · exact ⟨d, hd, same, kept, hkept, first ▸ differ⟩
    · exact ⟨c, hc, rfl, kept, hkept, first⟩

end AliasTable

namespace Blueprint

/-- A position is put forward under each of its names, unless it is the resource itself. -/
def candidatesOf (options : Options) (n : Node) : List Candidate :=
  if n.level = 0 then []
  else n.names.map fun name => ⟨camelCase name, ⟨n.component, n.level⟩, .ofNode options n⟩

def candidates (options : Options) (ns : List Node) : List Candidate :=
  ns.flatMap (candidatesOf options)

theorem mem_candidates {options : Options} {ns : List Node} {c : Candidate} :
    c ∈ candidates options ns ↔ ∃ n ∈ ns, n.level ≠ 0 ∧ ∃ name ∈ n.names,
      c = ⟨camelCase name, ⟨n.component, n.level⟩, .ofNode options n⟩ := by
  rw [candidates, List.mem_flatMap]
  refine exists_congr fun n => and_congr_right fun _ => ?_
  unfold candidatesOf
  split <;> simp_all [eq_comm]

theorem value_registerNode (options : Options) (t : AliasTable) (n : Node) :
    (registerNode options t n).value = (candidatesOf options n).foldl AliasTable.enter t := by
  unfold registerNode candidatesOf
  split
  · rfl
  · rw [Logged.value_foldlM, List.foldl_map]
    rfl

theorem setters_ofTree (options : Options) (ns : String) (tree : ResourceTree) :
    (ofTree options ns tree).value.setters =
      (candidates options tree.root.preorder).foldl AliasTable.enter (.empty ns tree.name) := by
  have walk : (ofTree options ns tree).value.setters =
      (tree.root.preorder.foldlM (registerNode options) (.empty ns tree.name)).value := rfl
  rw [walk, Logged.value_foldlM, candidates, List.foldl_flatMap]
  congr 1
  funext t n
  exact value_registerNode options t n

end Blueprint

namespace Endpoint

def attachAll (e : Endpoint) (cs : List (String × Capability)) : Endpoint :=
  cs.foldl (fun e c => (e.attach c.1 c.2).value) e

theorem value_attach (e : Endpoint) (name : String) (c : Capability) :
    (e.attach name c).value =
      if name ∈ reservedNames ∨ (e.capabilities.get? name).isSome then e
      else { e with capabilities := e.capabilities.insert name c } := by
  unfold attach
  by_cases reserved : name ∈ reservedNames
  · rw [if_pos (List.contains_iff_mem.2 reserved), if_pos (.inl reserved)]
    simp
  · rw [if_neg fun h => reserved (List.contains_iff_mem.1 h)]
    cases found : e.capabilities.get? name <;> simp [reserved]

theorem attachAll_append (e : Endpoint) (cs ds : List (String × Capability)) :
    e.attachAll (cs ++ ds) = (e.attachAll cs).attachAll ds := List.foldl_append

theorem get?_attach (e : Endpoint) (c : String × Capability) (name : String) :
    (e.attach c.1 c.2).value.capabilities.get? name =
      (e.capabilities.get? name).or
        (if name ∉ reservedNames ∧ c.1 = name then some c.2 else none) := by
  obtain ⟨label, c⟩ := c
  rw [value_attach]
  by_cases here : label = name
  · subst here
    by_cases reserved : label ∈ reservedNames
    · simp [reserved]
    · cases found : e.capabilities.get? label <;> simp [reserved, found, Dict.get?_insert_self]
  · have other : ∀ d : Dict String Capability, (d.insert label c).get? name = d.get? name :=
      fun d => Dict.get?_insert_of_ne d c (Ne.symm here)
    split <;> simp [here, other]

/-- A name that is not reserved belongs to the first capability that is offered under it. -/
theorem get?_attachAll (e : Endpoint) (cs : List (String × Capability)) (name : String) :
    (e.attachAll cs).capabilities.get? name =
      (e.capabilities.get? name).or
        (if name ∈ reservedNames then none else (cs.find? (·.1 = name)).map (·.2)) := by
  unfold attachAll
  induction cs generalizing e with
  | nil => simp
  | cons c cs ih =>
      rw [List.foldl_cons, ih, get?_attach, Option.or_assoc]
      by_cases reserved : name ∈ reservedNames
      · simp [reserved]
      · by_cases here : c.1 = name <;> simp [reserved, here]

theorem frame_attach (e : Endpoint) (name : String) (c : Capability) :
    (e.attach name c).value.ns = e.ns ∧ (e.attach name c).value.resource = e.resource ∧
      (e.attach name c).value.levels = e.levels ∧
      (e.attach name c).value.conflicts = e.conflicts := by
  rw [value_attach]
  split <;> exact ⟨rfl, rfl, rfl, rfl⟩

theorem frame_attachAll (e : Endpoint) (cs : List (String × Capability)) :
    (e.attachAll cs).ns = e.ns ∧ (e.attachAll cs).resource = e.resource ∧
      (e.attachAll cs).levels = e.levels ∧ (e.attachAll cs).conflicts = e.conflicts := by
  unfold attachAll
  induction cs generalizing e with
  | nil => exact ⟨rfl, rfl, rfl, rfl⟩
  | cons c cs ih =>
      obtain ⟨ns, resource, levels, conflicts⟩ := ih (e.attach c.1 c.2).value
      obtain ⟨ns', resource', levels', conflicts'⟩ := frame_attach e c.1 c.2
      exact ⟨ns.trans ns', resource.trans resource', levels.trans levels',
        conflicts.trans conflicts'⟩

/-- The endpoint of a blueprint with some query operations. Setters are offered first. -/
def assembled (b : Blueprint) (ms : List Mixin) : Endpoint :=
  attachAll ⟨b.ns, b.resource, b.levels, .empty, b.conflicts⟩
    (b.setters.entries.entries.map (fun entry => (entry.1, .path entry.2.setter)) ++
      ms.map fun m => (m.method, .mixin m))

theorem value_ofBlueprint (b : Blueprint) (mixins : MixinTable) :
    (ofBlueprint b mixins).value = assembled b (b.getArgs.keys.filterMap mixins.get?) := by
  rw [assembled, attachAll_append, attachAll, attachAll, List.foldl_map, List.foldl_map]
  simp only [ofBlueprint, Logged.value_bind, Logged.value_foldlM]
  rfl

theorem attachMixins_assembled (b : Blueprint) (ms extra : List Mixin) :
    (extra.foldlM attachMixin (assembled b ms)).value = assembled b (ms ++ extra) := by
  rw [Logged.value_foldlM, assembled, assembled, List.map_append, ← List.append_assoc,
    attachAll_append _ (_ ++ _)]
  generalize attachAll _ _ = e
  rw [attachAll, List.foldl_map]
  rfl

theorem frame_assembled (b : Blueprint) (ms : List Mixin) :
    (assembled b ms).ns = b.ns ∧ (assembled b ms).resource = b.resource ∧
      (assembled b ms).levels = b.levels ∧ (assembled b ms).conflicts = b.conflicts :=
  frame_attachAll _ _

/-- An endpoint fills slots just as its blueprint says, under names that are not reserved. -/
theorem get?_assembled_eq_path_iff {b : Blueprint} {ms : List Mixin} {name : String}
    {setter : Setter} :
    (assembled b ms).capabilities.get? name = some (.path setter) ↔
      name ∉ reservedNames ∧ ∃ entry, b.setters.entries.get? name = some entry ∧
        entry.setter = setter := by
  rw [assembled, get?_attachAll, Dict.get?_empty, Option.none_or, List.find?_append, List.find?_map,
    Dict.get?_eq_find?]
  have same : ((fun c : String × Capability => decide (c.1 = name)) ∘
      fun entry : String × AliasEntry => (entry.1, .path entry.2.setter)) =
        fun entry => decide (entry.1 = name) := rfl
  rw [same]
  by_cases reserved : name ∈ reservedNames
  · simp [reserved]
  · cases b.setters.entries.entries.find? (·.1 = name) with
    | some entry => simp [reserved]
    | none =>
        -- What is left are query operations.
        simp [reserved]

def ofTree (options : Options) (ns : String) (tree : ResourceTree) (ms : List Mixin) : Endpoint :=
  assembled (Blueprint.ofTree options ns tree).value ms

section OfTree

variable {options : Options} {ns : String} {tree : ResourceTree} {ms : List Mixin}

theorem ns_ofTree : (ofTree options ns tree ms).ns = ns := (frame_assembled _ ms).1

theorem resource_ofTree : (ofTree options ns tree ms).resource = tree.name :=
  (frame_assembled _ ms).2.1

theorem levels_ofTree : (ofTree options ns tree ms).levels = .ofNodes tree.root.preorder :=
  (frame_assembled _ ms).2.2.1

theorem conflicts_ofTree : (ofTree options ns tree ms).conflicts =
    ((Blueprint.candidates options tree.root.preorder).foldl AliasTable.enter
      (.empty ns tree.name)).conflicts := by
  rw [← Blueprint.setters_ofTree]
  exact (frame_assembled _ ms).2.2.2

theorem exists_node_of_path {label : String} {setter : Setter}
    (h : (ofTree options ns tree ms).capabilities.get? label =
      some (.path setter)) :
    ∃ n ∈ tree.root.preorder, n.level ≠ 0 ∧ setter = .ofNode options n ∧
      ∃ name ∈ n.names, camelCase name = label := by
  obtain ⟨_, entry, hentry, rfl⟩ := get?_assembled_eq_path_iff.1 h
  rw [Blueprint.setters_ofTree] at hentry
  obtain ⟨c, hc, hlabel, hsetter⟩ := AliasTable.exists_candidate hentry
  obtain ⟨n, hn, below, name, hname, rfl⟩ := Blueprint.mem_candidates.1 hc
  exact ⟨n, hn, below, hsetter.symm, name, hname, hlabel⟩

theorem path_of_node
    (quiet : (ofTree options ns tree ms).conflicts = []) {n : Node}
    (hn : n ∈ tree.root.preorder) (below : n.level ≠ 0) {name : String} (hname : name ∈ n.names)
    (free : camelCase name ∉ reservedNames) :
    (ofTree options ns tree ms).capabilities.get? (camelCase name) =
      some (.path (.ofNode options n)) := by
  refine get?_assembled_eq_path_iff.2 ⟨free, ?_⟩
  rw [conflicts_ofTree] at quiet
  rw [Blueprint.setters_ofTree]
  exact AliasTable.setter_of_no_conflict quiet
    (Blueprint.mem_candidates.2 ⟨n, hn, below, name, hname, rfl⟩)

end OfTree

end Endpoint
end RestRoutes
