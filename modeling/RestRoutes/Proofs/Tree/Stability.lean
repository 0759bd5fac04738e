import RestRoutes.Proofs.Isolation
import RestRoutes.Proofs.Reordered
import RestRoutes.Proofs.Tree.Invariant

/-!
What one more route does to a tree. A position that is there stays where it is and only gains names,
methods and children, and other resources are left alone; a route that has been folded in before
gains nothing at all, however many others came in between (`RouteTree.folding_keeps_and_absorbs`).
-/
namespace RestRoutes

namespace Node

structure Kept (n m : Node) : Prop where
  component_eq : m.component = n.component
  key_eq : m.key = n.key
  level_eq : m.level = n.level
  validator_eq : m.validator = n.validator
  names : n.names <+: m.names
  children : n.children.map key <+: m.children.map key
  methods : ∀ s, n.methods = some s →
    ∃ s', m.methods = some s' ∧ ∀ x, s.contains x = true → s'.contains x = true

theorem Kept.refl (n : Node) : n.Kept n where
  component_eq := rfl
  key_eq := rfl
  level_eq := rfl
  validator_eq := rfl
  names := List.prefix_rfl
  children := List.prefix_rfl
  methods s hs := ⟨s, hs, fun _ h => h⟩

theorem Kept.trans {n m l : Node} (h : n.Kept m) (h' : m.Kept l) : n.Kept l where
  component_eq := h'.component_eq.trans h.component_eq
  key_eq := h'.key_eq.trans h.key_eq
  level_eq := h'.level_eq.trans h.level_eq
  validator_eq := h'.validator_eq.trans h.validator_eq
  names := h.names.trans h'.names
  children := h.children.trans h'.children
  methods s hs := by
    obtain ⟨s', hs', sub⟩ := h.methods s hs
    obtain ⟨s'', hs'', sub'⟩ := h'.methods s' hs'
    exact ⟨s'', hs'', fun x hx => sub' x (sub x hx)⟩

theorem names_prefix_receive (n : Node) (a : Arrival) : n.names <+: (n.receive a).names := by
  rw [names_receive, meet]
  split
  · exact List.prefix_rfl
  · exact List.prefix_append _ _

theorem keys_prefix_receive (n : Node) (a : Arrival) :
    n.children.map key <+: (n.receive a).children.map key := by
  cases below : a.below with
  | nil =>
      exact ⟨[], by rw [children_receive_of_end below, List.append_nil]⟩
  | cons c rest =>
      have made : (vacant c (n.level + 1)).key = c.segment.key := rfl
      rw [children_receive below, map_key_updateFirst made fun m => key_receive m _]
      split
      · exact List.prefix_rfl
      · exact List.prefix_append _ _

theorem kept_receive {n : Node} {a : Arrival} (accepts : a.component.validator = n.validator) :
    n.Kept (n.receive a) where
  component_eq := component_receive n a
  key_eq := key_receive n a
  level_eq := level_receive n a
  validator_eq := (validator_receive n a).trans accepts
  names := names_prefix_receive n a
  children := keys_prefix_receive n a
  methods s hs := by
    rw [methods_receive, hs]
    split
    · refine ⟨_, rfl, fun x hx => ?_⟩
      rw [Option.getD_some, MethodSet.contains_union, hx, Bool.true_or]
    · exact ⟨s, rfl, fun _ hx => hx⟩

theorem grow_append (level : Nat) (o : Option Node) (as bs : List Arrival) :
    grow level o (as ++ bs) = grow level (grow level o as) bs :=
  List.foldl_append

theorem exists_kept_grow {n : Node} (level : Nat) {as : List Arrival}
    (accept : ∀ a ∈ as, a.component.validator = n.validator) :
    ∃ m, grow level (some n) as = some m ∧ n.Kept m := by
  induction as generalizing n with
  | nil => exact ⟨n, rfl, .refl n⟩
  | cons a as ih =>
      obtain ⟨first, rest⟩ := List.forall_mem_cons.1 accept
      have kept := kept_receive first
      obtain ⟨m, grown, kept'⟩ := ih fun b hb => (rest b hb).trans kept.validator_eq.symm
      exact ⟨m, grown, kept.trans kept'⟩

/-! Routes that come again -/

/-- A position has nothing to learn from a route that comes to it. -/
structure Settled (n : Node) (a : Arrival) : Prop where
  called : a.component.segment.label ∈ n.names
  accepts : a.component.validator = n.validator
  methods : a.below = [] → ∃ s, n.methods = some s ∧ s.union (.ofList a.methods) = s

theorem meet_of_settled {n : Node} {a : Arrival} (h : n.Settled a) : n.meet a.component = n := by
  simp only [meet, List.contains_iff_mem.2 h.called, if_true, h.accepts]
  cases n
  rfl

theorem updateFirst_of_fixed {k : MergeKey} (new : Node) {c : Node} {f : Node → Node}
    {ns : List Node} (found : ns.find? (·.key = k) = some c) (fixed : f c = c) :
    updateFirst k new f ns = ns := by
  induction ns with
  | nil => cases found
  | cons n ns ih =>
      by_cases here : n.key = k
      · have same : n = c := by simpa [here] using found
        rw [updateFirst, if_pos here, same, fixed]
      · rw [updateFirst, if_neg here, ih (by simpa [here] using found)]

theorem children?_of_child? {n c : Node} {k : MergeKey} (h : n.child? k = some c) :
    n.children? = some n.children := by
  unfold children
  cases stored : n.children? with
  | none => simp [child?, children, stored] at h
  | some cs => rfl

theorem receive_of_settled {n : Node} {a : Arrival}
    (h : ∀ ks b, a.follow? ks = some b → ∃ m, n.at? ks = some m ∧ m.Settled b) :
    n.receive a = n := by
  obtain ⟨component, below, methods⟩ := a
  have here : n.Settled ⟨component, below, methods⟩ := by
    obtain ⟨m, hm, settled⟩ := h [] _ rfl
    cases hm
    exact settled
  induction below generalizing n component with
  | nil =>
      obtain ⟨s, hs, covered⟩ := here.methods rfl
      rw [receive, absorb, meet_of_settled here, finish, hs, Option.getD_some, covered, ← hs]
      cases n
      rfl
  | cons next rest ih =>
      have step : ∀ ks,
          Arrival.follow? (next.segment.key :: ks) ⟨component, next :: rest, methods⟩ =
            Arrival.follow? ks ⟨next, rest, methods⟩ := by
        intro ks
        simp [Arrival.follow?, Arrival.step?]
      obtain ⟨c, hc, settled⟩ := h [next.segment.key] _ (step [])
      have child : n.child? next.segment.key = some c := by simpa [at?] using hc
      have fixed : c.receive ⟨next, rest, methods⟩ = c := by
        refine ih next (fun ks b followed => ?_) settled
        obtain ⟨m, hm, holds⟩ := h (next.segment.key :: ks) b ((step ks).trans followed)
        rw [at?, child, Option.bind_some] at hm
        exact ⟨m, hm, holds⟩
      rw [receive, absorb, meet_of_settled here]
      have same := updateFirst_of_fixed (vacant next (n.level + 1)) child fixed
      rw [same, ← children?_of_child? child]
      cases n
      rfl

theorem Reflects.settled {n : Node} {level : Nat} {as : List Arrival} {k : MergeKey}
    (h : n.Reflects level as)
    (shared : ∀ a ∈ as, ∃ text, a.component = .lenient text ∧ (Segment.classify text).key = k)
    {a : Arrival} (ha : a ∈ as) : n.Settled a where
  called := (h.mem_names _).2 ⟨a, ha, rfl⟩
  accepts := by
    rw [h.validator_of_shared shared, validator_of_mem shared ha]
  methods ends := by
    have some_end : as.all (!·.below.isEmpty) = false := by
      rw [List.all_eq_false]
      exact ⟨a, ha, by simp [ends]⟩
    refine ⟨_, by rw [h.methods_eq, endMethods, some_end]; rfl, ?_⟩
    rw [MethodSet.union_ofList]
    refine MethodSet.ofList_congr fun m => ?_
    rw [List.mem_append, or_iff_left_iff_imp]
    intro hm
    exact List.mem_flatMap.2 ⟨a, List.mem_filter.2 ⟨ha, by simp [ends]⟩, hm⟩

end Node

theorem Dict.insert_of_get? {κ α : Type} [Ord κ] [Std.TransOrd κ] [Std.LawfulEqOrd κ]
    {d : Dict κ α} {k : κ} {v : α} (h : d.get? k = some v) : d.insert k v = d := by
  apply ext_get?
  intro k'
  by_cases same : k' = k
  · rw [same, get?_insert_self, h]
  · rw [get?_insert_of_ne _ _ same]

theorem Dict.addAll_of_contains {d : Dict String Unit} {ks : List String}
    (h : ∀ k ∈ ks, d.contains k = true) : d.addAll ks = d := by
  apply eq_of_contains
  intro k
  rw [contains_addAll]
  exact ⟨fun held => held.elim id (h k), .inl⟩

structure ResourceTree.Kept (t t' : ResourceTree) : Prop where
  name_eq : t'.name = t.name
  getArgs : ∀ arg, t.getArgs.contains arg = true → t'.getArgs.contains arg = true
  positions : ∀ ks, ∀ n ∈ t.root.nodesAt ks, ∃ n', t'.root.nodesAt ks = [n'] ∧ n.Kept n'

namespace RouteTree

variable {entries more : List (String × RouteDefinition)} {ns name : String}
  {tree tree' : ResourceTree}

theorem branches_append : branches ns name (entries ++ more) =
    branches ns name entries ++ branches ns name more :=
  List.filterMap_append

theorem arrivalsAt_append (bs bs' : List Branch) (ks : List MergeKey) :
    arrivalsAt name (bs ++ bs') ks = arrivalsAt name bs ks ++ arrivalsAt name bs' ks := by
  rw [arrivalsAt, List.map_append, List.filterMap_append]
  rfl

theorem exists_kept_at? (found : (grown entries).resource? ns name = some tree)
    (found' : (grown (entries ++ more)).resource? ns name = some tree') {ks : List MergeKey}
    {n : Node} (hn : tree.root.at? ks = some n) :
    ∃ n', tree'.root.at? ks = some n' ∧ n.Kept n' := by
  have before := at?_root found ks
  have after := at?_root found' ks
  obtain ⟨k, shared⟩ := exists_key_of_arrivalsAt name (branches ns name (entries ++ more)) ks
  rw [branches_append, arrivalsAt_append] at after shared
  rw [Node.grow_append, ← before, hn] at after
  rw [after]
  apply Node.exists_kept_grow
  intro a ha
  rw [Node.validator_of_mem shared (List.mem_append_right _ ha)]
  exact ((reflects_of_at? found hn).validator_of_shared fun b hb =>
    shared b (List.mem_append_left _ hb)).symm

theorem kept_of_append (found : (grown entries).resource? ns name = some tree)
    (found' : (grown (entries ++ more)).resource? ns name = some tree') : tree.Kept tree' where
  name_eq := (name_of_resource? found').trans (name_of_resource? found).symm
  getArgs arg held := by
    rw [resource?_grown] at found found'
    rw [ResourceTree.getArgs_foldl_graft found] at held
    rw [ResourceTree.getArgs_foldl_graft found', branches_append]
    rcases held with ⟨_, none_before, _⟩ | ⟨b, hb, takes⟩
    · cases none_before
    · exact .inr ⟨b, List.mem_append_left _ hb, takes⟩
  positions ks n hn := by
    rw [(distinct_root found).nodesAt_eq_toList, Option.mem_toList] at hn
    obtain ⟨n', hn', kept⟩ := exists_kept_at? found found' hn
    exact ⟨n', by rw [(distinct_root found').nodesAt_eq_toList, hn']; rfl, kept⟩

theorem exists_kept (more : List (String × RouteDefinition))
    (found : (grown entries).resource? ns name = some tree) :
    ∃ tree', (grown (entries ++ more)).resource? ns name = some tree' ∧ tree.Kept tree' := by
  have some_routes := (resource?_isSome_iff entries ns name).1 (by rw [found]; rfl)
  have still : ((grown (entries ++ more)).resource? ns name).isSome = true := by
    rw [resource?_isSome_iff, branches_append]
    exact List.append_ne_nil_of_left_ne_nil some_routes _
  obtain ⟨tree', found'⟩ := Option.isSome_iff_exists.1 still
  exact ⟨tree', found', kept_of_append found found'⟩

theorem resource?_add_of_not_leadsTo (t : RouteTree) {entry : String × RouteDefinition}
    (elsewhere : ¬LeadsTo ns name entry) :
    (t.add entry.1 entry.2).resource? ns name = t.resource? ns name := by
  rw [← branch?_isSome_iff, Option.not_isSome_iff_eq_none] at elsewhere
  rw [resource?_add, elsewhere]

theorem absorb_of_mem (found : (grown entries).resource? ns name = some tree) {b : Branch}
    (hb : b ∈ branches ns name entries) :
    tree.absorb (.lenient name) (b.below.map .lenient) b.definition = tree := by
  have root : tree.root.receive (b.arrival name) = tree.root := by
    apply Node.receive_of_settled
    intro ks a followed
    have arrived := mem_arrivalsAt.2 ⟨b, hb, followed⟩
    obtain ⟨k, shared⟩ := exists_key_of_arrivalsAt name (branches ns name entries) ks
    cases hm : tree.root.at? ks with
    | none =>
        rw [at?_root found, Node.grow_eq_none_iff] at hm
        rw [hm] at arrived
        cases arrived
    | some m => exact ⟨m, rfl, (reflects_of_at? found hm).settled shared arrived⟩
  have args : tree.getArgs.addAll b.definition.getArgs = tree.getArgs := by
    apply Dict.addAll_of_contains
    intro arg takes
    rw [resource?_grown] at found
    exact (ResourceTree.getArgs_foldl_graft found).2 (.inr ⟨b, hb, takes⟩)
  have named : (Component.lenient name).text = tree.name := (name_of_resource? found).symm
  unfold ResourceTree.absorb
  rw [args, named]
  congr 1

theorem insert_of_absorbed {t : RouteTree} {d : RouteDefinition} {c : Component}
    {rest : List Component} (found : t.resource? d.ns c.text = some tree)
    (absorbed : tree.absorb c rest d = tree) : t.insert d c rest = t := by
  obtain ⟨resources, there, listed⟩ := Option.bind_eq_some_iff.1 found
  rw [insert, there, Option.getD_some, listed, Option.getD_some, absorbed,
    Dict.insert_of_get? listed, Dict.insert_of_get? there]

theorem add_of_mem {entry : String × RouteDefinition} (h : entry ∈ entries) :
    (grown entries).add entry.1 entry.2 = grown entries := by
  unfold add
  cases parts : componentsOf entry.1 entry.2 with
  | nil => rfl
  | cons text rest =>
      have branch : branch? entry.2.ns text entry = some ⟨rest, entry.2⟩ := by
        simp [branch?, parts]
      have listed : ⟨rest, entry.2⟩ ∈ branches entry.2.ns text entries :=
        List.mem_filterMap.2 ⟨entry, h, branch⟩
      have present := (resource?_isSome_iff entries entry.2.ns text).2 (List.ne_nil_of_mem listed)
      obtain ⟨tree, found⟩ := Option.isSome_iff_exists.1 present
      exact insert_of_absorbed (c := .lenient text) found (absorb_of_mem found listed)

/-- However routes were folded in, one more that is not refused keeps what there is and adds to one
resource at most, and one that was folded in at any time before adds nothing. -/
theorem folding_keeps_and_absorbs (as : List Attempt) :
    (∀ (a : Attempt) t', ((run as).withRoute a.options a.route a.definition).outcome = .ok t' →
      ∀ ns name,
        (∀ tree, (run as).resource? ns name = some tree →
          ∃ tree', t'.resource? ns name = some tree' ∧ tree.Kept tree') ∧
        (¬LeadsTo ns name (a.route, a.definition) →
          t'.resource? ns name = (run as).resource? ns name)) ∧
      ∀ before (a : Attempt) after t', as = before ++ a :: after →
        ((run before).withRoute a.options a.route a.definition).outcome = .ok t' →
          ((run as).withRoute a.options a.route a.definition).outcome = .ok (run as) := by
  have step : ∀ (t t' : RouteTree) (a : Attempt),
      (t.withRoute a.options a.route a.definition).outcome = .ok t' ↔
        refusal? a.options (a.route, a.definition) = none ∧ t' = t.add a.route a.definition := by
    intro t t' a
    rw [outcome_withRoute _ _ (_, _), Build.verdict_eq_ok_iff]
  constructor
  · intro a t' added ns name
    obtain ⟨entries, folded⟩ := exists_folded_run as
    have more := (Folded.added folded added).eq_grown
    rw [folded.eq_grown] at added ⊢
    refine ⟨fun tree found => ?_, fun elsewhere => ?_⟩
    · rw [more]
      exact exists_kept _ found
    · have left_alone := resource?_add_of_not_leadsTo (grown entries) elsewhere
      rw [((step _ _ _).1 added).2]
      exact left_alone
  · rintro before a after t' rfl added
    obtain ⟨accepted, _⟩ := (step _ _ _).1 added
    obtain ⟨entries, folded⟩ := exists_folded_run before
    obtain ⟨more, rest⟩ := (Folded.added folded added).exists_foldl after
    have whole : Folded (entries ++ [(a.route, a.definition)] ++ more)
        (run (before ++ a :: after)) := by
      rw [run, List.foldl_append, List.foldl_cons, ← run, attempt, added]
      exact rest
    refine (step _ _ _).2 ⟨accepted, ?_⟩
    have listed : (a.route, a.definition) ∈ entries ++ [(a.route, a.definition)] ++ more := by simp
    rw [whole.eq_grown]
    exact (add_of_mem listed).symm

end RouteTree
end RestRoutes
