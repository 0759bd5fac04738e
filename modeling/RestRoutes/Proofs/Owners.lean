import RestRoutes.Proofs.Labels

/-!
Who owns a name. Positions bid for labels in the order of the walk, each under all of its names. The
first bid for a label owns it, and a later one that asks for another setter is on record as a
conflict with the owner (`Blueprint.first_bid_owns`): the conflicts can be read off the finished
table (`AliasTable.conflicts_foldl_enter`), for no label ever changes hands.
-/
namespace RestRoutes

namespace AliasTable

theorem frame_foldl_enter (t : AliasTable) (cs : List Candidate) :
    (cs.foldl enter t).ns = t.ns ∧ (cs.foldl enter t).resource = t.resource := by
  induction cs generalizing t with
  | nil => exact ⟨rfl, rfl⟩
  | cons c cs ih =>
      have step : (t.enter c).ns = t.ns ∧ (t.enter c).resource = t.resource := by
        unfold enter
        cases found : t.entries.get? c.label with
        | none => simp [register_of_free _ _ found]
        | some kept =>
            by_cases same : kept.setter = c.setter
            · rw [← same, register_of_same _ found]
              exact ⟨rfl, rfl⟩
            · simp [register_of_conflict found same]
      rw [List.foldl_cons, (ih _).1, (ih _).2]
      exact step

/-- Whether a candidate makes a conflict can still be seen when others have followed it. -/
theorem conflict?_foldl_enter (t : AliasTable) (c : Candidate) (cs : List Candidate) :
    ((c :: cs).foldl enter t).conflict? c = t.conflict? c := by
  obtain ⟨ns, resource⟩ := frame_foldl_enter t (c :: cs)
  rw [conflict?, conflict?, ns, resource, List.foldl_cons, get?_enterAll, get?_enter]
  cases t.entries.get? c.label <;> simp

/-- Exactly the candidates whose label ends up with another setter make a conflict, in their
order. -/
theorem conflicts_foldl_enter (t : AliasTable) (cs : List Candidate) :
    (cs.foldl enter t).conflicts = t.conflicts ++ cs.filterMap (cs.foldl enter t).conflict? := by
  induction cs generalizing t with
  | nil => simp
  | cons c cs ih =>
      have first := conflict?_foldl_enter t c cs
      rw [List.foldl_cons] at first ⊢
      rw [ih, conflicts_enter, List.filterMap_cons, first, List.append_assoc]
      cases t.conflict? c <;> rfl

end AliasTable

/-- A position below the resource that asks for a label, and the name that it asks under. -/
structure Bid where
  node : Node
  name : String

namespace Bid

def label (b : Bid) : String := camelCase b.name

def place (b : Bid) : Place := ⟨b.node.component, b.node.level⟩

def setter (options : Options) (b : Bid) : Setter := .ofNode options b.node

def candidate (options : Options) (b : Bid) : Candidate := ⟨b.label, b.place, b.setter options⟩

def entry (options : Options) (b : Bid) : AliasEntry := ⟨b.setter options, b.place⟩

end Bid

namespace Blueprint

def bids (ns : List Node) : List Bid :=
  (ns.filter (·.level ≠ 0)).flatMap fun n => n.names.map (⟨n, ·⟩)

theorem mem_bids {ns : List Node} {b : Bid} :
    b ∈ bids ns ↔ b.node ∈ ns ∧ b.node.level ≠ 0 ∧ b.name ∈ b.node.names := by
  simp only [bids, List.mem_flatMap, List.mem_filter, List.mem_map, decide_eq_true_eq]
  constructor
  · rintro ⟨n, ⟨hn, below⟩, name, hname, rfl⟩
    exact ⟨hn, below, hname⟩
  · rintro ⟨hn, below, hname⟩
    exact ⟨b.node, ⟨hn, below⟩, b.name, hname, rfl⟩

theorem candidates_eq (options : Options) (ns : List Node) :
    candidates options ns = (bids ns).map (Bid.candidate options) := by
  induction ns with
  | nil => rfl
  | cons n ns ih =>
      unfold candidates bids at ih ⊢
      by_cases top : n.level = 0
      · simpa [candidatesOf, top] using ih
      · simp [candidatesOf, top, ih, Function.comp_def, Bid.candidate, Bid.label, Bid.place,
          Bid.setter]

def clash? (options : Options) (ns resource : String) (owner b : Bid) : Option AliasConflict :=
  if owner.setter options = b.setter options then none
  else some ⟨ns, resource, b.label, owner.place, b.place⟩

section OfTree

variable (options : Options) (ns : String) (tree : ResourceTree)

theorem get?_setters (label : String) :
    (ofTree options ns tree).value.setters.entries.get? label =
      ((bids tree.root.preorder).find? (·.label = label)).map (Bid.entry options) := by
  rw [setters_ofTree, candidates_eq, AliasTable.get?_enterAll, AliasTable.empty, Dict.get?_empty,
    Option.none_or, List.find?_map, Option.map_map]
  rfl

theorem conflicts_ofTree :
    (ofTree options ns tree).value.conflicts = (bids tree.root.preorder).filterMap fun b =>
      ((bids tree.root.preorder).find? (·.label = b.label)).bind
        (clash? options ns tree.name · b) := by
  have frame := AliasTable.frame_foldl_enter (.empty ns tree.name)
    (candidates options tree.root.preorder)
  rw [← setters_ofTree] at frame
  rw [conflicts, setters_ofTree, AliasTable.conflicts_foldl_enter, ← setters_ofTree, candidates_eq,
    List.filterMap_map]
  refine (List.nil_append _).trans (congrArg (List.filterMap · _) (funext fun b => ?_))
  have own : (b.candidate options).label = b.label := rfl
  rw [Function.comp_apply, AliasTable.conflict?, own, get?_setters, frame.1, frame.2]
  cases (bids tree.root.preorder).find? (·.label = b.label) <;> rfl

end OfTree

/-- Every name of every position below the resource finds the setter of the first bid for its label,
and where the position would have had another one there is a conflict about it. There are no other
entries, and no other conflicts: they are the bids that differ, in the order of the walk. -/
theorem first_bid_owns (options : Options) (ns : String) (tree : ResourceTree) :
    let b := (ofTree options ns tree).value
    let all := bids tree.root.preorder
    (∀ n ∈ tree.root.preorder, 0 < n.level → ∀ name ∈ n.names, ∃ before owner after,
      all = before ++ owner :: after ∧ owner.label = camelCase name ∧
        (∀ earlier ∈ before, earlier.label ≠ camelCase name) ∧
        b.setters.entries.get? (camelCase name) =
          some ⟨.ofNode options owner.node, owner.place⟩ ∧
        (Setter.ofNode options n = .ofNode options owner.node ∨
          ⟨ns, tree.name, camelCase name, owner.place, ⟨n.component, n.level⟩⟩ ∈ b.conflicts)) ∧
    (∀ label entry, b.setters.entries.get? label = some entry →
      ∃ owner ∈ all, owner.label = label ∧ entry = owner.entry options) ∧
    b.conflicts = all.filterMap fun bid =>
      (all.find? (·.label = bid.label)).bind (clash? options ns tree.name · bid) := by
  intro b all
  refine ⟨fun n hn below name hname => ?_, fun label entry stored => ?_,
    conflicts_ofTree options ns tree⟩
  · have member : (⟨n, name⟩ : Bid) ∈ all := mem_bids.2 ⟨hn, Nat.ne_of_gt below, hname⟩
    obtain ⟨owner, first⟩ : ∃ owner, all.find? (·.label = camelCase name) = some owner :=
      Option.isSome_iff_exists.1 (List.find?_isSome.2 ⟨_, member, decide_eq_true rfl⟩)
    obtain ⟨asks, before, after, split, others⟩ := List.find?_eq_some_iff_append.1 first
    refine ⟨before, owner, after, split, of_decide_eq_true asks, ?_, ?_, ?_⟩
    · exact fun earlier h => by simpa using others earlier h
    · rw [get?_setters, first]
      rfl
    · by_cases same : Setter.ofNode options n = .ofNode options owner.node
      · exact .inl same
      · right
        rw [conflicts_ofTree]
        have differ : owner.setter options ≠ Bid.setter options ⟨n, name⟩ := Ne.symm same
        refine List.mem_filterMap.2 ⟨⟨n, name⟩, member, ?_⟩
        rw [Bid.label, first, Option.bind_some, clash?, if_neg differ]
        rfl
  · rw [get?_setters, Option.map_eq_some_iff] at stored
    obtain ⟨owner, first, rfl⟩ := stored
    exact ⟨owner, List.mem_of_find?_eq_some first, by simpa using List.find?_some first, rfl⟩

/-- Two placeholders that fill one slot under one label, and a third one that fills another slot. -/
def sharedLabels : RouteMap :=
  .ofList [("/wp/v2/posts/(?P<post_id>)", ⟨"wp/v2", [.get], []⟩),
    ("/wp/v2/posts/(?P<postId>)", ⟨"wp/v2", [.get], []⟩),
    ("/wp/v2/posts/by-author/(?P<post-id>)", ⟨"wp/v2", [.get], []⟩)]

/-- The third one is on record with the first, though no two of the names are the same. -/
theorem first_bid_owns_postId :
    ∃ tree : ResourceTree, ∃ n ∈ tree.root.preorder, 0 < n.level ∧ "post-id" ∈ n.names ∧
      ∃ owner ∈ bids tree.root.preorder, owner.place = ⟨"(?P<postId>)", 1⟩ ∧
        owner.label = camelCase "post-id" ∧
        ⟨"wp/v2", tree.name, camelCase "post-id", owner.place, ⟨n.component, n.level⟩⟩ ∈
          (ofTree {} "wp/v2" tree).value.conflicts := by
  have computed : (RouteTree.ofRoutes {} sharedLabels).run.value.toOption.any (fun t =>
      (t.resources "wp/v2").any fun tree => tree.root.preorder.any fun n =>
        decide (0 < n.level) && n.names.contains "post-id" &&
        ((ofTree {} "wp/v2" tree).value.setters.entries.get? (camelCase "post-id")).any
          fun kept => kept.origin = ⟨"(?P<postId>)", 1⟩ && kept.setter ≠ .ofNode {} n) = true := by
    decide +kernel
  obtain ⟨t, _, made⟩ := (Option.any_eq_true _ _).1 computed
  obtain ⟨tree, _, below⟩ := List.any_eq_true.1 made
  obtain ⟨n, hn, holds⟩ := List.any_eq_true.1 below
  simp only [Bool.and_eq_true, decide_eq_true_eq, List.contains_iff_mem] at holds
  obtain ⟨⟨level, named⟩, differs⟩ := holds
  obtain ⟨owns, _, _⟩ := first_bid_owns {} "wp/v2" tree
  obtain ⟨before, owner, after, split, asks, _, stored, agreed⟩ := owns n hn level _ named
  simp only [stored, Option.any_some, Bool.and_eq_true, decide_eq_true_eq] at differs
  have listed : owner ∈ bids tree.root.preorder := by
    rw [split]
    simp
  exact ⟨tree, n, hn, level, named, owner, listed, differs.1, asks,
    agreed.resolve_left (Ne.symm differs.2)⟩

end Blueprint
end RestRoutes
