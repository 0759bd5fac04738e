import RestRoutes.Proofs.Tree.Position

/-!
How a position grows while routes come to it. The child with a key grows from the routes that go
there, so a position at the end of a sequence of keys grows from the routes that follow these keys
(`at?_grow`), and what it says about itself can be read off those routes (`reflects_of_grow`).
-/
namespace RestRoutes

theorem MethodSet.union_ofList (ms ns : List Method) :
    (ofList ms).union (ofList ns) = ofList (ms ++ ns) := by
  apply ext_contains
  intro m
  rw [contains_union, contains_ofList, contains_ofList, contains_ofList]
  simp only [pairs, List.contains_append]
  cases m == .head <;> cases m == .get <;> simp [Bool.or_assoc, Bool.or_left_comm]

theorem MethodSet.empty_union (s : MethodSet) : empty.union s = s := by
  apply ext_contains
  intro m
  rw [contains_union, empty, contains_filter, Bool.false_or]

/-- A route as it comes to a position: the component of the position and those below it, and the
methods that the route is for. -/
structure Arrival where
  component : Component
  below : List Component
  methods : List Method

namespace Arrival

def keys (a : Arrival) : List MergeKey := a.below.map (·.segment.key)

def step? (k : MergeKey) (a : Arrival) : Option Arrival :=
  match a.below with
  | [] => none
  | c :: rest => if c.segment.key = k then some ⟨c, rest, a.methods⟩ else none

def follow? : List MergeKey → Arrival → Option Arrival
  | [], a => some a
  | k :: ks, a => (a.step? k).bind (follow? ks)

theorem follow?_isSome_iff {ks : List MergeKey} {a : Arrival} :
    (a.follow? ks).isSome ↔ ks <+: a.keys := by
  induction ks generalizing a with
  | nil => simp [follow?]
  | cons k ks ih =>
      obtain ⟨component, below, methods⟩ := a
      cases below with
      | nil => simp [follow?, step?, keys]
      | cons c rest =>
          by_cases same : c.segment.key = k
          · simpa [follow?, step?, same, keys] using ih (a := ⟨c, rest, methods⟩)
          · simp [follow?, step?, same, keys, Ne.symm same]

theorem of_follow? {ks : List MergeKey} {a b : Arrival} (h : a.follow? ks = some b) :
    a.keys = ks ++ b.keys ∧ (a.component :: a.below)[ks.length]? = some b.component ∧
      b.methods = a.methods := by
  induction ks generalizing a with
  | nil => cases h; simp
  | cons k ks ih =>
      obtain ⟨component, below, methods⟩ := a
      cases below with
      | nil => simp [follow?, step?] at h
      | cons c rest =>
          by_cases same : c.segment.key = k
          · simp only [follow?, step?, same, if_true, Option.bind_some] at h
            obtain ⟨hkeys, hcomponent, hmethods⟩ := ih h
            exact ⟨by simpa [keys, same] using hkeys, by simpa using hcomponent, hmethods⟩
          · simp [follow?, step?, same] at h

end Arrival

namespace Node

def receive (n : Node) (a : Arrival) : Node := n.absorb (.ofList a.methods) a.below a.component

/-- The first of the routes makes the position if it is not there yet. -/
def grow (level : Nat) (o : Option Node) (as : List Arrival) : Option Node :=
  as.foldl (fun o a => some ((o.getD (vacant a.component level)).receive a)) o

@[simp] theorem grow_nil (level : Nat) (o : Option Node) : grow level o [] = o := rfl

theorem grow_cons (level : Nat) (o : Option Node) (a : Arrival) (as : List Arrival) :
    grow level o (a :: as) =
      grow level (some ((o.getD (vacant a.component level)).receive a)) as := rfl

theorem component_receive (n : Node) (a : Arrival) : (n.receive a).component = n.component := by
  unfold receive
  cases a.below <;> rfl

theorem key_receive (n : Node) (a : Arrival) : (n.receive a).key = n.key := by
  unfold receive
  cases a.below <;> rfl

theorem isDynamic_receive (n : Node) (a : Arrival) : (n.receive a).isDynamic = n.isDynamic := by
  unfold receive
  cases a.below <;> rfl

theorem level_receive (n : Node) (a : Arrival) : (n.receive a).level = n.level := by
  unfold receive
  cases a.below <;> rfl

theorem names_receive (n : Node) (a : Arrival) :
    (n.receive a).names = (n.meet a.component).names := by
  unfold receive
  cases a.below <;> rfl

theorem validator_receive (n : Node) (a : Arrival) :
    (n.receive a).validator = a.component.validator := by
  unfold receive
  cases a.below <;> rfl

theorem methods_receive (n : Node) (a : Arrival) :
    (n.receive a).methods =
      if a.below.isEmpty then some ((n.methods.getD .empty).union (.ofList a.methods))
      else n.methods := by
  unfold receive
  cases a.below <;> rfl

theorem children_receive_of_end {n : Node} {a : Arrival} (h : a.below = []) :
    (n.receive a).children = n.children := by
  rw [receive, h]
  rfl

theorem children_receive {n : Node} {a : Arrival} {c : Component} {rest : List Component}
    (h : a.below = c :: rest) :
    (n.receive a).children =
      updateFirst c.segment.key (vacant c (n.level + 1)) (·.receive ⟨c, rest, a.methods⟩)
        n.children := by
  rw [receive, h]
  rfl

theorem find?_updateFirst {key : MergeKey} {new : Node} {f : Node → Node} (made : new.key = key)
    (kept : ∀ n, (f n).key = n.key) (k : MergeKey) (ns : List Node) :
    (updateFirst key new f ns).find? (·.key = k) =
      if key = k then some (f ((ns.find? (·.key = k)).getD new))
      else ns.find? (·.key = k) := by
  induction ns with
  | nil => by_cases same : key = k <;> simp [updateFirst, kept, made, same]
  | cons n ns ih =>
      by_cases here : n.key = key
      · by_cases same : key = k <;> simp [updateFirst, here, kept, same]
      · by_cases same : n.key = k
        · have other : key ≠ k := fun e => here (same.trans e.symm)
          simp [updateFirst, same, other, Ne.symm other]
        · simp [updateFirst, here, same, ih]

theorem map_key_updateFirst {key : MergeKey} {new : Node} {f : Node → Node}
    (made : new.key = key) (kept : ∀ n, (f n).key = n.key) (ns : List Node) :
    (updateFirst key new f ns).map Node.key =
      if key ∈ ns.map Node.key then ns.map Node.key else ns.map Node.key ++ [key] := by
  induction ns with
  | nil => simp [updateFirst, kept, made]
  | cons n ns ih =>
      by_cases here : n.key = key
      · simp [updateFirst, here, kept]
      · by_cases there : key ∈ ns.map Node.key
        · rw [if_pos there] at ih
          simp [updateFirst, here, ih, there]
        · rw [if_neg there] at ih
          have absent : key ∉ (n :: ns).map Node.key := by simpa [Ne.symm here] using there
          simp only [updateFirst, here, if_false, List.map_cons, ih]
          rw [if_neg (by simpa using absent)]
          rfl

theorem mem_updateFirst {key : MergeKey} {new m : Node} {f : Node → Node} {ns : List Node}
    (h : m ∈ updateFirst key new f ns) : m ∈ ns ∨ m = f new ∨ ∃ n ∈ ns, m = f n := by
  induction ns with
  | nil => exact .inr (.inl (List.mem_singleton.1 h))
  | cons n ns ih =>
      unfold updateFirst at h
      split at h
      · rcases List.mem_cons.1 h with rfl | h
        · exact .inr (.inr ⟨n, List.mem_cons_self, rfl⟩)
        · exact .inl (List.mem_cons_of_mem _ h)
      · rcases List.mem_cons.1 h with rfl | h
        · exact .inl List.mem_cons_self
        · rcases ih h with h | h | ⟨m', hm', same⟩
          · exact .inl (List.mem_cons_of_mem _ h)
          · exact .inr (.inl h)
          · exact .inr (.inr ⟨m', List.mem_cons_of_mem _ hm', same⟩)

theorem child?_receive (n : Node) (a : Arrival) (k : MergeKey) :
    (n.receive a).child? k =
      match a.step? k with
      | none => n.child? k
      | some b => some (((n.child? k).getD (vacant b.component (n.level + 1))).receive b) := by
  cases hb : a.below with
  | nil => simp [child?, Arrival.step?, hb, children_receive_of_end hb]
  | cons c rest =>
      have made : (vacant c (n.level + 1)).key = c.segment.key := rfl
      rw [child?, children_receive hb, find?_updateFirst made (fun m => key_receive m _)]
      by_cases same : c.segment.key = k <;> simp [Arrival.step?, hb, same, child?]

theorem child?_grow {level : Nat} {o : Option Node} (hlevel : ∀ n ∈ o, n.level = level)
    (k : MergeKey) (as : List Arrival) :
    (grow level o as).bind (·.child? k) =
      grow (level + 1) (o.bind (·.child? k)) (as.filterMap (·.step? k)) := by
  induction as generalizing o with
  | nil => rfl
  | cons a as ih =>
      -- A position that is made for the route is vacant and has no children yet.
      have before : (o.getD (vacant a.component level)).child? k = o.bind (·.child? k) := by
        cases o <;> rfl
      have depth : (o.getD (vacant a.component level)).level = level := by
        cases o with
        | none => rfl
        | some n => exact hlevel n rfl
      have after : ∀ n ∈ some ((o.getD (vacant a.component level)).receive a), n.level = level := by
        intro n hn
        cases hn
        rw [level_receive, depth]
      rw [grow_cons, ih after, Option.bind_some, child?_receive, before, depth]
      cases hs : a.step? k with
      | none => simp [hs]
      | some b => simp [hs, grow_cons]

/-- A position grows from the routes that follow the keys down to it. -/
theorem at?_grow (level : Nat) (ks : List MergeKey) (as : List Arrival) :
    (grow level none as).bind (·.at? ks) =
      grow (level + ks.length) none (as.filterMap (·.follow? ks)) := by
  induction ks generalizing level as with
  | nil => simp [at?, Arrival.follow?]
  | cons k ks ih =>
      have first : (grow level none as).bind (·.child? k) =
          grow (level + 1) none (as.filterMap (·.step? k)) :=
        child?_grow (fun n hn => by cases hn) k as
      calc (grow level none as).bind (·.at? (k :: ks))
          = ((grow level none as).bind (·.child? k)).bind (·.at? ks) := by
            rw [Option.bind_assoc]; rfl
        _ = grow (level + 1 + ks.length) none
              ((as.filterMap (·.step? k)).filterMap (·.follow? ks)) := by
            rw [first, ih]
        _ = grow (level + (k :: ks).length) none (as.filterMap (·.follow? (k :: ks))) := by
            rw [List.filterMap_filterMap, List.length_cons, Nat.add_assoc, Nat.add_comm 1]
            rfl

theorem Distinct.vacant (c : Component) (level : Nat) : (Node.vacant c level).Distinct :=
  .intro .nil fun _ h => (List.not_mem_nil h).elim

theorem Distinct.receive {n : Node} (h : n.Distinct) (a : Arrival) : (n.receive a).Distinct := by
  obtain ⟨component, below, methods⟩ := a
  induction below generalizing n component with
  | nil =>
      have same : (n.receive ⟨component, [], methods⟩).children = n.children :=
        children_receive_of_end rfl
      exact .intro (same ▸ h.keys) (same ▸ fun c hc => h.of_mem hc)
  | cons next rest ih =>
      have made : (Node.vacant next (n.level + 1)).key = next.segment.key := rfl
      have kept : ∀ m : Node, (m.receive ⟨next, rest, methods⟩).key = m.key :=
        fun m => key_receive m _
      have children := children_receive (n := n) (a := ⟨component, next :: rest, methods⟩) rfl
      refine .intro ?_ fun c hc => ?_
      · rw [children, map_key_updateFirst made kept]
        split
        · exact h.keys
        · next fresh => exact List.nodup_append.2 ⟨h.keys, by simp, by simpa using fresh⟩
      · rw [children] at hc
        rcases mem_updateFirst hc with hc | rfl | ⟨m, hm, rfl⟩
        · exact h.of_mem hc
        · exact ih (.vacant next _) next
        · exact ih (h.of_mem hm) next

theorem Distinct.grow {level : Nat} {o : Option Node} (h : ∀ n ∈ o, n.Distinct)
    (as : List Arrival) : ∀ n ∈ Node.grow level o as, n.Distinct := by
  induction as generalizing o with
  | nil => exact h
  | cons a as ih =>
      rw [grow_cons]
      refine ih fun n hn => ?_
      cases hn
      cases o with
      | none => exact (Distinct.vacant _ _).receive a
      | some n => exact (h n rfl).receive a

def endMethods (as : List Arrival) : Option MethodSet :=
  if as.all (!·.below.isEmpty) then none
  else some (.ofList ((as.filter (·.below.isEmpty)).flatMap (·.methods)))

theorem endMethods_append (as : List Arrival) (a : Arrival) :
    endMethods (as ++ [a]) =
      if a.below.isEmpty then some (((endMethods as).getD .empty).union (.ofList a.methods))
      else endMethods as := by
  cases ha : a.below.isEmpty with
  | false => simp [endMethods, ha]
  | true =>
      by_cases before : as.all (!·.below.isEmpty)
      · have none_ends : as.filter (·.below.isEmpty) = [] := by
          simpa [List.filter_eq_nil_iff] using before
        simp [endMethods, ha, before, none_ends, MethodSet.empty_union]
      · simp [endMethods, ha, before, MethodSet.union_ofList]

theorem updateFirst_ne_nil (key : MergeKey) (new : Node) (f : Node → Node) (ns : List Node) :
    updateFirst key new f ns ≠ [] := by
  cases ns with
  | nil => exact List.cons_ne_nil _ _
  | cons n ns =>
      unfold updateFirst
      split <;> exact List.cons_ne_nil _ _

/-- What a position stores about its component is what the component says, and it stores a list of
children only if there are some. -/
structure Coherent (n : Node) : Prop where
  key_eq : n.key = (Segment.classify n.component).key
  isDynamic_eq : n.isDynamic = (Segment.classify n.component).isDynamic
  children?_ne : n.children? ≠ some []

theorem Coherent.vacant (c : Component) (level : Nat) : (Node.vacant c level).Coherent where
  key_eq := rfl
  isDynamic_eq := rfl
  children?_ne := nofun

theorem Coherent.receive {n : Node} (h : n.Coherent) (a : Arrival) : (n.receive a).Coherent where
  key_eq := by rw [key_receive, component_receive, h.key_eq]
  isDynamic_eq := by rw [isDynamic_receive, component_receive, h.isDynamic_eq]
  children?_ne := by
    unfold Node.receive
    cases a.below with
    | nil => exact h.children?_ne
    | cons c rest => exact fun none_left => updateFirst_ne_nil _ _ _ _ (Option.some.inj none_left)

theorem Coherent.isLeaf_iff {n : Node} (h : n.Coherent) : n.isLeaf = true ↔ n.children = [] := by
  unfold isLeaf children
  cases stored : n.children? with
  | none => simp
  | some cs => simpa using fun none_left => h.children?_ne (stored.trans (congrArg some none_left))

/-- A position tells which routes have come to it. -/
structure Reflects (level : Nat) (as : List Arrival) (n : Node) : Prop where
  coherent : n.Coherent
  level_eq : n.level = level
  component_eq : as.head?.map (·.component.text) = some n.component
  mem_names : ∀ name, name ∈ n.names ↔ ∃ a ∈ as, a.component.segment.label = name
  names_nodup : n.names.Nodup
  validator_eq : as.getLast?.map (·.component.validator) = some n.validator
  methods_eq : n.methods = endMethods as
  isLeaf_eq : n.isLeaf = as.all (·.below.isEmpty)

theorem mem_names_receive (n : Node) (a : Arrival) (name : String) :
    name ∈ (n.receive a).names ↔ name ∈ n.names ∨ a.component.segment.label = name := by
  rw [names_receive, meet]
  by_cases known : n.names.contains a.component.segment.label
  · rw [if_pos known]
    refine ⟨.inl, fun h => h.elim id fun same => ?_⟩
    rw [← same]
    exact List.contains_iff_mem.1 known
  · rw [if_neg known, List.mem_append, List.mem_singleton, eq_comm (a := name)]

theorem names_nodup_receive {n : Node} (h : n.names.Nodup) (a : Arrival) :
    (n.receive a).names.Nodup := by
  rw [names_receive, meet]
  by_cases known : n.names.contains a.component.segment.label
  · rw [if_pos known]
    exact h
  · rw [if_neg known]
    refine List.nodup_append.2 ⟨h, by simp, fun name hname other hother same => known ?_⟩
    rw [← List.mem_singleton.1 hother, ← same]
    exact List.contains_iff_mem.2 hname

theorem isLeaf_receive (n : Node) (a : Arrival) :
    (n.receive a).isLeaf = (n.isLeaf && a.below.isEmpty) := by
  unfold isLeaf receive
  cases a.below with
  | nil => exact (Bool.and_true _).symm
  | cons c rest => exact (Bool.and_false _).symm

theorem Reflects.receive {level : Nat} {as : List Arrival} {n : Node} (h : n.Reflects level as)
    (a : Arrival) : (n.receive a).Reflects level (as ++ [a]) where
  coherent := h.coherent.receive a
  level_eq := by rw [level_receive, h.level_eq]
  component_eq := by
    rw [component_receive, ← h.component_eq]
    cases as with
    | nil => exact absurd h.component_eq (by simp)
    | cons first as => rfl
  mem_names name := by
    rw [mem_names_receive, h.mem_names]
    simp [or_and_right, exists_or]
  names_nodup := names_nodup_receive h.names_nodup a
  validator_eq := by rw [validator_receive, List.getLast?_concat]; rfl
  methods_eq := by rw [methods_receive, endMethods_append, h.methods_eq]
  isLeaf_eq := by rw [isLeaf_receive, h.isLeaf_eq, List.all_append]; simp

theorem reflects_vacant (level : Nat) (a : Arrival) :
    ((Node.vacant a.component level).receive a).Reflects level [a] where
  coherent := (Coherent.vacant _ _).receive a
  level_eq := level_receive _ a
  component_eq := by rw [component_receive]; rfl
  mem_names name := by
    rw [mem_names_receive]
    simp [Node.vacant]
  names_nodup := names_nodup_receive (n := Node.vacant a.component level) .nil a
  validator_eq := by rw [validator_receive]; rfl
  methods_eq := by
    rw [methods_receive]
    exact (endMethods_append [] a).symm
  isLeaf_eq := by
    rw [isLeaf_receive]
    exact Bool.and_comm ..

theorem Reflects.grow {level : Nat} {before : List Arrival} {n : Node}
    (h : n.Reflects level before) (as : List Arrival) :
    ∃ m, Node.grow level (some n) as = some m ∧ m.Reflects level (before ++ as) := by
  induction as generalizing n before with
  | nil => exact ⟨n, rfl, by simpa using h⟩
  | cons a as ih =>
      obtain ⟨m, hm, reflects⟩ := ih (h.receive a)
      exact ⟨m, hm, by simpa using reflects⟩

theorem grow_eq_none_iff {level : Nat} {as : List Arrival} :
    grow level none as = none ↔ as = [] := by
  cases as with
  | nil => simp
  | cons a as =>
      obtain ⟨m, hm, _⟩ := (reflects_vacant level a).grow as
      simp [grow_cons, hm]

theorem reflects_of_grow {level : Nat} {as : List Arrival} {n : Node}
    (h : grow level none as = some n) : n.Reflects level as := by
  cases as with
  | nil => cases h
  | cons a as =>
      obtain ⟨m, hm, reflects⟩ := (reflects_vacant level a).grow as
      rw [grow_cons] at h
      cases h.symm.trans hm
      exact reflects

end Node
end RestRoutes
