import RestRoutes.Proofs.Request.Invariants

/-!
Queries as text. A query text is a list of pairs of a name and a value, and brackets behind the name
mark a list (`Query.ofText?`). A request never has a parameter without values, so its query can be
read off the text that it is rendered as (`ofText_renderQuery`).
-/
namespace RestRoutes

namespace Query

def Complete (q : Query) : Prop := ∀ name values, q.get? name = some values → values ≠ []

theorem complete_empty : Complete .empty := by
  intro name values h
  cases h

theorem Complete.insert {q : Query} (h : q.Complete) (name : String) {values : List String}
    (some_value : values ≠ []) : Complete (Dict.insert q name values) := by
  intro other values' found
  by_cases here : other = name
  · subst here
    rw [Dict.get?_insert_self] at found
    cases found
    exact some_value
  · rw [Dict.get?_insert_of_ne _ _ here] at found
    exact h other values' found

theorem Complete.erase {q : Query} (h : q.Complete) (name : String) :
    Complete (Dict.erase q name) := by
  intro other values found
  have kept := Dict.get?_eq_some_iff.1 found
  exact h other values (Dict.get?_eq_some_iff.2 (List.mem_filter.1 kept).1)

/-- A parameter loses its values only together with its name. -/
theorem Complete.apply {q : Query} (h : q.Complete) (s : ParamSetter) (value : Option String) :
    Complete (s.apply q value) := by
  cases value with
  | none => exact h.erase s.param
  | some value => exact h.insert s.param (by simp)

/-- The pieces of a text that signs `&` stand between. A text that says nothing has none. -/
def pieces (text : String) : List (List Char) :=
  if text.isEmpty then [] else text.toList.splitOn '&'

def readPair? (piece : List Char) : Option (String × String) := do
  let (key, value) ← cutAt? ['='] piece
  return (← Percent.decode? (dropEnding ['[', ']'] key), ← Percent.decode? value)

def addPair (q : Query) (pair : String × String) : Query :=
  q.insert pair.1 ((q.get? pair.1).getD [] ++ [pair.2])

def ofText? (text : String) : Option Query := do
  return (← (pieces text).mapM readPair?).foldl addPair .empty

theorem pieces_intercalate {texts : List String}
    (h : ∀ t ∈ texts, t.toList ≠ [] ∧ '&' ∉ t.toList) :
    pieces ("&".intercalate texts) = texts.map String.toList := by
  have joined : ("&".intercalate texts).toList = ['&'].intercalate (texts.map String.toList) :=
    String.toList_intercalate
  cases texts with
  | nil => rfl
  | cons t ts =>
      have cut : ("&".intercalate (t :: ts)).toList.splitOn '&' = (t :: ts).map String.toList := by
        rw [joined]
        refine List.splitOn_intercalate '&' (fun l hl => ?_) (by simp)
        obtain ⟨t', ht', rfl⟩ := List.mem_map.1 hl
        exact (h t' ht').2
      unfold pieces
      split
      · next empty =>
          -- Nothing but an empty piece could be cut out of an empty text.
          rw [String.isEmpty_iff.1 empty] at cut
          have first : t.toList = [] := (List.cons.inj cut).1.symm
          exact absurd first (h t List.mem_cons_self).1
      · exact cut

section Grouping

def pairs (q : Query) : List (String × String) :=
  q.entries.flatMap fun (name, values) => values.map (name, ·)

def valuesOf (name : String) (ps : List (String × String)) : List String :=
  (ps.filter (·.1 = name)).map (·.2)

theorem valuesOf_append (name : String) (ps qs : List (String × String)) :
    valuesOf name (ps ++ qs) = valuesOf name ps ++ valuesOf name qs := by
  simp [valuesOf]

theorem valuesOf_cons (name : String) (p : String × String) (ps : List (String × String)) :
    valuesOf name (p :: ps) = if p.1 = name then p.2 :: valuesOf name ps else valuesOf name ps := by
  unfold valuesOf
  rw [List.filter_cons]
  by_cases here : p.1 = name <;> simp [here]

theorem valuesOf_under (name called : String) (values : List String) :
    valuesOf name (values.map (called, ·)) = if called = name then values else [] := by
  induction values with
  | nil => simp [valuesOf]
  | cons value values ih =>
      rw [List.map_cons, valuesOf_cons, ih]
      split <;> rfl

theorem get?_foldl_addPair (q : Query) (ps : List (String × String)) (name : String) :
    (ps.foldl addPair q).get? name =
      if valuesOf name ps = [] then q.get? name
      else some ((q.get? name).getD [] ++ valuesOf name ps) := by
  have grouped := Dict.get?_foldl_push Prod.fst Prod.snd q ps name
  simp only [valuesOf, List.map_eq_nil_iff]
  exact grouped

theorem valuesOf_entries (name : String) {es : List (String × List String)}
    (ascending : es.Pairwise fun a b => compare a.1 b.1 = .lt) :
    valuesOf name (es.flatMap fun (called, values) => values.map (called, ·)) =
      (Dict.lookupEntry name es).getD [] := by
  induction es with
  | nil => rfl
  | cons entry es ih =>
      obtain ⟨called, values⟩ := entry
      obtain ⟨below, rest⟩ := List.pairwise_cons.1 ascending
      rw [List.flatMap_cons, valuesOf_append, valuesOf_under, ih rest, Dict.lookupEntry]
      by_cases here : called = name
      · subst here
        have absent : Dict.lookupEntry called es = none := by
          rw [Option.eq_none_iff_forall_ne_some]
          intro values' found
          have later := below _ ((Dict.lookupEntry_eq_some_iff rest).1 found)
          simp at later
        simp [absent]
      · have other : compare name called ≠ .eq := fun same =>
          here (Std.LawfulEqCmp.eq_of_compare same).symm
        simp [here, other]

/-- The values of a name stand together, as no name is listed twice. -/
theorem valuesOf_pairs (q : Query) (name : String) :
    valuesOf name q.pairs = (q.get? name).getD [] :=
  valuesOf_entries name q.ascending

theorem foldl_addPair_pairs {q : Query} (h : q.Complete) : q.pairs.foldl addPair .empty = q := by
  apply Dict.ext_get?
  intro name
  rw [get?_foldl_addPair, valuesOf_pairs, Dict.get?_empty]
  cases found : q.get? name with
  | none => rfl
  | some values =>
      have some_value : values ≠ [] := h name values found
      simp [some_value]

end Grouping

section Rendering

theorem readPair?_written (name value : String) {mark : List Char}
    (brackets : mark = [] ∨ mark = ['[', ']']) :
    readPair? ((Percent.encode name).toList ++ mark ++ '=' :: (Percent.encode value).toList) =
      some (name, value) := by
  have no_equals : '=' ∉ (Percent.encode name).toList ++ mark := by
    rw [List.mem_append, not_or]
    refine ⟨Percent.not_mem_encode name (by decide), ?_⟩
    rcases brackets with rfl | rfl <;> decide
  have key : dropEnding ['[', ']'] ((Percent.encode name).toList ++ mark) =
      (Percent.encode name).toList := by
    rcases brackets with rfl | rfl
    · rw [List.append_nil]
      exact dropEnding_of_not_mem (List.mem_cons_self ..) (Percent.not_mem_encode name (by decide))
    · exact dropEnding_append _ _
  rw [readPair?, cutAt?_of_not_mem no_equals]
  simp only [Option.bind_eq_bind, Option.bind_some, key, Percent.decode?_encode]
  rfl

/-- The pieces for a parameter have the same brackets, or none of them has any. -/
theorem map_toList_renderParam (name : String) (values : List String) :
    ∃ mark, (mark = [] ∨ mark = ['[', ']']) ∧
      (Request.renderParam name values).map String.toList = values.map fun value =>
        (Percent.encode name).toList ++ mark ++ '=' :: (Percent.encode value).toList := by
  by_cases many : values.length > 1
  · refine ⟨['[', ']'], .inr rfl, ?_⟩
    simp [Request.renderParam, many, toString]
  · refine ⟨[], .inl rfl, ?_⟩
    simp [Request.renderParam, many, toString]

theorem piece_of_mem_renderParam {name text : String} {values : List String}
    (h : text ∈ Request.renderParam name values) : text.toList ≠ [] ∧ '&' ∉ text.toList := by
  obtain ⟨mark, brackets, written⟩ := map_toList_renderParam name values
  have member : text.toList ∈ (Request.renderParam name values).map String.toList :=
    List.mem_map_of_mem h
  rw [written] at member
  obtain ⟨value, _, same⟩ := List.mem_map.1 member
  rw [← same]
  have unmarked : '&' ∉ mark := by
    rcases brackets with rfl | rfl <;> decide
  have plain (text : String) : '&' ∉ (Percent.encode text).toList :=
    Percent.not_mem_encode text (by decide)
  refine ⟨by simp, ?_⟩
  simp [plain, unmarked]

theorem map_readPair?_renderParam (name : String) (values : List String) :
    ((Request.renderParam name values).map String.toList).map readPair? =
      (values.map (name, ·)).map some := by
  obtain ⟨mark, brackets, written⟩ := map_toList_renderParam name values
  rw [written, List.map_map, List.map_map]
  exact List.map_congr_left fun value _ => readPair?_written name value brackets

theorem map_readPair?_entries (q : Query) :
    ((q.entries.flatMap fun (name, values) => Request.renderParam name values).map
      String.toList).map readPair? = q.pairs.map some := by
  unfold pairs
  induction q.entries with
  | nil => rfl
  | cons entry es ih =>
      rw [List.flatMap_cons, List.flatMap_cons, List.map_append, List.map_append, List.map_append,
        ih, map_readPair?_renderParam]

theorem ofText?_renderQuery {r : Request} (h : r.query.Complete) :
    ofText? r.renderQuery = some r.query := by
  have cut : pieces r.renderQuery = (r.query.entries.flatMap fun (name, values) =>
      Request.renderParam name values).map String.toList := by
    refine pieces_intercalate fun text member => ?_
    obtain ⟨⟨name, values⟩, _, member⟩ := List.mem_flatMap.1 member
    exact piece_of_mem_renderParam member
  have read := mapM_eq_some_iff.2 (map_readPair?_entries r.query)
  rw [ofText?, cut, read]
  exact congrArg some (foldl_addPair_pairs h)

/-- Encoded brackets belong to the name, plain ones mark a list. -/
example : (ofText? "ids%5B%5D=1&ids[]=2&ids[]=3&=").map (·.entries) =
    some [("", [""]), ("ids", ["2", "3"]), ("ids[]", ["1"])] := by
  decide +kernel

end Rendering

end Query

namespace Request

theorem apply_of_op_eq {m : Mixin} {s : ParamSetter} (same : m.op = s.op) (q : Query)
    (value : Option String) : m.apply q value = s.apply q value := by
  rw [Mixin.apply, same]
  rfl

theorem stable_complete : Stable fun r => r.target.SetsParams ∧ r.query.Complete where
  slots _ _ _ holds := holds
  methods _ _ _ _ _ _ _ _ holds := holds
  mixin r holds name m offered value := by
    obtain ⟨s, same⟩ := holds.1 name m offered
    rw [apply_of_op_eq same]
    exact ⟨holds.1, holds.2.apply s value⟩
  param _ name _ holds := ⟨holds.1, holds.2.insert name (by simp)⟩

/-- Whatever has been done with a request whose mixins set parameters, each of its parameters has a
value and the text of its query says what the query is. Requests to any such resources that differ
in their queries differ in the text of it. -/
theorem ofText_renderQuery {e : Endpoint} (plain : e.SetsParams) (base : String)
    (uses : List Use) :
    let r := (new e base).used uses
    (∀ name values, r.query.get? name = some values → values ≠ []) ∧
    Query.ofText? r.renderQuery = some r.query ∧
    ∀ e' base' uses', e'.SetsParams → r.query ≠ ((new e' base').used uses').query →
      r.renderQuery ≠ ((new e' base').used uses').renderQuery := by
  intro r
  have complete {e : Endpoint} (plain : e.SetsParams) (base : String) (uses : List Use) :
      ((new e base).used uses).query.Complete :=
    (stable_complete.holds_used ⟨plain, Query.complete_empty⟩ uses).2
  have reads := Query.ofText?_renderQuery (complete plain base uses)
  refine ⟨complete plain base uses, reads, ?_⟩
  intro e' base' uses' plain' different same
  have reads' := Query.ofText?_renderQuery (complete plain' base' uses')
  rw [← same, reads] at reads'
  exact different (Option.some.inj reads')

/-- Posts that are picked by a list, which goes by the name of a list. -/
def pickedPosts : Endpoint :=
  ⟨"wp/v2", "posts", .empty,
    Dict.empty.insert "include" (.mixin ⟨"include", ParamSetter.op ⟨"ids[]", .append⟩⟩), []⟩

/-- Parameters whose names look like a list, like nothing and like the end of a value. -/
def oddParameters : List Use :=
  [.act (.invoke "include" (some "1&2")), .act (.param "" "="), .act (.param "&" ""),
    .act (.invoke "include" (some "3"))]

theorem ofText_renderQuery_odd :
    pickedPosts.SetsParams ∧
      let r := (new pickedPosts "").used oddParameters
      r.renderQuery = "=%3D&%26=&ids%5B%5D[]=1%262&ids%5B%5D[]=3" ∧
        Query.ofText? "=%3D&%26=&ids%5B%5D[]=1%262&ids%5B%5D[]=3" = some r.query ∧
        r.query.get? "ids[]" = some ["1&2", "3"] := by
  have plain : pickedPosts.SetsParams := by
    intro name m offered
    by_cases same : name = "include"
    · subst same
      cases offered
      exact ⟨_, rfl⟩
    · have absent := Dict.get?_insert_of_ne (Dict.empty : Dict String Capability)
        (.mixin ⟨"include", ParamSetter.op ⟨"ids[]", .append⟩⟩) same
      cases absent.symm.trans offered
  have written : ((new pickedPosts "").used oddParameters).renderQuery =
      "=%3D&%26=&ids%5B%5D[]=1%262&ids%5B%5D[]=3" := by
    decide +kernel
  obtain ⟨_, reads, _⟩ := ofText_renderQuery plain "" oddParameters
  rw [written] at reads
  exact ⟨plain, written, reads, by decide +kernel⟩

end Request
end RestRoutes
