import RestRoutes.Proofs.Index

/-!
How else a routes document may be written. The members of a definition or an endpoint come in any
order, next to members that are no fields, and a list is as good as no arguments (`RouteEdit`). None
of this changes what a document is taken for (`Edit.ofValue?_eq`): an object that is no index does
not become one, even where one of its routes is called `routes`.
-/
namespace RestRoutes.Document
open Json

inductive Changed {α : Type} (related : α → α → Prop) : List α → List α → Prop where
  | item {a b : α} (before after : List α) :
      related a b → Changed related (before ++ a :: after) (before ++ b :: after)

theorem Changed.mapM_eq {α β : Type} {related : α → α → Prop} {read : α → Option β}
    {items items' : List α} (h : Changed related items items')
    (same : ∀ a b, related a b → read b = read a) : items'.mapM read = items.mapM read := by
  obtain ⟨before, after, one⟩ := h
  simp only [List.mapM_append, List.mapM_cons, same _ _ one]

theorem Changed.ne_nil {α : Type} {related : α → α → Prop} {items items' : List α}
    (h : Changed related items items') : items' ≠ [] := by
  obtain ⟨before, after, -⟩ := h
  simp

/-! Fields by name -/

/-- What the members of an object say of a field, unless they say it twice. -/
def field? (members : List (String × Value)) (name : String) : Option (Option Value) :=
  match members.filter (·.1 == name) with
  | [] => some none
  | [(_, v)] => some (some v)
  | _ => none

/-- The members of an object in another order, or next to one more that is none of the fields. -/
inductive Reshaped (names : List String) :
    List (String × Value) → List (String × Value) → Prop where
  | reorder {members members' : List (String × Value)} :
      members.Perm members' → Reshaped names members members'
  | extend (before after : List (String × Value)) {name : String} (v : Value) :
      name ∉ names → Reshaped names (before ++ after) (before ++ (name, v) :: after)

section Fields

variable {names : List String} {name : String} {members members' before after :
  List (String × Value)} {v : Value}

theorem fields?_object : fields? names (.object members) = names.mapM (field? members) := rfl

theorem field?_of_perm (h : members.Perm members') :
    field? members' name = field? members name := by
  have kept := h.filter (·.1 == name)
  unfold field?
  cases found : members.filter (·.1 == name) with
  | nil => rw [found] at kept; rw [kept.nil_eq]
  | cons m rest =>
      rw [found] at kept
      cases rest with
      | nil => rw [List.singleton_perm.1 kept]
      | cons m' rest =>
          cases found' : members'.filter (·.1 == name) with
          | nil => rw [found'] at kept; cases kept.eq_nil
          | cons n rest' =>
              cases rest' with
              | nil => rw [found'] at kept; cases List.perm_singleton.1 kept
              | cons n' rest' => rfl

theorem field?_of_ne {other : String} (h : name ≠ other) :
    field? (before ++ (name, v) :: after) other = field? (before ++ after) other := by
  simp [field?, h]

theorem field?_self :
    field? (before ++ (name, v) :: after) name =
      if (before ++ after).any (·.1 == name) then none else some (some v) := by
  have single : (before ++ after).any (·.1 == name) = false ↔
      before.filter (·.1 == name) = [] ∧ after.filter (·.1 == name) = [] := by
    rw [← List.append_eq_nil_iff, ← List.filter_append, List.filter_eq_nil_iff, List.any_eq_false]
  unfold field?
  rw [List.filter_append, List.filter_cons_of_pos (by simp)]
  cases other : (before ++ after).any (·.1 == name) with
  | false => rw [(single.1 other).1, (single.1 other).2]; rfl
  | true =>
      cases first : before.filter (·.1 == name) with
      | nil =>
          cases last : after.filter (·.1 == name) with
          | nil => rw [single.2 ⟨first, last⟩] at other; cases other
          | cons m rest => rfl
      | cons m rest => cases rest <;> rfl

theorem Reshaped.field?_eq (h : Reshaped names members members') (known : name ∈ names) :
    field? members' name = field? members name := by
  cases h with
  | reorder perm => exact field?_of_perm perm
  | extend before after v unknown => exact field?_of_ne (ne_of_mem_of_not_mem known unknown).symm

def decoded? {α : Type} (decode? : Value → Option α) (first : α) (members : List (String × Value))
    (name : String) : Option α :=
  (field? members name).bind (orDefault decode? first)

section Decoded

variable {α : Type} {decode? : Value → Option α} {first : α}

theorem Reshaped.decoded?_eq (h : Reshaped names members members') (known : name ∈ names) :
    decoded? decode? first members' name = decoded? decode? first members name := by
  rw [decoded?, decoded?, h.field?_eq known]

theorem decoded?_of_ne {other : String} (h : name ≠ other) (v v' : Value) :
    decoded? decode? first (before ++ (name, v') :: after) other =
      decoded? decode? first (before ++ (name, v) :: after) other := by
  rw [decoded?, decoded?, field?_of_ne h, field?_of_ne h]

theorem decoded?_self {v' : Value} (same : decode? v' = decode? v) :
    decoded? decode? first (before ++ (name, v') :: after) name =
      decoded? decode? first (before ++ (name, v) :: after) name := by
  rw [decoded?, decoded?, field?_self, field?_self]
  split
  · rfl
  · exact same

theorem isSome_of_decoded?
    (h : (decoded? decode? first (before ++ (name, v) :: after) name).isSome = true) :
    (decode? v).isSome = true := by
  rw [decoded?, field?_self] at h
  split at h
  · cases h
  · exact h

end Decoded

end Fields

/-! Endpoints -/

theorem endpoint?_object (members : List (String × Value)) :
    endpoint? (.object members) =
      (decoded? methods? [] members "methods").bind fun methods =>
        (decoded? args? .empty members "args").map fun args => ⟨methods, args⟩ := by
  unfold endpoint? decoded?
  simp only [fields?_object, List.mapM_cons, List.mapM_nil]
  cases field? members "methods" with
  | none => rfl
  | some methods =>
      cases field? members "args" with
      | none => simp
      | some args => simp [Option.map_eq_bind]

/-- Ways to write an endpoint otherwise: its members, or any list instead of no arguments. -/
inductive EndpointEdit : Value → Value → Prop where
  | members {members members' : List (String × Value)} :
      Reshaped ["methods", "args"] members members' →
      EndpointEdit (.object members) (.object members')
  | args (before after : List (String × Value)) (items : List Value) :
      EndpointEdit (.object (before ++ ("args", .object []) :: after))
        (.object (before ++ ("args", .array items) :: after))
  | listedArgs (methods : Value) (items : List Value) :
      EndpointEdit (.array [methods, .object []]) (.array [methods, .array items])

theorem EndpointEdit.endpoint?_eq {v v' : Value} (h : EndpointEdit v v') :
    endpoint? v' = endpoint? v := by
  cases h with
  | members shape =>
      rw [endpoint?_object, endpoint?_object, shape.decoded?_eq (by simp),
        shape.decoded?_eq (by simp)]
  | args before after items =>
      rw [endpoint?_object, endpoint?_object, decoded?_of_ne (by simp) (.object []),
        decoded?_self (show args? (.array items) = args? (.object []) from rfl)]
  | listedArgs methods items => rfl

/-! Definitions -/

theorem definition?_object (members : List (String × Value)) :
    definition? (.object members) =
      (decoded? Value.string? "" members "namespace").bind fun ns =>
        (decoded? methods? [] members "methods").bind fun methods =>
          (decoded? endpoints? [] members "endpoints").map fun endpoints =>
            ⟨ns, methods, endpoints⟩ := by
  unfold definition? decoded?
  simp only [fields?_object, List.mapM_cons, List.mapM_nil]
  cases field? members "namespace" with
  | none => rfl
  | some ns =>
      cases field? members "methods" with
      | none => simp
      | some methods =>
          cases field? members "endpoints" with
          | none => simp
          | some endpoints => simp [Option.map_eq_bind]

theorem endpoints?_eq_of_changed {items items' : List Value}
    (h : Changed EndpointEdit items items') :
    endpoints? (.array items') = endpoints? (.array items) :=
  h.mapM_eq fun _ _ edit => edit.endpoint?_eq

/-- Ways to write a definition otherwise: its members, or one of its endpoints. -/
inductive RouteEdit : Value → Value → Prop where
  | members {members members' : List (String × Value)} :
      Reshaped ["namespace", "methods", "endpoints"] members members' →
      RouteEdit (.object members) (.object members')
  | endpoint (before after : List (String × Value)) {items items' : List Value} :
      Changed EndpointEdit items items' →
      RouteEdit (.object (before ++ ("endpoints", .array items) :: after))
        (.object (before ++ ("endpoints", .array items') :: after))
  | listedEndpoint (ns methods : Value) {items items' : List Value} :
      Changed EndpointEdit items items' →
      RouteEdit (.array [ns, methods, .array items]) (.array [ns, methods, .array items'])

theorem definition?_listed (ns methods endpoints : Value) :
    definition? (.array [ns, methods, endpoints]) =
      ns.string?.bind fun ns => (methods? methods).bind fun methods =>
        (endpoints? endpoints).map fun endpoints => ⟨ns, methods, endpoints⟩ := by
  simp [definition?, fields?, orDefault, Option.map_eq_bind]

theorem RouteEdit.definition?_eq {v v' : Value} (h : RouteEdit v v') :
    definition? v' = definition? v := by
  cases h with
  | members shape =>
      rw [definition?_object, definition?_object, shape.decoded?_eq (by simp),
        shape.decoded?_eq (by simp), shape.decoded?_eq (by simp)]
  | @endpoint before after items items' change =>
      rw [definition?_object, definition?_object,
        decoded?_of_ne (by simp) (.array items) (.array items'),
        decoded?_of_ne (by simp) (.array items) (.array items'),
        decoded?_self (endpoints?_eq_of_changed change)]
  | listedEndpoint ns methods change =>
      rw [definition?_listed, definition?_listed, endpoints?_eq_of_changed change]

/-! Documents -/

inductive MemberEdit : String × Value → String × Value → Prop where
  | route (name : String) {v v' : Value} : RouteEdit v v' → MemberEdit (name, v) (name, v')

theorem routes?_eq_of_changed {members members' : List (String × Value)}
    (h : Changed MemberEdit members members') : routes? members' = routes? members := by
  rw [routes?_eq, routes?_eq, h.mapM_eq]
  intro m m' ⟨name, edit⟩
  rw [route?, route?, edit.definition?_eq]

/-- Endpoints are no definition: its first field is a text. -/
theorem definition?_of_endpoints {items : List Value} (some_item : items ≠ [])
    (read : (endpoints? (.array items)).isSome = true) : definition? (.array items) = none := by
  cases items with
  | nil => exact absurd rfl some_item
  | cons v vs =>
      have first : (endpoint? v).isSome = true :=
        mapM_isSome_iff.1 read v List.mem_cons_self
      cases v with
      | string s => cases first
      | _ => match vs with
        | [] | [_] | [_, _] | _ :: _ :: _ :: _ => rfl

def object? : Value → Option RouteMap
  | .object routes => routes? routes
  | _ => none

theorem RouteEdit.isSome_object? {v v' : Value} (h : RouteEdit v v')
    (definition : (definition? v).isSome = true) (read : (object? v').isSome = true) :
    (object? v).isSome = true := by
  cases h with
  | members shape =>
      rw [object?, routes?_isSome_iff] at read ⊢
      cases shape with
      | reorder perm => exact fun m hm => read m (perm.mem_iff.1 hm)
      | extend before after v unknown =>
          exact fun m hm => read m ((List.sublist_cons_self _ after).append_left before |>.mem hm)
  | @endpoint before after items items' change =>
      obtain ⟨d, found⟩ := Option.isSome_iff_exists.1 definition
      simp only [definition?_object, Option.bind_eq_some_iff, Option.map_eq_some_iff] at found
      obtain ⟨-, -, -, -, endpoints, decoded, -⟩ := found
      have listed : (endpoints? (.array items')).isSome = true := by
        rw [endpoints?_eq_of_changed change]
        exact isSome_of_decoded? (Option.isSome_of_eq_some decoded)
      rw [object?, routes?_isSome_iff] at read
      have spoiled := read ("endpoints", .array items') (by simp)
      rw [definition?_of_endpoints change.ne_nil listed] at spoiled
      cases spoiled
  | listedEndpoint ns methods change => cases read

theorem index?_eq (members : List (String × Value)) :
    index? members = (field? members "routes").bind fun v => v.bind object? := by
  unfold index? field?
  generalize members.filter (·.1 == "routes") = called
  match called with
  | [] => rfl
  | [(_, v)] => cases v <;> rfl
  | (_, v) :: _ :: _ => cases v <;> rfl

theorem index?_of_changed {members members' : List (String × Value)} {map : RouteMap}
    (bare : index? members = none) (read : routes? members = some map)
    (h : Changed MemberEdit members members') : index? members' = none := by
  obtain ⟨before, after, @⟨name, v, v', edit⟩⟩ := h
  rw [index?_eq] at bare ⊢
  by_cases called : name = "routes"
  · subst called
    have definition : (definition? v).isSome = true :=
      routes?_isSome_iff.1 (Option.isSome_of_eq_some read) ("routes", v) (by simp)
    rw [field?_self] at bare ⊢
    split at bare
    · next twice => rw [if_pos twice, Option.bind_none]
    · next once =>
        rw [if_neg once, Option.bind_some, Option.bind_some, ← Option.not_isSome_iff_eq_none]
        intro index
        have before := edit.isSome_object? definition index
        rw [Option.bind_some, Option.bind_some] at bare
        rw [bare] at before
        cases before
  · rw [field?_of_ne called] at bare ⊢
    exact bare

/-- Ways to write a document otherwise: the definition of one of its routes. -/
inductive Edit : Value → Value → Prop where
  | bare {members members' : List (String × Value)} :
      index? members = none → Changed MemberEdit members members' →
      Edit (.object members) (.object members')
  | index (before after : List (String × Value)) {routes routes' : List (String × Value)} :
      (index? (before ++ ("routes", .object routes) :: after)).isSome →
      Changed MemberEdit routes routes' →
      Edit (.object (before ++ ("routes", .object routes) :: after))
        (.object (before ++ ("routes", .object routes') :: after))

theorem Edit.ofValue?_eq {v v' : Value} {map : RouteMap} (h : Edit v v')
    (accepted : ofValue? v = some map) : ofValue? v' = some map := by
  cases h with
  | bare none_before change =>
      rw [ofValue?, none_before, Option.none_or] at accepted
      rw [ofValue?, index?_of_changed none_before accepted change, Option.none_or,
        routes?_eq_of_changed change, accepted]
  | @index before after routes routes' found change =>
      obtain ⟨map', read⟩ := Option.isSome_iff_exists.1 found
      rw [ofValue?, read, Option.some_or] at accepted
      have once : (before ++ after).any (·.1 == "routes") = false := by
        rw [index?_eq, field?_self] at read
        split at read
        · cases read
        · next once => exact Bool.eq_false_iff.2 once
      have same : index? (before ++ ("routes", .object routes') :: after) = some map' := by
        rw [index?_eq, field?_self, once] at read ⊢
        exact (routes?_eq_of_changed change).trans read
      rw [ofValue?, same, Option.some_or, accepted]

theorem ofValue?_of_edits {v v' : Value} {map : RouteMap} (h : Relation.ReflTransGen Edit v v')
    (accepted : ofValue? v = some map) : ofValue? v' = some map := by
  induction h with
  | refl => exact accepted
  | tail _ edit ih => exact edit.ofValue?_eq ih

/-- An object that is no index of its own says the same as the routes of one. -/
theorem ofValue?_of_index {members index : List (String × Value)} {map : RouteMap}
    (bare : ∀ m ∈ members, m.1 ≠ "routes") (h : IsIndex index members)
    (accepted : ofValue? (.object members) = some map) :
    ofValue? (.object index) = some map := by
  have unindexed : index? members = none := by
    have absent : members.filter (·.1 == "routes") = [] := by
      rw [List.filter_eq_nil_iff]
      exact fun m hm => by simpa using bare m hm
    rw [index?, absent]
  rw [ofValue?, unindexed, Option.none_or] at accepted
  rw [ofValue?, h.index?_eq, accepted, Option.some_or]

theorem exists_read_of_ofText {text : String} {map : RouteMap}
    (h : RouteMap.ofText text = .ok map) :
    ∃ v, Value.read? levelLimit text = some v ∧ ofValue? v = some map := by
  unfold RouteMap.ofText at h
  split at h
  · cases h
  · next v rest found =>
      split at h
      · cases h
      · next routes judged =>
          split at h
          · next ended =>
              cases h
              refine ⟨v, ?_, judged⟩
              simp [Value.read?, found, List.isEmpty_iff.1 ended]
          · cases h

/-- A text says the same as its routes in an index, whatever else the index holds, and as every
text that writes one definition after the other otherwise. -/
theorem ofText_rewritten {text : String} {map : RouteMap}
    (accepted : RouteMap.ofText text = .ok map) :
    ∃ v, Value.read? levelLimit text = some v ∧
      (∀ members index text', v = .object members → (∀ m ∈ members, m.1 ≠ "routes") →
        IsIndex index members → Value.read? levelLimit text' = some (.object index) →
        RouteMap.ofText text' = .ok map) ∧
      (∀ v' text', Relation.ReflTransGen Edit v v' → Value.read? levelLimit text' = some v' →
        RouteMap.ofText text' = .ok map) := by
  obtain ⟨v, reads, judged⟩ := exists_read_of_ofText accepted
  refine ⟨v, reads, ?_, ?_⟩
  · rintro members index text' rfl bare indexed reads'
    rw [ofText_of_read reads', ofValue?_of_index bare indexed judged]
  · intro v' text' edits reads'
    rw [ofText_of_read reads', ofValue?_of_edits edits judged]

/-- The members of a definition with one endpoint, which says nothing but its arguments. -/
def endpointWith (args : Value) : List (String × Value) :=
  [("endpoints", .array [.object [("args", args)]])]

def single (definition : List (String × Value)) : Value := .object [("/a", .object definition)]

theorem edits_single : Relation.ReflTransGen Edit (single (endpointWith (.object [])))
    (single (("links", .null) :: endpointWith (.array [.null]))) := by
  refine .trans (.single (b := single (endpointWith (.array [.null]))) ?_) (.single ?_)
  · exact .bare rfl (.item [] [] (.route _ (.endpoint [] [] (.item [] [] (.args [] [] _)))))
  · exact .bare rfl (.item [] [] (.route _ (.members (.extend [] _ _ (by simp)))))

theorem ofText_rewritten_single :
    let bare := "\x7b\"/a\": \x7b\"endpoints\": [\x7b\"args\": \x7b\x7d\x7d]\x7d\x7d"
    let indexed := "\x7b\"name\": null, \"routes\": " ++
      "\x7b\"/a\": \x7b\"endpoints\": [\x7b\"args\": \x7b\x7d\x7d]\x7d\x7d\x7d"
    let edited :=
      "\x7b\"/a\": \x7b\"links\": null, \"endpoints\": [\x7b\"args\": [null]\x7d]\x7d\x7d"
    let map : RouteMap := .ofList [("/a", ⟨"", [], [⟨[], .empty⟩]⟩)]
    RouteMap.ofText bare = .ok map ∧ RouteMap.ofText indexed = .ok map ∧
      RouteMap.ofText edited = .ok map := by
  intro bare indexed edited map
  have reads : Value.read? levelLimit bare = some (single (endpointWith (.object []))) := by cbv
  have reads_index : Value.read? levelLimit indexed =
      some (.object [("name", .null), ("routes", single (endpointWith (.object [])))]) := by cbv
  have reads_edited : Value.read? levelLimit edited =
      some (single (("links", .null) :: endpointWith (.array [.null]))) := by cbv
  have accepted : RouteMap.ofText bare = .ok map := by
    rw [ofText_of_read reads]
    cbv
  obtain ⟨v, reads', of_index, of_edits⟩ := ofText_rewritten accepted
  obtain rfl := Option.some.inj (reads'.symm.trans reads)
  exact ⟨accepted, of_index [("/a", .object (endpointWith (.object [])))] _ indexed rfl (by simp)
    (by rfl) reads_index, of_edits _ edited edits_single reads_edited⟩

end RestRoutes.Document
