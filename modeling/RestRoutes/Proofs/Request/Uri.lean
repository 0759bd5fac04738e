import RestRoutes.Proofs.Request.Invariants

/-!
The parts of a URI. A path says what the slots hold and is not encoded, so the first question mark
of a URI ends the path unless a slot holds one already (`uri_parts_iff`). Such a value was supplied
by a caller, or is the name of the resource or the text of a literal position.
-/
namespace RestRoutes

theorem Path.mem_of_mem_dropTrailing {c : Char} {s : String} (h : c ∈ (dropTrailing s).toList) :
    c ∈ s.toList := by
  rw [dropTrailing, String.toList_ofList, List.mem_reverse] at h
  exact List.mem_reverse.1 ((List.dropWhile_suffix _).subset h)

theorem mem_intercalate {c : Char} {separator : List Char} (other : c ∉ separator)
    (parts : List (List Char)) : c ∈ separator.intercalate parts ↔ ∃ part ∈ parts, c ∈ part := by
  induction parts with
  | nil => simp [List.intercalate]
  | cons part parts ih =>
      cases parts with
      | nil => simp
      | cons next parts =>
          rw [List.intercalate_cons_cons, List.mem_append, List.mem_append, ih]
          simp [other]

theorem mem_joined_iff {c : Char} {separator : String} (other : c ∉ separator.toList)
    (texts : List String) :
    c ∈ (separator.intercalate (texts.filter (!·.isEmpty))).toList ↔
      ∃ text ∈ texts, c ∈ text.toList := by
  rw [String.toList_intercalate, mem_intercalate other]
  constructor
  · rintro ⟨_, hpart, member⟩
    obtain ⟨text, kept, rfl⟩ := List.mem_map.1 hpart
    exact ⟨text, (List.mem_filter.1 kept).1, member⟩
  · rintro ⟨text, listed, member⟩
    have filled : (!text.isEmpty) = true := by
      rw [Bool.not_eq_true', Bool.eq_false_iff]
      intro empty
      rw [String.isEmpty_iff.1 empty] at member
      cases member
    exact ⟨text.toList, List.mem_map_of_mem (List.mem_filter.2 ⟨listed, filled⟩), member⟩

namespace Uri

def parts (uri : String) : String × String :=
  match cutAt? ['?'] uri.toList with
  | some (before, after) => (String.ofList before, String.ofList after)
  | none => (uri, "")

theorem parts_of_not_mem {uri : String} (h : '?' ∉ uri.toList) : parts uri = (uri, "") := by
  rw [parts, cutAt?_eq_none_iff.2 h]

theorem parts_append {before : String} (h : '?' ∉ before.toList) (after : String) :
    parts (before ++ "?" ++ after) = (before, after) := by
  have listed : (before ++ "?" ++ after).toList = before.toList ++ '?' :: after.toList := by simp
  rw [parts, listed, cutAt?_of_not_mem h]
  simp

theorem exists_first {text : String} (h : '?' ∈ text.toList) :
    ∃ before after, text = before ++ "?" ++ after ∧ '?' ∉ before.toList := by
  obtain ⟨before, after, split, first⟩ := List.eq_append_cons_of_mem h
  refine ⟨.ofList before, .ofList after, ?_, by rwa [String.toList_ofList]⟩
  rw [← String.toList_inj]
  simpa using split

end Uri

/-- Where a value of a slot may come from: the name of the resource, the text of a literal position,
or a caller. -/
inductive Endpoint.Source (e : Endpoint) (uses : List Use) : Nat → String → Prop
  | resource : Source e uses 0 e.resource
  | literal {name text : String} {level : Nat} {methods : Option MethodSet}
      {promotion : Option Promotion} :
      e.capabilities.get? name = some (.path (.static level text methods promotion)) →
        Source e uses level text
  | caller {use : Use} {level : Nat} {value : String} :
      use ∈ uses → use.Supplies e level value → Source e uses level value

namespace Request

theorem stable_address (e : Endpoint) (base : String) :
    Stable fun r => r.target = e ∧ r.base = base where
  slots _ _ _ same := same
  methods _ _ _ _ _ _ _ _ same := same
  mixin _ same _ _ _ _ := same
  param _ _ _ same := same

theorem source_of_slot {e : Endpoint} (compiled : e.Compiled) {base : String} {uses : List Use}
    {level : Nat} {value : String}
    (held : ((new e base).used uses).slots.get? level = some value) :
    e.Source uses level value := by
  have apart : (new e base).target.Apart := compiled.apart
  rcases exists_use_of_slot apart held with
    from_start | ⟨before, use, later, rfl, _, f, hf, rfl, rfl⟩
  · have entry := Dict.get?_eq_some_iff.1 from_start
    cases List.mem_singleton.1 entry
    exact .resource
  · rcases Use.supplies_of_mem_fills hf with supplied | ⟨name, promotion, literal⟩
    · exact .caller (by simp) supplied
    · exact .literal literal

variable {r : Request} {path : String}

def uriTail (r : Request) : String := if r.renderQuery.isEmpty then "" else "?" ++ r.renderQuery

theorem exists_path_of_renderUri {uri : String} (h : r.renderUri = .ok uri) :
    ∃ path, r.renderPath = .ok path ∧
      uri = Path.dropTrailing r.base ++ "/" ++ path ++ r.uriTail := by
  unfold renderUri at h
  cases rendered : r.renderPath with
  | error err =>
      rw [rendered] at h
      cases h
  | ok path =>
      rw [rendered] at h
      cases h
      exact ⟨path, rfl, rfl⟩

theorem valid_of_renderPath (h : r.renderPath = .ok path) : r.validate = .ok () := by
  unfold renderPath at h
  cases validated : r.validate with
  | error err =>
      rw [validated] at h
      cases h
  | ok _ => rfl

/-- A sign other than a slash stands in a path just if the namespace or a slot holds it. -/
theorem mem_path_iff (h : r.renderPath = .ok path) {c : Char} (other : c ≠ '/') :
    c ∈ path.toList ↔ c ∈ r.target.ns.toList ∨
      ∃ level value, r.slots.get? level = some value ∧ c ∈ value.toList := by
  rw [renderPath_of_valid (valid_of_renderPath h)] at h
  cases h
  rw [mem_joined_iff (by simpa using other)]
  simp only [List.mem_cons, exists_eq_or_imp]
  refine or_congr_right ⟨?_, ?_⟩
  · rintro ⟨text, stored, member⟩
    obtain ⟨⟨level, _⟩, listed, rfl⟩ := List.mem_map.1 stored
    exact ⟨level, _, Dict.get?_eq_some_iff.2 listed, member⟩
  · rintro ⟨level, text, held, member⟩
    have stored : text ∈ r.slots.values :=
      List.mem_map.2 ⟨(level, text), Dict.get?_eq_some_iff.1 held, rfl⟩
    exact ⟨text, stored, member⟩

theorem parts_of_plain {front : String} (plain : '?' ∉ (front ++ path).toList) :
    Uri.parts (front ++ path ++ r.uriTail) = (front ++ path, r.renderQuery) := by
  unfold uriTail
  split
  · next empty => rw [String.append_empty, Uri.parts_of_not_mem plain, String.isEmpty_iff.1 empty]
  · rw [← String.append_assoc]
    exact Uri.parts_append plain _

/-- The first question mark of a URI stands between the path and the query, unless the path has one
of its own: then a piece of the path is taken for the query. It is the namespace or a slot that has
it, and a slot has it from the resource, a literal position or a caller. -/
theorem uri_parts_iff {e : Endpoint} (compiled : e.Compiled) {base : String}
    (plain : '?' ∉ base.toList) (uses : List Use) {uri : String}
    (rendered : ((new e base).used uses).renderUri = .ok uri) :
    let r := (new e base).used uses
    ∃ path, r.renderPath = .ok path ∧
      (Uri.parts uri = (Path.dropTrailing base ++ "/" ++ path, r.renderQuery) ↔
        '?' ∉ path.toList) ∧
      (∀ before after, path = before ++ "?" ++ after → '?' ∉ before.toList →
        Uri.parts uri = (Path.dropTrailing base ++ "/" ++ before, after ++ r.uriTail)) ∧
      ('?' ∈ path.toList ↔ '?' ∈ e.ns.toList ∨
        ∃ level value, r.slots.get? level = some value ∧ '?' ∈ value.toList) ∧
      ∀ level value, r.slots.get? level = some value → e.Source uses level value := by
  intro r
  obtain ⟨target, address⟩ : r.target = e ∧ r.base = base :=
    (stable_address e base).holds_used ⟨rfl, rfl⟩ uses
  obtain ⟨path, hpath, written⟩ : ∃ path, r.renderPath = .ok path ∧
      uri = Path.dropTrailing r.base ++ "/" ++ path ++ r.uriTail :=
    exists_path_of_renderUri rendered
  rw [address] at written
  have front : '?' ∉ (Path.dropTrailing base ++ "/").toList := by
    rw [String.toList_append, List.mem_append, not_or]
    exact ⟨fun member => plain (Path.mem_of_mem_dropTrailing member), by decide⟩
  have joined (text : String) (clean : '?' ∉ text.toList) :
      '?' ∉ (Path.dropTrailing base ++ "/" ++ text).toList := by
    rw [String.toList_append, List.mem_append, not_or]
    exact ⟨front, clean⟩
  have moved : ∀ before after, path = before ++ "?" ++ after → '?' ∉ before.toList →
      Uri.parts uri = (Path.dropTrailing base ++ "/" ++ before, after ++ r.uriTail) := by
    intro before after split clean
    rw [written, split, ← Uri.parts_append (joined before clean)]
    simp only [String.append_assoc]
  refine ⟨path, hpath, ⟨?_, ?_⟩, moved, ?_, fun level value => source_of_slot compiled⟩
  · intro apart mark
    obtain ⟨before, after, split, clean⟩ := Uri.exists_first mark
    rw [moved before after split clean, Prod.mk.injEq] at apart
    have same : before = path := by simpa using apart.1
    exact clean (same ▸ mark)
  · intro clean
    rw [written]
    exact parts_of_plain (joined path clean)
  · rw [← target]
    exact mem_path_iff hpath (by decide)

def openRoutes : RouteMap := .ofList [("/wp/v2/posts/(?P<id>)", ⟨"wp/v2", [.get], []⟩)]

def forcing : List Use := [.act (.invoke "id" (some "7?force=true"))]

/-- The parameter is not part of the query, and yet the URI has it there. -/
theorem uri_parts_iff_forcing :
    ∃ e, e.Compiled ∧
      ((new e "http://x/").used forcing).renderUri = .ok "http://x/wp/v2/posts/7?force=true" ∧
      Uri.parts "http://x/wp/v2/posts/7?force=true" = ("http://x/wp/v2/posts/7", "force=true") ∧
      ∃ level value, ((new e "http://x/").used forcing).slots.get? level = some value ∧
        '?' ∈ value.toList ∧ e.Source forcing level value := by
  have computed : ((Catalog.bootstrap {} .empty openRoutes).outcome.bind
      (·.resource "wp/v2" "posts")).toOption.any (fun e => e.ns = "wp/v2" &&
        ((new e "http://x/").used forcing).renderQuery = "" &&
        ((new e "http://x/").used forcing).renderUri.toOption =
          some "http://x/wp/v2/posts/7?force=true") = true := by
    decide +kernel
  obtain ⟨e, compiled, holds⟩ := Endpoint.Compiled.exists_of_any computed
  simp only [Bool.and_eq_true, decide_eq_true_eq] at holds
  obtain ⟨⟨ns, query⟩, holds⟩ := holds
  have rendered : ((new e "http://x/").used forcing).renderUri =
      .ok "http://x/wp/v2/posts/7?force=true" := by
    cases ran : ((new e "http://x/").used forcing).renderUri with
    | error err =>
        rw [ran] at holds
        cases holds
    | ok uri =>
        rw [ran] at holds
        exact congrArg Except.ok (Option.some.inj holds)
  obtain ⟨path, _, apart, _, origin, source⟩ :=
    uri_parts_iff compiled (by decide) forcing rendered
  have cut : Uri.parts "http://x/wp/v2/posts/7?force=true" =
      ("http://x/wp/v2/posts/7", "force=true") := by
    decide +kernel
  -- Otherwise the query on the right would be the one of the request, which is empty.
  have mark : '?' ∈ path.toList := by
    refine Decidable.not_not.1 fun clean => ?_
    have kept := apart.2 clean
    rw [cut, query, Prod.mk.injEq] at kept
    exact absurd kept.2 (by decide)
  rcases origin.1 mark with named | ⟨level, value, held, inside⟩
  · rw [ns] at named
    exact absurd named (by decide)
  · exact ⟨e, compiled, rendered, cut, level, value, held, inside, source level value held⟩

/-- The path ends with the value and the query is empty, but a reader of the URI sees a query. -/
theorem value_read_as_query :
    ((Catalog.bootstrap {} .empty openRoutes).outcome.bind
      (·.resource "wp/v2" "posts")).toOption.map (fun e =>
        let r := (new e "http://x/").used forcing
        (r.renderPath.toOption, r.renderQuery, r.renderUri.toOption.map Uri.parts)) =
      some (some "wp/v2/posts/7?force=true", "",
        some ("http://x/wp/v2/posts/7", "force=true")) := by
  decide +kernel

end Request
end RestRoutes
