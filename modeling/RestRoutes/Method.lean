import RestRoutes.Text.Blank

/-!
Request methods and the sets of methods that a position allows. Sets list their members in a fixed
order, so two sets with the same members are equal (`MethodSet.ext_contains`). A set collected from
a list has `get` and `head` together or has neither.
-/
namespace RestRoutes

inductive Method where
  | get
  | head
  | post
  | put
  | patch
  | delete
  | options
deriving DecidableEq, Repr, Inhabited

namespace Method

/-- Every method, in the order in which sets list them. -/
def all : List Method := [.get, .head, .post, .put, .patch, .delete, .options]

theorem mem_all (m : Method) : m ∈ all := by cases m <;> decide

def name : Method → String
  | .get => "get"
  | .head => "head"
  | .post => "post"
  | .put => "put"
  | .patch => "patch"
  | .delete => "delete"
  | .options => "options"

end Method

/-- A text, without the blanks around it, that names no method. -/
structure UnknownMethod where
  text : String
deriving DecidableEq, Repr

def UnknownMethod.message (e : UnknownMethod) : String := s!"unsupported HTTP method: {e.text}"

/-- Reads a method's name in either case, with blanks around it. -/
def Method.parse (text : String) : Except UnknownMethod Method :=
  let name := trim text
  match all.find? fun m => equalAsciiCase name m.name with
  | some m => .ok m
  | none => .error ⟨name⟩

/-- A set of methods, listed in the order of `Method.all`. -/
structure MethodSet where
  toList : List Method
  listed : toList = Method.all.filter (toList.contains ·)

namespace MethodSet

instance : DecidableEq MethodSet := fun a b =>
  if h : a.toList = b.toList then isTrue (by cases a; cases b; cases h; rfl)
  else isFalse fun same => h (same ▸ rfl)

def contains (s : MethodSet) (m : Method) : Bool := s.toList.contains m

/-- The methods that pass a test. -/
def filter (p : Method → Bool) : MethodSet where
  toList := Method.all.filter p
  listed := by
    refine List.filter_congr fun m _ => ?_
    simp [Method.mem_all]

theorem contains_filter (p : Method → Bool) (m : Method) : (filter p).contains m = p m := by
  simp [contains, filter, Method.mem_all]

theorem ext_contains {s t : MethodSet} (h : ∀ m, s.contains m = t.contains m) : s = t := by
  have same : s.toList = t.toList := by
    rw [s.listed, t.listed]
    exact List.filter_congr fun m _ => h m
  cases s
  cases t
  cases same
  rfl

def empty : MethodSet := filter fun _ => false

def isEmpty (s : MethodSet) : Bool := s.toList.isEmpty

def size (s : MethodSet) : Nat := s.toList.length

/-- `get` and `head` are interchangeable: a list that has one gives both. -/
def pairs (ms : List Method) (m : Method) : Bool :=
  ms.contains m || (m == .head && ms.contains .get) || (m == .get && ms.contains .head)

/-- The methods of a list in any order, with `get` and `head` paired. -/
def ofList (ms : List Method) : MethodSet := filter (pairs ms)

/-- Adds a list of methods and pairs `get` and `head` again. -/
def extend (s : MethodSet) (ms : List Method) : MethodSet := ofList (s.toList ++ ms)

/-- Members of either set. No pairing is needed when both sets are paired. -/
def union (s t : MethodSet) : MethodSet := filter fun m => s.contains m || t.contains m

/-- What a request may use before its path says more. -/
def builderDefault : MethodSet := ofList [.head, .get, .put, .post, .delete]

/-- What a route accepts when it does not say. -/
def allWritable : MethodSet := ofList [.head, .get, .patch, .put, .post, .delete]

def names (s : MethodSet) : List String := s.toList.map (·.name)

def text (s : MethodSet) : String := ", ".intercalate s.names

theorem contains_union (s t : MethodSet) (m : Method) :
    (s.union t).contains m = (s.contains m || t.contains m) :=
  contains_filter _ m

theorem contains_ofList (ms : List Method) (m : Method) : (ofList ms).contains m = pairs ms m :=
  contains_filter _ m

/-- A set is paired when it has both of `get` and `head` or neither. -/
def Paired (s : MethodSet) : Prop := s.contains .get = s.contains .head

theorem ofList_paired (ms : List Method) : (ofList ms).Paired := by
  have get_ne_head : (Method.get == Method.head) = false := rfl
  have head_ne_get : (Method.head == Method.get) = false := rfl
  simp [Paired, contains_ofList, pairs, get_ne_head, head_ne_get, Bool.or_comm]

example : builderDefault.text = "get, head, post, put, delete" := by decide

end MethodSet
end RestRoutes
