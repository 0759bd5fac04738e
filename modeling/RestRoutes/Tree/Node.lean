import RestRoutes.Component

/-!
Positions of a route tree. Routes share a position when the keys of their components agree all the
way down to it; `Node.absorb` walks a route down and adds the positions that are missing.
-/
namespace RestRoutes

structure Node where
  /-- The component of the first route that came here. -/
  component : String
  /-- What the components of the routes that come here have in common. -/
  key : MergeKey
  /-- Whether a value is filled in here. -/
  isDynamic : Bool
  level : Nat
  /-- What the component is called in the routes that came here, without repetitions. -/
  names : List String
  /-- What the component of the last route that came here accepts. -/
  validator : Validator
  /-- Methods of the routes that end here, if there are any. -/
  methods : Option MethodSet
  /-- The positions below, in the order in which routes first came to them, once a route has gone on
  from here. -/
  children? : Option (List Node)

namespace Node

mutual

def decideEq : (a b : Node) → Decidable (a = b)
  | ⟨c, k, d, l, ns, v, m, ks⟩, ⟨c', k', d', l', ns', v', m', ks'⟩ =>
    match decideEqChildren ks ks' with
    | isFalse h => isFalse fun e => h (congrArg children? e)
    | isTrue h =>
      if h' : c = c' ∧ k = k' ∧ d = d' ∧ l = l' ∧ ns = ns' ∧ v = v' ∧ m = m' then
        isTrue (by obtain ⟨rfl, rfl, rfl, rfl, rfl, rfl, rfl⟩ := h'; rw [h])
      else isFalse fun e => h' (by cases e; exact ⟨rfl, rfl, rfl, rfl, rfl, rfl, rfl⟩)

def decideEqChildren : (as bs : Option (List Node)) → Decidable (as = bs)
  | none, none => isTrue rfl
  | none, some _ => isFalse nofun
  | some _, none => isFalse nofun
  | some as, some bs =>
    match decideEqAll as bs with
    | isTrue h => isTrue (congrArg some h)
    | isFalse h => isFalse fun e => h (Option.some.inj e)

def decideEqAll : (as bs : List Node) → Decidable (as = bs)
  | [], [] => isTrue rfl
  | [], _ :: _ => isFalse fun e => by cases e
  | _ :: _, [] => isFalse fun e => by cases e
  | a :: as, b :: bs =>
    match decideEq a b, decideEqAll as bs with
    | isTrue h, isTrue h' => isTrue (by rw [h, h'])
    | isFalse h, _ => isFalse fun e => h (List.cons.inj e).1
    | _, isFalse h => isFalse fun e => h (List.cons.inj e).2

end

instance : DecidableEq Node := decideEq

def children (n : Node) : List Node := n.children?.getD []

/-- No route goes on from here. -/
def isLeaf (n : Node) : Bool := n.children?.isNone

def dynamicChildren (n : Node) : List Node := n.children.filter (·.isDynamic)

/-- A position to which no route has come yet. -/
def vacant (c : Component) (level : Nat) : Node :=
  ⟨c.text, c.segment.key, c.segment.isDynamic, level, [], .any, none, none⟩

/-- What changes when a route comes to a position. -/
def meet (n : Node) (c : Component) : Node :=
  let name := c.segment.label
  { n with
    names := if n.names.contains name then n.names else n.names ++ [name]
    validator := c.validator }

/-- What changes when a route ends at a position. -/
def finish (n : Node) (methods : MethodSet) : Node :=
  { n with methods := some ((n.methods.getD .empty).union methods) }

/-- Changes the first position with a key. If there is none, a new one is changed and put last. -/
def updateFirst (key : MergeKey) (new : Node) (f : Node → Node) : List Node → List Node
  | [] => [f new]
  | n :: ns => if n.key = key then f n :: ns else n :: updateFirst key new f ns

/-- Walks a route down from a position: `c` is the component of the position itself and the list
holds those below it. -/
def absorb (methods : MethodSet) : List Component → Component → Node → Node
  | [], c, n => (n.meet c).finish methods
  | next :: rest, c, n =>
    let n := n.meet c
    { n with
      children? := some (updateFirst next.segment.key (vacant next (n.level + 1))
        (absorb methods rest next) n.children) }

mutual

/-- The position and all below it, each before its children. -/
def preorder : Node → List Node
  | n@⟨_, _, _, _, _, _, _, none⟩ => [n]
  | n@⟨_, _, _, _, _, _, _, some children⟩ => n :: preorderAll children

def preorderAll : List Node → List Node
  | [] => []
  | n :: ns => n.preorder ++ preorderAll ns

end

end Node
end RestRoutes
