import RestRoutes.Alias
import RestRoutes.Text.CamelCase
import RestRoutes.Tree

/-!
Blueprints: the tree of a resource laid flat. For each level they list what a slot may hold, and for
each name the setter that fills a slot.
-/
namespace RestRoutes

/-- What a slot may hold, and the methods of the routes that end there. -/
structure Shape where
  component : String
  validator : Validator
  methods : Option MethodSet
deriving DecidableEq

def Shape.ofNode (n : Node) : Shape := ⟨n.component, n.validator, n.methods⟩

/-- Shapes by level, in the order of the tree. -/
abbrev Levels := Dict Nat (List Shape)

def Levels.ofNodes (ns : List Node) : Levels :=
  ns.foldl (fun levels n => levels.push n.level (Shape.ofNode n)) .empty

theorem Levels.get?_ofNodes (ns : List Node) (level : Nat) :
    ((Levels.ofNodes ns).get? level).getD [] = (ns.filter (·.level = level)).map Shape.ofNode := by
  rw [ofNodes, Dict.get?_foldl_push]
  split
  · next nobody =>
      rw [nobody]
      rfl
  · rfl

theorem Levels.contains_ofNodes (ns : List Node) (level : Nat) :
    (Levels.ofNodes ns).contains level = true ↔ ∃ n ∈ ns, n.level = level := by
  rw [Dict.contains, ofNodes, Dict.get?_foldl_push]
  split
  · next nobody => simpa [Dict.get?_empty, List.filter_eq_nil_iff] using nobody
  · next somebody => simpa [List.filter_eq_nil_iff] using somebody

/-- The level of a position lists its shape. -/
theorem Levels.exists_shapes {ns : List Node} {n : Node} (hn : n ∈ ns) :
    ∃ shapes, (ofNodes ns).get? n.level = some shapes ∧ Shape.ofNode n ∈ shapes := by
  have member : Shape.ofNode n ∈ ((ofNodes ns).get? n.level).getD [] := by
    rw [get?_ofNodes]
    exact List.mem_map_of_mem (List.mem_filter.2 ⟨hn, by simp⟩)
  cases found : (ofNodes ns).get? n.level with
  | none =>
      rw [found] at member
      cases member
  | some shapes => exact ⟨shapes, rfl, by rwa [found] at member⟩

structure Blueprint where
  ns : String
  resource : String
  levels : Levels
  setters : AliasTable
  getArgs : Dict String Unit
deriving DecidableEq

namespace Blueprint

/-- Registers the setter of a position under each of its names. The resource itself has none. -/
def registerNode (options : Options) (t : AliasTable) (n : Node) : Logged AliasTable :=
  if n.level = 0 then pure t
  else n.names.foldlM (fun t name => do
    let (t, _) ← t.register (camelCase name) ⟨n.component, n.level⟩ (.ofNode options n)
    return t) t

def ofTree (options : Options) (ns : String) (tree : ResourceTree) : Logged Blueprint := do
  let nodes := tree.root.preorder
  let setters ← nodes.foldlM (registerNode options) (.empty ns tree.name)
  return ⟨ns, tree.name, .ofNodes nodes, setters, tree.getArgs⟩

def conflicts (b : Blueprint) : List AliasConflict := b.setters.conflicts

end Blueprint
end RestRoutes
