import RestRoutes.Dict
import RestRoutes.Setter

/-!
Setters of a resource by name. The first setter keeps its name: the same setter may come again, and
a different one is a conflict, of which there is a record and a warning.
-/
namespace RestRoutes

/-- A setter, and the position that it was made for. -/
structure AliasEntry where
  setter : Setter
  origin : Place
deriving DecidableEq

structure AliasTable where
  ns : String
  resource : String
  entries : Dict String AliasEntry
  /-- Conflicts in the order in which they came up. -/
  conflicts : List AliasConflict
deriving DecidableEq

namespace AliasTable

def empty (ns resource : String) : AliasTable := ⟨ns, resource, .empty, []⟩

/-- Registers a setter, and says whether it is a new one. -/
def register (t : AliasTable) (label : String) (origin : Place) (setter : Setter) :
    Logged (AliasTable × Bool) := do
  match t.entries.get? label with
  | none => return ({ t with entries := t.entries.insert label ⟨setter, origin⟩ }, true)
  | some kept =>
    if kept.setter = setter then return (t, false)
    let conflict : AliasConflict := ⟨t.ns, t.resource, label, kept.origin, origin⟩
    Logged.note (.conflict conflict)
    return ({ t with conflicts := t.conflicts ++ [conflict] }, false)

theorem register_of_free {t : AliasTable} {label : String} (origin : Place) (setter : Setter)
    (h : t.entries.get? label = none) :
    t.register label origin setter =
      ⟨({ t with entries := t.entries.insert label ⟨setter, origin⟩ }, true), []⟩ := by
  simp [register, h, pure]

theorem register_of_same {t : AliasTable} {label : String} {kept : AliasEntry} (origin : Place)
    (h : t.entries.get? label = some kept) :
    t.register label origin kept.setter = ⟨(t, false), []⟩ := by
  simp [register, h, pure]

/-- A conflict changes no entry, and there is one warning about it. -/
theorem register_of_conflict {t : AliasTable} {label : String} {kept : AliasEntry}
    {origin : Place} {setter : Setter} (h : t.entries.get? label = some kept)
    (differ : kept.setter ≠ setter) :
    let conflict : AliasConflict := ⟨t.ns, t.resource, label, kept.origin, origin⟩
    t.register label origin setter =
      ⟨({ t with conflicts := t.conflicts ++ [conflict] }, false), [.conflict conflict]⟩ := by
  simp [register, h, differ, pure, bind, Logged.note]

end AliasTable
end RestRoutes
