import RestRoutes.Error

/-!
Notices that building leaves behind, and computations that collect them. `Logged` keeps the notices
in the order in which they were made; `Build` may also fail, and keeps them then too.
-/
namespace RestRoutes

inductive Severity where
  | trace
  | debug
  | warn
deriving DecidableEq, Repr

def Severity.name : Severity → String
  | .trace => "trace"
  | .debug => "debug"
  | .warn => "warn"

inductive Notice where
  | noResource (route ns : String)
  | noComponents (route : String)
  /-- A component that holds the opening of a group but is more than one group. -/
  | mixedComponent (route component : String)
  | unusablePattern (route component : String) (cause : InvalidPattern)
  | conflict (c : AliasConflict)
  | reservedName (ns resource kind name : String)
  | shadowed (ns resource kind name existing : String)
  | bootstrapped (namespaces routes : Nat)
  | registered (route : String)
deriving DecidableEq

namespace Notice

def severity : Notice → Severity
  | .noResource .. | .noComponents .. => .trace
  | .unusablePattern .. | .conflict .. => .warn
  | _ => .debug

def message : Notice → String
  | .noResource route ns => s!"skipping route `{route}`: no resource below namespace `{ns}`"
  | .noComponents route => s!"skipping route `{route}`: no components"
  | .mixedComponent route component =>
    s!"route `{route}`: component `{component}` is not a single named group; treating it as literal"
  | .unusablePattern route component cause =>
    s!"route `{route}`: {cause.message}; `{component}` will accept any value"
  | .conflict c => c.text
  | .reservedName ns resource kind name =>
    s!"{ns}/{resource}: {kind} `{name}` shadowed by a builder method"
  | .shadowed ns resource kind name existing =>
    s!"{ns}/{resource}: {kind} `{name}` shadowed by {existing} of the same name"
  | .bootstrapped namespaces routes =>
    s!"bootstrapped {namespaces} namespace(s) from {routes} route(s)"
  | .registered route => s!"registered ad hoc route `{route}`"

end Notice

/-- A value, and the notices made on the way to it. -/
structure Logged (α : Type) where
  value : α
  notices : List Notice

namespace Logged

instance : Monad Logged where
  pure a := ⟨a, []⟩
  bind x f := ⟨(f x.value).value, x.notices ++ (f x.value).notices⟩

instance : LawfulMonad Logged :=
  LawfulMonad.mk' Logged (fun x => by simp [Functor.map]) (fun x f => by simp [pure, bind])
    (fun x f g => by simp [bind])

def note (n : Notice) : Logged Unit := ⟨(), [n]⟩

end Logged

/-- A computation that makes notices and may fail. -/
abbrev Build := ExceptT Error Logged

end RestRoutes
