import RestRoutes.Endpoint
import RestRoutes.Text.Percent

/-!
Requests to a resource: the slots of the path filled so far, the methods that this path allows, and
the query. Operations change the request and may fail; the request that a failure leaves behind is
part of its outcome.
-/
namespace RestRoutes

structure Request where
  target : Endpoint
  /-- Where the API is found. -/
  base : String
  /-- Values by level. -/
  slots : Dict Nat String
  methods : MethodSet
  query : Query

namespace Request

/-- Operations on a request. -/
abbrev Op := EStateM Error Request

/-- A request that names its resource and nothing else. -/
def new (target : Endpoint) (base : String) : Request where
  target := target
  base := base
  slots := Dict.empty.insert 0 target.resource
  methods := .builderDefault
  query := .empty

/-- Fills a slot. A slot is never filled twice. -/
def fill (level : Nat) (value : String) : Op Unit := do
  match (← get).slots.get? level with
  | some existing => throw (.slotOccupied level existing)
  | none => modify fun r => { r with slots := r.slots.insert level value }

theorem run_fill (r : Request) (level : Nat) (value : String) :
    (fill level value).run r =
      match r.slots.get? level with
      | some existing => .error (.slotOccupied level existing) r
      | none => .ok () { r with slots := r.slots.insert level value } := by
  have step : (fill level value).run r =
      (match r.slots.get? level with
        | some existing => throw (.slotOccupied level existing)
        | none => modify fun r => { r with slots := r.slots.insert level value } : Op Unit).run r :=
    rfl
  rw [step]
  cases r.slots.get? level <;> rfl

theorem run_fill_of_free {r : Request} {level : Nat} (value : String)
    (h : r.slots.get? level = none) :
    (fill level value).run r = .ok () { r with slots := r.slots.insert level value } := by
  rw [run_fill, h]

theorem run_fill_of_taken {r : Request} {level : Nat} {existing : String} (value : String)
    (h : r.slots.get? level = some existing) :
    (fill level value).run r = .error (.slotOccupied level existing) r := by
  rw [run_fill, h]

/-- Allows the methods of a position where routes end. -/
def narrow (methods : Option MethodSet) : Op Unit :=
  modify fun r => { r with methods := methods.getD r.methods }

/-- Applies a setter. A literal position with a value to pass on is not filled unless the slot for
that value is free. -/
def applySetter (name : String) (value : Option String) : Setter → Op Unit
  | .dynamic level methods => do
    let some value := value | throw (.missingValue name)
    fill level value
    narrow methods
  | .static level component methods promotion => do
    match value, promotion with
    | some value, some child =>
      if let some existing := (← get).slots.get? child.level then
        throw (.slotOccupied child.level existing)
      fill level component
      narrow methods
      fill child.level value
      narrow child.methods
    | _, _ =>
      fill level component
      narrow methods

/-- Does to the query of the request what an operation on queries does, also where that fails. -/
def onQuery (op : EStateM Error Query Unit) : Op Unit := fun r =>
  match op.run r.query with
  | .ok _ query => .ok () { r with query }
  | .error err query => .error err { r with query }

/-- Calls a capability by name. -/
def invoke (name : String) (value : Option String) : Op Unit := do
  let r ← get
  match r.target.capabilities.get? name with
  | some (.path setter) => applySetter name value setter
  | some (.mixin mixin) => onQuery (mixin.op value)
  | none => throw (.unknownCapability r.target.resource name)

/-- Gives a parameter one value. -/
def param (name value : String) : Op Unit :=
  modify fun r => { r with query := r.query.insert name [value] }

/-- Whether the slot of a level is filled, or one behind it. -/
def reaches (r : Request) (level : Nat) : Bool := r.slots.keys.any (level ≤ ·)

/-- The value in each slot up to the last one filled, for the levels that the resource has. -/
def slotValues (r : Request) : Except Error (List (Option String)) :=
  (r.target.levels.entries.filter (r.reaches ·.1)).mapM fun (level, shapes) =>
    match r.slots.get? level with
    | none => .ok none
    | some value =>
      if shapes.any (·.validator.accepts value) then .ok (some value)
      else .error (.invalidSlot value (shapes.map (·.component)))

/-- Every value is accepted at its level, and there is no gap. -/
def validate (r : Request) : Except Error Unit := do
  let values ← r.slotValues
  if values.all (·.isSome) then return ()
  throw (.incompletePath ("/".intercalate (values.map (·.getD " ??? "))))

def renderPath (r : Request) : Except Error String := do
  r.validate
  return "/".intercalate ((r.target.ns :: r.slots.values).filter (!·.isEmpty))

/-- The parameters in a query, each value with the name before it. -/
def renderParam (name : String) (values : List String) : List String :=
  let suffix := if values.length > 1 then "[]" else ""
  values.map fun value => s!"{Percent.encode name}{suffix}={Percent.encode value}"

def renderQuery (r : Request) : String :=
  "&".intercalate (r.query.entries.flatMap fun (name, values) => renderParam name values)

def renderUri (r : Request) : Except Error String := do
  let path ← r.renderPath
  let query := r.renderQuery
  let tail := if query.isEmpty then "" else "?" ++ query
  return Path.dropTrailing r.base ++ "/" ++ path ++ tail

/-- The path filled in so far allows the method. -/
def checkMethod (r : Request) (m : Method) : Except Error Unit :=
  if r.methods.contains m then .ok () else .error (.unsupportedMethod m r.methods)

end Request
end RestRoutes
