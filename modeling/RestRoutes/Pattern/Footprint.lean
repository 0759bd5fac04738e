import RestRoutes.Pattern.Plan
import RestRoutes.Pattern.Spelling
import RestRoutes.Slots

/-!
The memory that the automata of an expression take, in bytes. There are two of them: one reads texts
from the start, and one, without groups, from the end. Both go one byte of UTF-8 at a time, so a set
of characters takes as many states as it needs to tell its spellings apart. Patterns with an
automaton that is too large are refused.
-/
namespace RestRoutes.Pattern

/-- A state takes 32 bytes. -/
def stateSize : Nat := 32

/-- A way on to another state by a range of bytes. -/
def stepSize : Nat := 8

/-- A way on to another state without reading. -/
def linkSize : Nat := 4

/-- What has been laid out so far. States are numbered in the order in which they are added. -/
structure Layout where
  states : Nat
  bytes : Nat
deriving DecidableEq, Repr

namespace Layout

def start : Layout := ⟨0, 0⟩

def addStates (l : Layout) (n : Nat) : Layout := ⟨l.states + n, l.bytes + stateSize * n⟩

/-- A state with several steps. -/
def addSteps (l : Layout) (n : Nat) : Layout := ⟨l.states + 1, l.bytes + stateSize + stepSize * n⟩

def addLinks (l : Layout) (n : Nat) : Layout := { l with bytes := l.bytes + linkSize * n }

end Layout

/-! States of a set are shared when they lead to the same. The states that may be shared are
remembered by a hash of what they lead to, in a bounded number of slots; of two states with one slot
the later is remembered. -/

/-- Two to this power is no less than the number of slots. -/
def slotBits : Nat := 14

structure Memory where
  slots : Nat
  states : Slots (List Nat × Nat)

namespace Memory

def ofSlots (n : Nat) : Memory := ⟨n, .empty⟩

def slot (m : Memory) (key : List Nat) : Nat :=
  let hash := key.foldl (fun (h : UInt64) k => (h ^^^ k.toUInt64) * 1099511628211)
    14695981039346656037
  hash.toNat % m.slots

def find? (m : Memory) (key : List Nat) : Option Nat := do
  let (known, state) ← m.states.find? (m.slot key)
  if known == key then some state else none

def record (m : Memory) (key : List Nat) (state : Nat) : Memory :=
  { m with states := .put (key, state) slotBits m.states (m.slot key) }

end Memory

/-- What is laid out of a set, and what is remembered of it. -/
structure Progress where
  layout : Layout
  memory : Memory

namespace Progress

/-- The state with the given steps. Each step is a least byte, a greatest byte and the state that it
leads to. -/
def stateOf (p : Progress) (steps : List Nat) : Nat × Progress :=
  match p.memory.find? steps with
  | some state => (state, p)
  | none =>
    let state := p.layout.states
    (state, ⟨p.layout.addSteps (steps.length / 3), p.memory.record steps state⟩)

/-- The state that reads a range of bytes and goes on to a state. -/
def stateBefore (p : Progress) (next lo hi : Nat) : Nat × Progress :=
  match p.memory.find? [next, lo, hi] with
  | some state => (state, p)
  | none =>
    let state := p.layout.states
    (state, ⟨p.layout.addStates 1, p.memory.record [next, lo, hi] state⟩)

end Progress

/-- A state that is not laid out yet: its finished steps, last first, and the range of the step that
is still open. -/
structure Draft where
  done : List Nat
  last : Option (Nat × Nat)

namespace Draft

def blank : Draft := ⟨[], none⟩

/-- All steps, once it is known where the open one leads. -/
def closed (d : Draft) (next : Nat) : List Nat :=
  match d.last with
  | some (lo, hi) => next :: hi :: lo :: d.done
  | none => d.done

end Draft

/-- How many ranges of a sequence have just been spelled by the open steps. -/
def spelled : List Draft → ByteSequence → Nat
  | d :: ds, r :: rs => if d.last == some r then spelled ds rs + 1 else 0
  | _, _ => 0

/-- Lays out drafts, the last first. Each leads to the one after it and the last to `target`. -/
def layDrafts (target : Nat) (p : Progress) : List Draft → Nat × Progress
  | [] => (target, p)
  | d :: ds =>
    let (next, p) := layDrafts target p ds
    p.stateOf (d.closed next).reverse

/-- Lays out all drafts but the first `n`, and closes the open step of the last of those. -/
def settle (target n : Nat) (p : Progress) (drafts : List Draft) : List Draft × Progress :=
  match drafts.take n, drafts.drop n with
  | kept, d :: ds =>
    let (next, p) := layDrafts target p ds
    (kept ++ [⟨d.closed next, none⟩], p)
  | kept, [] => (kept, p)

/-- The sequences of a set read forward. Those that end alike share the states at their ends. -/
def laySetForward (l : Layout) (sequences : List ByteSequence) : Layout :=
  let target := l.states
  let begin : List Draft × Progress := ([.blank], ⟨l.addStates 1, .ofSlots 10000⟩)
  let (drafts, p) := sequences.foldl (fun (drafts, p) ranges =>
    let n := spelled drafts ranges
    let (drafts, p) := settle target n p drafts
    let fresh := (ranges.drop n).map fun r => (⟨[], some r⟩ : Draft)
    match drafts.reverse, fresh with
    | d :: ds, f :: fs => (ds.reverse ++ ⟨d.done, f.last⟩ :: fs, p)
    | _, _ => (drafts, p)) begin
  (layDrafts target p drafts).2.layout

/-- The sequences of a set read backward, from one state with a link to each. Those that begin alike
share the states at their beginnings. -/
def laySetBackward (l : Layout) (sequences : List ByteSequence) : Layout :=
  let target := l.states + 1
  let begin : Progress := ⟨l.addStates 2, .ofSlots 1000⟩
  let p := sequences.foldl (fun p ranges =>
    let (_, p) := ranges.foldl (fun (next, p) r => p.stateBefore next r.1 r.2) (target, p)
    { p with layout := p.layout.addLinks 1 }) begin
  p.layout

/-- What has to be laid out for an expression, in order. -/
inductive Material where
  | plain (states bytes : Nat)
  | spelled (sequences : List ByteSequence)
  | both (a b : Material)
  | copies (n : Nat) (a : Material)

namespace Material

/-- States, and links that they have. -/
def ofStates (n links : Nat) : Material := .plain n (stateSize * n + linkSize * links)

def all (ms : List Material) : Material := ms.foldr both (.ofStates 0 0)

/-- Characters of ASCII are told apart by one state with a step for each range. -/
def ofSet (s : CodeSet) : Material :=
  if s.allBelow 0x80 then .plain 2 (2 * stateSize + stepSize * s.ranges.length)
  else .spelled (spelling s)

/-- Words that share a tree of states. A state has a link to a step or several, and where a word
ends before others go on, a link to the end; words behind that do not share steps with those before
it. A state that only ends words takes nothing. `depth` bounds the length of the words. -/
def wordTree : (depth : Nat) → List (List Nat) → Material
  | 0, _ => .ofStates 0 0
  | depth + 1, words =>
    if words.all (·.isEmpty) then .ofStates 0 0
    else
      let rest := words.dropWhile (·.isEmpty)
      let runs := rest.splitOnP (·.isEmpty)
      let ends := runs.length - 1 + if rest.length < words.length then 1 else 0
      let layRun (run : List (List Nat)) : Material :=
        let firsts := (run.filterMap (·.head?)).eraseDups
        let below := firsts.map fun b =>
          wordTree depth ((run.filter (·.head? == some b)).map (·.tail))
        let here := if firsts.length == 1 then Material.ofStates 1 1
          else .plain 1 (stateSize + linkSize + stepSize * firsts.length)
        .both (.all below) here
      .both (.all ((runs.filter (!·.isEmpty)).map layRun)) (.ofStates 1 ends)

def ofWords (words : List (List Nat)) : Material :=
  .both (.ofStates 1 0) (wordTree ((words.map (·.length)).foldl Nat.max 0 + 1) words)

/-- Alternatives have a state that links to each of them and a state where they meet. -/
def ofChoice : List Material → Material
  | first :: second :: rest =>
    .both (.both first second) (.both (.ofStates 2 (rest.length + 2)) (.all rest))
  | ms => .all ms

/-- A repetition without a bound goes back to its start. If it may be left out and may be empty,
being left out is told apart from being empty. -/
def ofRepetition (a : Material) (takesSome : Bool) : Nat → Option Nat → Material
  | 0, none => if takesSome then .both (.ofStates 1 2) a else .both a (.ofStates 3 4)
  | min + 1, none => .both (.copies (min + 1) a) (.ofStates 1 2)
  | 0, some 1 => .both (.ofStates 1 2) (.both a (.ofStates 1 0))
  | min, some max =>
    let least := if min == 0 then .ofStates 1 0 else .copies min a
    if min == max then least
    else .both least (.both (.ofStates 1 0) (.copies (max - min) (.both (.ofStates 1 2) a)))

mutual

/-- What a plan is built from. Read backward, the last part comes first, and groups are not
marked. -/
def ofPlan (backward : Bool) : Plan → Material
  | .empty | .look _ => .ofStates 1 0
  | .literal codes => .ofStates (codes.flatMap utf8Bytes).length 0
  | .set s => .ofSet s
  | .rep p min max _ =>
    .ofRepetition (ofPlan backward p) (p.least?.any (0 < ·)) min max
  | .group _ p =>
    let inner := ofPlan backward p
    if backward then inner else .both (.ofStates 1 0) (.both inner (.ofStates 1 0))
  | .concat ps => .all (if backward then (ofPlans backward ps).reverse else ofPlans backward ps)
  | .choice ps =>
    match ps.mapM literal? with
    | some words => .ofWords (words.map fun word => if backward then word.reverse else word)
    | none => .ofChoice (ofPlans backward ps)
where
  literal? : Plan → Option (List Nat)
    | .literal codes => some (codes.flatMap utf8Bytes)
    | _ => none

def ofPlans (backward : Bool) : List Plan → List Material
  | [] => []
  | p :: ps => ofPlan backward p :: ofPlans backward ps

end

/-- A match may start anywhere, unless the plan says that it starts with the text. -/
def ofSearch (backward : Bool) (p : Plan) : Material :=
  let lead :=
    if p.begins backward (if backward then .textEnd else .textStart) then Material.ofStates 1 0
    else .plain 3 (3 * stateSize + stepSize + 2 * linkSize)
  let marks := Material.ofStates (if backward then 0 else 1) 0
  .all [lead, marks, ofPlan backward p, marks, .ofStates 1 0]

end Material

/-- Ten mebibytes. -/
def footprintLimit : Nat := 10 <<< 20

def Layout.checked (l : Layout) : Option Layout :=
  if l.bytes ≤ footprintLimit then some l else none

/-- Copies something as often as it is wanted, or until it is too large. -/
def copyWithin (lay : Layout → Option Layout) : Nat → Layout → Option Layout
  | 0, l => some l
  | n + 1, l => do copyWithin lay n (← lay l)

/-- Lays out the material, unless it is too large. -/
def Material.lay (backward : Bool) : Material → Layout → Option Layout
  | .plain states bytes, l => Layout.checked ⟨l.states + states, l.bytes + bytes⟩
  | .spelled sequences, l =>
    (if backward then laySetBackward l sequences else laySetForward l sequences).checked
  | .both a b, l => do b.lay backward (← a.lay backward l)
  | .copies n a, l => copyWithin (a.lay backward) n l

/-- Whether both automata of an expression are small enough. -/
def Regex.fits (r : Regex) : Bool :=
  let plan := r.plan
  [false, true].all fun backward => ((Material.ofSearch backward plan).lay backward .start).isSome

end RestRoutes.Pattern
