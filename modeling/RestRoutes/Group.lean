/-!
Named groups in route texts: an opener, a name, its delimiter, a pattern and a closing parenthesis.
`Group.Token.read?` reads a group at the head of a text, `Group.Token.find?` the first one anywhere.
Reading loses nothing: the parts written one after the other are the text that was read
(`Group.Token.text_of_read?`).
-/
namespace RestRoutes

/-- A named placeholder and the pattern that its values follow. An empty pattern allows any
value. -/
structure Group where
  name : String
  pattern : String
deriving DecidableEq, Repr

namespace Group

/-- A group as written. -/
structure Token where
  opener : List Char
  name : List Char
  delimiter : Char
  pattern : List Char
deriving DecidableEq, Repr

namespace Token

def text (t : Token) : List Char := t.opener ++ t.name ++ t.delimiter :: t.pattern ++ [')']

def group (t : Token) : Group := ⟨String.ofList t.name, String.ofList t.pattern⟩

/-- The three ways to open a group, and what follows. -/
def opener? : List Char → Option (List Char × List Char)
  | '(' :: '?' :: 'P' :: '<' :: rest => some (['(', '?', 'P', '<'], rest)
  | '(' :: '?' :: '<' :: rest => some (['(', '?', '<'], rest)
  | '(' :: '?' :: '\'' :: rest => some (['(', '?', '\''], rest)
  | _ => none

def endsName (c : Char) : Bool := c = '>' || c = '\''

/-- The pattern runs to the first closing parenthesis, and over it when the text right after it
closes once more, be it after a question mark. -/
def pattern? (cs : List Char) : Option (List Char × List Char) :=
  let body := cs.takeWhile (· ≠ ')')
  match cs.dropWhile (· ≠ ')') with
  | _ :: ')' :: rest => some (body ++ [')'], rest)
  | _ :: '?' :: ')' :: rest => some (body ++ [')', '?'], rest)
  | _ :: rest => some (body, rest)
  | [] => none

/-- Reads a group at the head of a text and gives the text after it. -/
def read? (cs : List Char) : Option (Token × List Char) := do
  let (opener, cs) ← opener? cs
  let name := cs.takeWhile (!endsName ·)
  if name.isEmpty then none
  match cs.dropWhile (!endsName ·) with
  | [] => none
  | delimiter :: cs =>
    let (pattern, rest) ← pattern? cs
    return (⟨opener, name, delimiter, pattern⟩, rest)

/-- The first group of a text, with the text before it and the text after it. -/
def find? : List Char → Option (List Char × Token × List Char)
  | [] => none
  | c :: cs =>
    match read? (c :: cs) with
    | some (token, rest) => some ([], token, rest)
    | none => (find? cs).map fun (before, found) => (c :: before, found)

theorem append_of_opener? {cs opener rest : List Char} (h : opener? cs = some (opener, rest)) :
    cs = opener ++ rest := by
  unfold opener? at h
  split at h <;> cases h <;> rfl

theorem append_of_pattern? {cs pattern rest : List Char} (h : pattern? cs = some (pattern, rest)) :
    cs = pattern ++ ')' :: rest := by
  have whole := List.takeWhile_append_dropWhile (p := fun c => decide (c ≠ ')')) (l := cs)
  have close : ∀ c tail, cs.dropWhile (· ≠ ')') = c :: tail → c = ')' := fun c tail hd => by
    have := List.head?_dropWhile_not (· ≠ ')') cs
    rw [hd] at this
    simpa using this
  unfold pattern? at h
  split at h
  · next c rest' hd =>
      cases h
      conv => lhs; rw [← whole, hd, close _ _ hd]
      simp
  · next c rest' hd =>
      cases h
      conv => lhs; rw [← whole, hd, close _ _ hd]
      simp
  · next c rest' _ _ hd =>
      cases h
      conv => lhs; rw [← whole, hd, close _ _ hd]
  · cases h

theorem text_of_read? {cs rest : List Char} {token : Token} (h : read? cs = some (token, rest)) :
    cs = token.text ++ rest := by
  unfold read? at h
  cases ho : opener? cs with
  | none => simp [ho] at h
  | some found =>
      obtain ⟨opener, tail⟩ := found
      simp only [ho, Option.bind_eq_bind, Option.bind_some] at h
      split at h
      · simp at h
      · cases hd : tail.dropWhile (!endsName ·) with
        | nil => simp [hd] at h
        | cons delimiter tail' =>
            cases hp : pattern? tail' with
            | none => simp [hd, hp] at h
            | some found =>
                obtain ⟨pattern, rest'⟩ := found
                simp [hd, hp] at h
                obtain ⟨rfl, rfl⟩ := h
                have whole := List.takeWhile_append_dropWhile (p := (!endsName ·)) (l := tail)
                rw [append_of_opener? ho]
                conv => lhs; rw [← whole, hd, append_of_pattern? hp]
                simp [text]

/-- A group found is where it was found. -/
theorem text_of_find? {cs before rest : List Char} {token : Token}
    (h : find? cs = some (before, token, rest)) : cs = before ++ token.text ++ rest := by
  induction cs generalizing before with
  | nil => cases h
  | cons c cs ih =>
      unfold find? at h
      split at h
      · next hr =>
          cases h
          simpa using text_of_read? hr
      · obtain ⟨⟨before', found⟩, hf, same⟩ := Option.map_eq_some_iff.1 h
        cases same
        rw [ih hf]
        simp

end Token

/-- Size of a text in bytes. -/
def byteLength (cs : List Char) : Nat := cs.foldl (fun n c => n + c.utf8Size) 0

/-- A group and the bytes it takes up in its component. -/
structure Found where
  group : Group
  start : Nat
  stop : Nat
deriving DecidableEq, Repr

/-- Whether the group takes up all of the component. -/
def Found.spans (f : Found) (component : String) : Bool :=
  f.start = 0 && f.stop = byteLength component.toList

/-- The first named group of a component. -/
def extract? (component : String) : Option Found :=
  (Token.find? component.toList).map fun (before, token, _) =>
    { group := token.group
      start := byteLength before
      stop := byteLength before + byteLength token.text }

example : (extract? "market=(?P<market>[a-z]+)").map (·.start) = some 7 := by decide +kernel

end Group
end RestRoutes
