import RestRoutes.Group

/-!
Splitting route texts into components. Slashes separate components, but a named group is kept whole
even when slashes stand inside it: of the groups that open before the next slash, the last one
claims the text up to its end and from there to the slash after it.
-/
namespace RestRoutes.Path

/-- The last group that opens before the next slash, with the text before and after it. -/
def lastGroup? : List Char → Option (List Char × Group.Token × List Char)
  | [] => none
  | c :: cs =>
    if c = '/' then none
    else match lastGroup? cs with
      | some (before, found) => some (c :: before, found)
      | none => (Group.Token.read? (c :: cs)).map fun found => ([], found)

theorem text_of_lastGroup? {cs before rest : List Char} {token : Group.Token}
    (h : lastGroup? cs = some (before, token, rest)) : cs = before ++ token.text ++ rest := by
  induction cs generalizing before with
  | nil => cases h
  | cons c cs ih =>
      unfold lastGroup? at h
      split at h
      · cases h
      · split at h
        · next hf =>
            cases h
            rw [ih hf]
            simp
        · obtain ⟨found, hr, same⟩ := Option.map_eq_some_iff.1 h
          cases same
          simpa using Group.Token.text_of_read? hr

theorem length_lt_of_lastGroup? {cs before rest : List Char} {token : Group.Token}
    (h : lastGroup? cs = some (before, token, rest)) : rest.length < cs.length := by
  rw [text_of_lastGroup? h]
  simp [Group.Token.text]
  omega

/-- The text up to the next slash. -/
def piece (cs : List Char) : List Char := cs.takeWhile (· ≠ '/')

/-- The next slash and the text after it. -/
def afterPiece (cs : List Char) : List Char := cs.dropWhile (· ≠ '/')

theorem length_afterPiece_le (cs : List Char) : (afterPiece cs).length ≤ cs.length :=
  (List.dropWhile_suffix _).length_le

/-- The components of a text, without empty ones. -/
def components (cs : List Char) : List (List Char) :=
  match _found : lastGroup? cs with
  | some (before, token, rest) =>
    (before ++ token.text ++ piece rest) :: components (afterPiece rest)
  | none =>
    let tail := match _next : afterPiece cs with
      | [] => []
      | _ :: rest => components rest
    if (piece cs).isEmpty then tail else piece cs :: tail
termination_by cs.length
decreasing_by
  · exact Nat.lt_of_le_of_lt (length_afterPiece_le rest) (length_lt_of_lastGroup? _found)
  · have shorter := length_afterPiece_le cs
    rw [_next] at shorter
    exact shorter

/-- The components of a path, in order. -/
def split (path : String) : List String := (components path.toList).map String.ofList

/-- A text without the slashes it begins with. -/
def dropLeading (s : String) : String := String.ofList (s.toList.dropWhile (· = '/'))

/-- A text without the slashes it ends with. -/
def dropTrailing (s : String) : String :=
  String.ofList (s.toList.reverse.dropWhile (· = '/')).reverse

example : split "/posts//(?P<id>[^/]+)/x" = ["posts", "(?P<id>[^/]+)", "x"] := by decide +kernel

end RestRoutes.Path
