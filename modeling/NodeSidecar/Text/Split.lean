/-!
# Text — cutting at a separator

Two ways to take a text apart at a separator character: once, at its first
occurrence, and everywhere. Neither loses a character but the separators.
-/

namespace NodeSidecar.Text

/-- Cuts at the first `c`: what stands before it and what stands after it.
There is nothing to answer when `c` does not occur. -/
def cutAt (c : Char) (cs : List Char) : Option (List Char × List Char) :=
  match cs.dropWhile (· != c) with
  | [] => none
  | _ :: rest => some (cs.takeWhile (· != c), rest)

/-- Puts a character in front of the first piece, or opens a new piece in
front when the character is the separator. -/
def pushPiece (c x : Char) : List (List Char) → List (List Char)
  | [] => if x = c then [[], []] else [[x]]
  | p :: ps => if x = c then [] :: p :: ps else (x :: p) :: ps

/-- The pieces between the occurrences of `c`, in order; a text without `c`
is its own single piece. -/
def pieces (c : Char) (cs : List Char) : List (List Char) :=
  cs.foldr (pushPiece c) [[]]

@[simp] theorem pieces_nil (c : Char) : pieces c [] = [[]] := rfl

@[simp] theorem pieces_cons (c x : Char) (cs : List Char) :
    pieces c (x :: cs) = pushPiece c x (pieces c cs) := rfl

/-- There is always a first piece. -/
theorem pieces_ne_nil (c : Char) (cs : List Char) : pieces c cs ≠ [] := by
  cases cs with
  | nil => simp
  | cons x cs =>
    rw [pieces_cons]
    unfold pushPiece
    split <;> split <;> simp

end NodeSidecar.Text
