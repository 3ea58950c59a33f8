import DiskPlan.Text.Wrap

/-!
# Ink

Text with the places where its colour changes.

The colours themselves do not show in plain output. What shows is that a line is
written in pieces, one colour each, and that every piece is measured on its own.
A joiner at the end of a piece does not draw in the first character of the next,
and a selector at the front of a piece has nothing before it to widen. So the
pieces of a line can take more cells together than the line takes as a whole, and
then the line is cut where the width ends.

## Main definitions

* `Inked`: A character, and whether the colour changes in front of it.
* `plain`: A text of one colour.
* `pieces`: The pieces of a line.
* `visible`: What shows of a line, given the width.
-/

namespace DiskPlan

namespace Console

/-- A character, and whether the colour changes in front of it. -/
structure Inked where
  char : Char
  changes : Bool
  deriving DecidableEq, Repr

/-- A text of one colour. -/
def plain (cs : List Char) : List Inked :=
  cs.map fun c => ⟨c, false⟩

/-- The characters of a line. -/
def chars (line : List Inked) : List Char :=
  line.map Inked.char

/-- A line with a change of colour in front. -/
def recoloured : List Inked → List Inked
  | [] => []
  | x :: rest => { x with changes := true } :: rest

/-- The pieces of a line. A change in front of the line begins no piece, as the
    first piece begins there anyway. -/
def pieces : List Inked → List (List Char)
  | [] => []
  | x :: rest =>
    match pieces rest with
    | [] => [[x.char]]
    | piece :: others =>
      if rest.head?.any Inked.changes then [x.char] :: piece :: others
      else (x.char :: piece) :: others

/-- What shows of pieces that do not all fit into some cells: the ones that leave
    a cell free, and as much of the next one as fits. -/
def cutPieces : Nat → List (List Char) → List Char
  | _, [] => []
  | room, piece :: rest =>
    if Text.cells piece < room then piece ++ cutPieces (room - Text.cells piece) rest
    else Text.shortened room piece

/-- What shows of a line of a width. -/
def visible (width : Nat) (line : List Inked) : List Char :=
  if ((pieces line).map Text.cells).foldr (· + ·) 0 ≤ width then chars line
  else cutPieces width (pieces line)

end Console

end DiskPlan
