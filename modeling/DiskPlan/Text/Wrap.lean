import DiskPlan.Text.Blank
import DiskPlan.Text.Cluster

/-!
# Wrapped Text

A line of text as several lines of a given width.

Words are put on a line as long as they fit. A word keeps the blanks after it,
which do not count for whether it fits, and the first word also keeps the blanks
before it. A word that is wider than a whole line starts on a line of its own and
is cut wherever the lines end, between clusters.

The blanks that end a line may reach beyond its width. They are dropped there,
as many as the line has characters too many, and if the line is still too wide
because its characters are, it is cut. So nothing but blanks is lost.

## Main definitions

* `words`: The words of a line.
* `chop`: A word in pieces of a given width.
* `fill`: The lines that words fill.
* `layout`: A line as several lines, which may still reach beyond the width.
* `shortened`: As much of a text as fits into some cells.
* `fitted`: A line without what reaches beyond its width.
-/

namespace DiskPlan

namespace Text

/-- A line cut in front of everything that follows a blank and is none. -/
def cutWords : List Char → List (List Char)
  | [] => []
  | c :: rest =>
    match cutWords rest with
    | [] => [[c]]
    | word :: others =>
      if isBlank c && !word.head?.any isBlank then [c] :: word :: others
      else (c :: word) :: others

/-- The words of a line, each with the blanks after it, and the first with the
    blanks before it too. -/
def words (line : List Char) : List (List Char) :=
  match cutWords line with
  | lead :: word :: others =>
    if lead.all isBlank then (lead ++ word) :: others else lead :: word :: others
  | found => found

/-- A text without the blanks at its end. -/
def withoutBlankEnd (cs : List Char) : List Char :=
  (cs.reverse.dropWhile isBlank).reverse

/-- The full lines that clusters make, and the last line, after a line that is
    begun and takes some cells already. -/
def chopFrom (width : Nat) :
    List Char → Nat → List Cluster → List (List Char) × List Char
  | line, _, [] => ([], line)
  | line, used, k :: rest =>
    if width < used + k.width then
      let (full, last) := chopFrom width k.chars k.width rest
      (line :: full, last)
    else
      chopFrom width (line ++ k.chars) (used + k.width) rest

/-- A word in pieces of a given width, the last piece apart. -/
def chop (width : Nat) (word : List Char) : List (List Char) × List Char :=
  chopFrom width [] 0 (clusters word)

/-- The lines that words fill, after a line that is begun and takes some cells
    already. -/
def fill (width : Nat) : List Char → Nat → List (List Char) → List (List Char)
  | line, _, [] => [line]
  | line, used, word :: rest =>
    let size := cells (withoutBlankEnd word)
    if used + size ≤ width then
      fill width (line ++ word) (used + cells word) rest
    else if size ≤ width then
      line :: fill width word (cells word) rest
    else
      let (full, last) := chop width word
      (if line.isEmpty then full else line :: full) ++ fill width last (cells last) rest

/-- A line without the blanks at its end, as far as it has more characters than
    the width. -/
def withoutExcess (width : Nat) (line : List Char) : List Char :=
  let blanks := line.length - (withoutBlankEnd line).length
  line.take (line.length - min blanks (line.length - width))

/-- The clusters that fit into some cells. Half of a wide one is a space. -/
def cropped : Nat → List Cluster → List Char
  | _, [] => []
  | 0, _ => []
  | room, k :: rest =>
    if k.width ≤ room then k.chars ++ cropped (room - k.width) rest else [' ']

/-- As much of a text as fits into some cells. -/
def shortened (room : Nat) (cs : List Char) : List Char :=
  if cells cs ≤ room then cs else cropped room (clusters cs)

/-- A line without what reaches beyond its width. -/
def fitted (width : Nat) (line : List Char) : List Char :=
  shortened width (withoutExcess width line)

/-- A line as several lines, which may still reach beyond the width. -/
def layout (width : Nat) (line : List Char) : List (List Char) :=
  fill width [] 0 (words line)

end Text

end DiskPlan
