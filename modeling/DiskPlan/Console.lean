import DiskPlan.Console.Highlight
import DiskPlan.Console.Markup

/-!
# The Console

Lines as the console shows them.

A console acts on some control characters instead of showing them, so these are
dropped. A tab moves to the next column that is a multiple of eight, and is at
least one space. Columns are counted in cells, so what stands before a tab counts
for as much as it takes on the screen.

A message that is to be searched or copied stays on one line. One that is only to
be read is highlighted and wrapped at the width of the console. Wrapping measures
a line as a whole, writing measures its pieces, so a row that is just full may
still lose its end.

## Main definitions

* `Console.isDropped`: Whether a character is dropped.
* `Console.shown`: What is shown of a marked-up text.
* `Console.expandTabs`: The lines of a text with spaces for their tabs.
* `Console.wrapped`: A line as the rows that show of it.
* `Console.line`: A line on the console.
* `Console.paragraph`: A line on the console, highlighted and wrapped.
* `Console.alert`, `Console.warning`: The same in the colour of errors.
-/

namespace DiskPlan

namespace Console

/-- Whether a character is dropped: bell, backspace, vertical tab, form feed and
    carriage return. -/
def isDropped (c : Char) : Bool :=
  [7, 8, 11, 12, 13].contains c.toNat

/-- What is shown of a marked-up text, tabs and line breaks included. -/
def shown (markup : String) : String :=
  String.ofList ((Markup.render markup).toList.filter fun c => !isDropped c)

/-- The width of a tab. -/
def tabWidth : Nat := 8

/-- The spaces that fill a column up to the next stop of a tab. -/
def fillTo (column : Nat) : Nat :=
  (tabWidth - column % tabWidth) % tabWidth

/-- A line with spaces for its tabs, from a column on, given the characters since
    that column, the last one first. What follows a tab begins a piece. -/
def tabulate : Nat → List Char → List Inked → List Inked
  | _, _, [] => []
  | column, before, x :: rest =>
    if x.char = '\t' then
      -- The first space is measured with what is before it, which may absorb it.
      let column := column + Text.cells (before.reverse ++ [' '])
      { x with char := ' ' } :: plain (List.replicate (fillTo column) ' ')
        ++ recoloured (tabulate (column + fillTo column) [] rest)
    else
      x :: tabulate column (x.char :: before) rest

/-- The lines of a text with spaces for their tabs. -/
def expandTabs (text : List Inked) : List (List Inked) :=
  (text.splitOnP fun x => x.char == '\n').map (tabulate 0 [])

/-- Lines as they are written, each with a line break at its end. -/
def written (lines : List (List Char)) : String :=
  String.ofList (['\n'].intercalate lines ++ ['\n'])

/-- The width of the console in cells. -/
def width : Nat := 80

/-- The rows of a line, given the characters of each. What a row loses to fit it
    loses at its end, so the changes of colour stay where they are. -/
def rows : List Inked → List (List Char) → List (List Inked)
  | _, [] => []
  | line, row :: rest =>
    line.zipWith (fun x c => { x with char := c }) (Text.fitted width row)
      :: rows (line.drop row.length) rest

/-- A line as the rows that show of it. -/
def wrapped (line : List Inked) : List (List Char) :=
  (rows line (Text.layout width (chars line))).map (visible width)

/-- A line of marked-up text on the console. -/
def line (markup : String) : String :=
  written ((expandTabs (plain (shown markup).toList)).map chars)

/-- A line of marked-up text on the console, highlighted and wrapped. -/
def paragraph (markup : String) : String :=
  written ((expandTabs (Highlight.ink (shown markup).toList)).flatMap wrapped)

/-- Markup in the colour of errors, with a word that says who reports it. -/
def reported (who text : String) : String :=
  "[red]" ++ who ++ ": " ++ Markup.escape text ++ "[/red]"

/-- A line in the colour of errors. -/
def alert (who text : String) : String :=
  line (reported who text)

/-- A line in the colour of errors, wrapped. -/
def warning (who text : String) : String :=
  paragraph (reported who text)

/-- A line of plain text after a word that says what it is. -/
def note (what text : String) : String :=
  line (what ++ ": " ++ Markup.escape text)

end Console

end DiskPlan
