import DiskPlan.Text.Blank

/-!
# Labels

Texts that a file may give although no `String` holds them.

The escapes of a file can spell half of a surrogate pair on its own. Such a half
is no character, and most readers refuse a text with one. A text that is only
passed on, like the model of a disk, is kept whatever it holds, so it is kept as
a label. A label without lone halves is the same as a text.

Where a text is needed after all, there are two ways to get one. To be looked at,
each half is replaced by the replacement character. To be the name of a file, the
halves that stand for the bytes of a name that is no text are good, and any
other half is as impossible as a null character.

## Main definitions

* `Glyph`: A character or a lone half of a surrogate pair.
* `Label`: A text of glyphs.
* `Label.ofString`, `Label.text?`: A text as a label, and back.
* `Label.stripped`: A label without white space at both ends.
* `Label.repaired`: A label as a text to be looked at.
* `Label.fileName`: A label as the name of a file.

## Theorems

* `text?_ofString`: A text that was made a label is found again.
* `ofString_of_text?`: A label is made of the text that it is the same as.
-/

namespace DiskPlan

/-- A character or a lone half of a surrogate pair. -/
inductive Glyph where
  | char (c : Char)
  | half (unit : Nat)
  deriving DecidableEq, Repr

/-- The character that a glyph is. -/
def Glyph.char? : Glyph → Option Char
  | char c => some c
  | half _ => none

/-- Whether a glyph is white space, which no half of a pair is. -/
def Glyph.isBlank : Glyph → Bool
  | char c => Text.isBlank c
  | half _ => false

/-- Whether a half stands for a byte of a file name that is no text. -/
def Glyph.isByte (unit : Nat) : Bool :=
  0xDC80 ≤ unit && unit ≤ 0xDCFF

/-- Whether a glyph can be handed to the system. -/
def Glyph.isEncodable : Glyph → Bool
  | char _ => true
  | half unit => isByte unit

/-- A text of glyphs. -/
structure Label where
  glyphs : List Glyph
  deriving DecidableEq, Repr

namespace Label

/-- A text as a label. -/
def ofString (s : String) : Label :=
  ⟨s.toList.map .char⟩

/-- The text that a label is the same as, none if it holds a lone half. -/
def text? (l : Label) : Option String :=
  (l.glyphs.mapM Glyph.char?).map String.ofList

/-- A label without white space at both ends. -/
def stripped (l : Label) : Label :=
  ⟨Text.strip Glyph.isBlank l.glyphs⟩

/-- A label with a character in place of each lone half. -/
def withHalves (l : Label) (character : Nat → Char) : String :=
  String.ofList (l.glyphs.map fun
    | .char c => c
    | .half unit => character unit)

/-- The character that stands for what is no character. -/
def replacement : Char := Char.ofNat 0xFFFD

/-- A label as a text to be looked at. -/
def repaired (l : Label) : String :=
  l.withHalves fun _ => replacement

/-- A label as the name of a file. -/
def fileName (l : Label) : String :=
  l.withHalves fun unit => if Glyph.isByte unit then replacement else '\x00'

/-- Whether a label can be handed to the system. -/
def isEncodable (l : Label) : Bool :=
  l.glyphs.all Glyph.isEncodable

theorem text?_ofString (s : String) : (ofString s).text? = some s := by
  have h : ∀ cs : List Char, (cs.map Glyph.char).mapM Glyph.char? = some cs := by
    intro cs
    induction cs with
    | nil => rfl
    | cons c rest ih => simp [Glyph.char?, ih]
  simp [ofString, text?, h]

theorem ofString_of_text? {l : Label} {s : String} (h : l.text? = some s) :
    ofString s = l := by
  have hg : ∀ (gs : List Glyph) (cs : List Char),
      gs.mapM Glyph.char? = some cs → cs.map Glyph.char = gs := by
    intro gs
    induction gs with
    | nil =>
      intro cs hc
      simp_all
    | cons g rest ih =>
      intro cs hc
      cases g with
      | half unit => simp [Glyph.char?] at hc
      | char c =>
        simp only [List.mapM_cons, Glyph.char?, Option.pure_def, Option.bind_eq_bind,
          Option.bind_some, Option.bind_eq_some_iff, Option.some.injEq] at hc
        rcases hc with ⟨ds, hd, rfl⟩
        simp [ih ds hd]
  rcases Option.map_eq_some_iff.mp h with ⟨cs, hc, rfl⟩
  simp [ofString, hg l.glyphs cs hc]

end Label

end DiskPlan
