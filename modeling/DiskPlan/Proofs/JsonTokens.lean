import DiskPlan.Json.Reader
import DiskPlan.Json.Writer
import DiskPlan.Proofs.Outcome

/-!
# JSON Numbers and Quoted Texts

The parts of a JSON text that have no parts of their own, written and read.

A number is written as its digits, and reading takes digits as long as there are any. So
what follows matters: a fraction or an exponent would make another number of it. In an
indented text nothing follows a value but a comma or the end of the line, and `Stops` is
all that the lemmas ask for.

A quoted text is written glyph by glyph. A character beyond the first plane is written as
the escapes of two halves of a surrogate pair, and a label may hold lone halves as well.
Two of them side by side would be read as one character, so a label with such a pair is
not read back as what it is. `Label.IsSpelled` leaves it out, and nothing is lost by that,
since no text is read as such a label.

## Main definitions

* `Stops`: What follows a value in an indented text.
* `Label.IsSpelled`: A label that can be spelled in a text.
* `LacksLow`: What may follow the first half of a surrogate pair.

## Theorems

* `scanNumber_repr`: The digits of a number are read as the number.
* `length_repr_le_iff`: A number is within the limit if its digits are.
* `scanString_escapeGlyph`, `scanString_escapeGlyphs`: Escapes are read as what they
  stand for.
* `scanString_quotedLabel`: A quoted label is read as its glyphs.
-/

namespace DiskPlan

namespace Json

/-! ### Numbers -/

theorem isDigit_of_mem_repr {n : Nat} {c : Char} (h : c ∈ n.repr.toList) : c.isDigit = true := by
  rw [Nat.toList_repr] at h
  exact Nat.isDigit_of_mem_toDigits (by decide) (by decide) h

theorem ofDigits_repr (n : Nat) : Decimal.ofDigits n.repr.toList = n := by
  have hsame : Decimal.ofDigits n.repr.toList = Nat.ofDigitChars 10 n.repr.toList 0 := by
    unfold Decimal.ofDigits Nat.ofDigitChars
    refine List.foldl_ext _ _ _ fun value c _ => ?_
    rw [Nat.mul_comm]
  rw [hsame, Nat.toList_repr, Nat.ofDigitChars_toDigits (by decide) (by decide)]

/-- Only the numeral of zero begins with a zero. So a number has one numeral, and no zero in
    front keeps it from being read. -/
theorem head?_repr {n : Nat} (h : 0 < n) : n.repr.toList.head? ≠ some '0' := by
  rw [Nat.toList_repr]
  induction n using Nat.strongRecOn with
  -- Over the digits from the last one, as the numeral is made.
  | ind n ih =>
      by_cases hlt : n < 10
      · rw [Nat.toDigits_of_lt_base hlt]
        have hdigit : ∀ d < 10, 0 < d → [Nat.digitChar d].head? ≠ some '0' := by decide
        exact hdigit n hlt h
      · -- The digits in front are those of the number without its last one.
        rw [Nat.toDigits_of_base_le (by decide) (Nat.le_of_not_lt hlt)]
        have hfront := ih (n / 10) (by omega) (by omega)
        cases hdigits : Nat.toDigits 10 (n / 10) with
        | nil => exact absurd hdigits Nat.toDigits_ne_nil
        | cons c cs =>
            rw [hdigits] at hfront
            exact hfront

/-- What follows a value in an indented text: nothing, a comma or the end of the line. None of
    the three is read as a part of the value. -/
def Stops (rest : List Char) : Prop :=
  ∀ c ∈ rest.head?, c = ',' ∨ c = '\n'

theorem stops_nil : Stops [] := by
  intro c hc
  exact absurd hc (Option.not_mem_none c)

theorem stops_cons {c : Char} (h : c = ',' ∨ c = '\n') (rest : List Char) : Stops (c :: rest) := by
  intro c' hc'
  rw [List.head?_cons, Option.mem_some_iff] at hc'
  rw [← hc']
  exact h

theorem Stops.cases {rest : List Char} (h : Stops rest) :
    rest = [] ∨ (∃ tail, rest = ',' :: tail) ∨ ∃ tail, rest = '\n' :: tail := by
  cases rest with
  | nil => exact Or.inl rfl
  | cons c tail =>
      rcases h c rfl with rfl | rfl
      · exact Or.inr (Or.inl ⟨tail, rfl⟩)
      · exact Or.inr (Or.inr ⟨tail, rfl⟩)

theorem scanDigits_append {digits rest : List Char} (hdigits : ∀ c ∈ digits, c.isDigit = true)
    (hrest : Stops rest) : scanDigits (digits ++ rest) = (digits, rest) := by
  have hend : rest.takeWhile Char.isDigit = [] ∧ rest.dropWhile Char.isDigit = rest := by
    rcases hrest.cases with rfl | ⟨tail, rfl⟩ | ⟨tail, rfl⟩ <;> exact ⟨rfl, rfl⟩
  unfold scanDigits
  rw [List.takeWhile_append_of_pos hdigits, List.dropWhile_append_of_pos hdigits, hend.1, hend.2,
    List.append_nil]

/-- The digits of a number are its whole part. Behind a zero no more digits would be read, but
    then the number is zero. -/
theorem scanWhole_repr (n : Nat) {rest : List Char} (hrest : Stops rest) :
    scanWhole (n.repr.toList ++ rest) = .ok (n.repr.toList, rest) := by
  rcases Nat.eq_zero_or_pos n with rfl | hpos
  · rfl
  · have hscan := scanDigits_append (fun c hc => isDigit_of_mem_repr (n := n) hc) hrest
    have hhead := head?_repr hpos
    cases hdigits : n.repr.toList with
    | nil => exact absurd hdigits (Decimal.toList_repr_ne_nil n)
    | cons c cs =>
        rw [hdigits] at hscan hhead
        unfold scanWhole
        -- The first branch is for a text that begins with a zero.
        split
        · rename_i heq
          rw [List.cons_append, List.cons.injEq] at heq
          exact absurd (congrArg some heq.1) hhead
        · rw [hscan]

/-- A numeral is read as its number or stopped at the limit. Neither a fraction nor an exponent
    follows it, so it is a whole number. -/
theorem scanNumber_repr_eq (n : Nat) (negative : Bool) {rest : List Char} (hrest : Stops rest) :
    scanNumber negative (n.repr.toList ++ rest) =
      match Decimal.read n.repr.toList with
      | .error limit => .error (.numeral limit)
      | .ok n => .ok (.int (if negative then -(n : Int) else n), rest) := by
  have hfraction : scanFraction rest = ([], rest) := by
    rcases hrest.cases with rfl | ⟨tail, rfl⟩ | ⟨tail, rfl⟩ <;> rfl
  have hexponent : scanExponent rest = (none, rest) := by
    rcases hrest.cases with rfl | ⟨tail, rfl⟩ | ⟨tail, rfl⟩ <;> rfl
  unfold scanNumber
  rw [scanWhole_repr n hrest]
  dsimp only
  rw [hfraction]
  dsimp only
  rw [hexponent]
  rfl

theorem scanNumber_repr {n : Nat} (h : n.repr.toList.length ≤ Decimal.digitLimit) (negative : Bool)
    {rest : List Char} (hrest : Stops rest) :
    scanNumber negative (n.repr.toList ++ rest) =
      .ok (.int (if negative then -(n : Int) else n), rest) := by
  rw [scanNumber_repr_eq n negative hrest, Decimal.read_eq_ok_iff.mpr ⟨h, ofDigits_repr n⟩]

theorem length_repr_le_iff (n : Int) :
    n.natAbs.repr.toList.length ≤ Decimal.digitLimit ↔ Decimal.isWritable n = true := by
  have hlimit : 0 < Decimal.digitLimit := by decide
  unfold Decimal.isWritable
  -- Whatever the limit is, it is not to be raised to a power here.
  generalize Decimal.digitLimit = limit at hlimit ⊢
  rw [String.length_toList, Nat.length_repr_le_iff hlimit, decide_eq_true_eq]
  rfl

/-! ### Quoted texts -/

theorem hexDigit?_hexDigit {n : Nat} (h : n < 16) : hexDigit? (hexDigit n) = some n := by
  have hall : ∀ n < 16, hexDigit? (hexDigit n) = some n := by decide
  exact hall n h

/-- The four digits of an escape are read as its unit. The backslash and the letter in front of
    them have been read before. -/
theorem scanHex_unitEscape {unit : Nat} (h : unit < 0x10000) (rest : List Char) :
    scanHex ((unitEscape unit).drop 2 ++ rest) = .ok (unit, rest) := by
  have hunit : ((unit / 4096 % 16 * 16 + unit / 256 % 16) * 16 + unit / 16 % 16) * 16 +
      unit % 16 = unit := by
    omega
  have hdigit : ∀ n, hexDigit? (hexDigit (n % 16)) = some (n % 16) :=
    fun n => hexDigit?_hexDigit (Nat.mod_lt n (by decide))
  simp only [unitEscape, List.drop_succ_cons, List.drop_zero, List.cons_append, List.nil_append,
    scanHex, hdigit, hunit]

/-- The first half of a surrogate pair. -/
def IsHigh (unit : Nat) : Prop :=
  0xD800 ≤ unit ∧ unit ≤ 0xDBFF

/-- The second half of a surrogate pair. -/
def IsLow (unit : Nat) : Prop :=
  0xDC00 ≤ unit ∧ unit ≤ 0xDFFF

end Json

namespace Glyph

/-- Two glyphs that are read as one character if they stand side by side, so they cannot be
    written as two. -/
def Pairs : Glyph → Glyph → Prop
  | half high, half low => Json.IsHigh high ∧ Json.IsLow low
  | _, _ => False

/-- A glyph that can be spelled: a character, or half of a surrogate pair. -/
def IsSpelled : Glyph → Prop
  | char _ => True
  | half unit => Json.IsHigh unit ∨ Json.IsLow unit

end Glyph

/-- A label that can be spelled in a file: no two halves in it make a pair. Every text is one,
    since a character is never a half. -/
structure Label.IsSpelled (l : Label) : Prop where
  glyphs : ∀ g ∈ l.glyphs, g.IsSpelled
  apart : l.glyphs.IsChain fun g g' => ¬ g.Pairs g'

namespace Json

/-- A text that does not begin with the escape of a second half. If it begins with another escape
    of a unit, that one is whole, so it is read as that unit. -/
def LacksLow (rest : List Char) : Prop :=
  (∀ tail, rest ≠ '\\' :: 'u' :: tail) ∨
    ∃ unit tail, unit < 0x10000 ∧ ¬ IsLow unit ∧ rest = unitEscape unit ++ tail

theorem lacksLow_cons {c : Char} (h : c ≠ '\\') (rest : List Char) : LacksLow (c :: rest) :=
  Or.inl fun _ heq => h (List.cons.inj heq).1

theorem toNat_lt_or_lt (c : Char) : c.toNat < 0xD800 ∨ (0xDFFF < c.toNat ∧ c.toNat < 0x110000) :=
  c.valid

theorem lacksLow_escapeGlyph {g : Glyph} (hg : g.IsSpelled) {high : Nat} (hhigh : IsHigh high)
    (hapart : ¬ (Glyph.half high).Pairs g) (rest : List Char) :
    LacksLow (escapeGlyph g ++ rest) := by
  cases g with
  -- The half that follows is no second one, since the two would be a pair.
  | half unit =>
      have hlow : ¬ IsLow unit := fun hlow => hapart ⟨hhigh, hlow⟩
      refine Or.inr ⟨unit, rest, ?_, hlow, rfl⟩
      rcases hg with hg | hg
      · exact Nat.lt_of_le_of_lt hg.2 (by decide)
      · exact Nat.lt_of_le_of_lt hg.2 (by decide)
  | char c =>
      have hvalid := toNat_lt_or_lt c
      change LacksLow (escape c ++ rest)
      unfold escape
      split
      · -- An escape of one letter is no escape of a unit.
        exact Or.inl fun _ => by simp
      · split
        · exact Or.inl fun _ => by simp
        · rename_i hslash
          iterate 5
            split
            · exact Or.inl fun _ => by simp
          split
          · exact lacksLow_cons hslash rest
          · split
            · rename_i hlt
              exact Or.inr ⟨c.toNat, rest, hlt, fun hlow => by unfold IsLow at hlow; omega, rfl⟩
            · -- Beyond the first plane a character is written as a first half and a second.
              refine Or.inr ⟨_, _, ?_, fun hlow => ?_, List.append_assoc _ _ _⟩
              · omega
              · unfold IsLow at hlow
                omega

/-- A unit that is no first half is read on its own, whatever follows it. -/
theorem scanUnit_of_not_high {unit : Nat} (hlt : unit < 0x10000) (h : ¬ IsHigh unit)
    (rest : List Char) : scanUnit ((unitEscape unit).drop 2 ++ rest) = .ok (ofUnit unit, rest) := by
  unfold scanUnit
  rw [scanHex_unitEscape hlt]
  exact if_neg h

/-- Behind a first half the next escape is read as well, and kept if it is no second. -/
theorem scanUnit_of_escape {high : Nat} (h : IsHigh high) {low : Nat} (hlow : low < 0x10000)
    (rest : List Char) :
    scanUnit ((unitEscape high).drop 2 ++ (unitEscape low ++ rest)) =
      if 0xDC00 ≤ low ∧ low ≤ 0xDFFF then
        .ok (.char (Char.ofNat (0x10000 + (high - 0xD800) * 0x400 + (low - 0xDC00))), rest)
      else
        .ok (.half high, unitEscape low ++ rest) := by
  unfold scanUnit
  rw [scanHex_unitEscape (Nat.lt_of_le_of_lt h.2 (by decide))]
  refine (if_pos h).trans ?_
  split
  · -- The text goes on with an escape, which is the one that is known.
    rename_i tail heq
    obtain rfl : (unitEscape low).drop 2 ++ rest = tail :=
      (List.cons.inj (List.cons.inj heq).2).2
    rw [scanHex_unitEscape hlow]
  · rename_i hother
    exact absurd rfl (hother _)

/-- A first half without a second behind it is read on its own. -/
theorem scanUnit_of_high {unit : Nat} (h : IsHigh unit) {rest : List Char} (hrest : LacksLow rest) :
    scanUnit ((unitEscape unit).drop 2 ++ rest) = .ok (.half unit, rest) := by
  rcases hrest with hrest | ⟨low, tail, hlow, hnot, rfl⟩
  · unfold scanUnit
    rw [scanHex_unitEscape (Nat.lt_of_le_of_lt h.2 (by decide))]
    refine (if_pos h).trans ?_
    split
    · rename_i tail
      exact absurd rfl (hrest tail)
    · rfl
  · exact (scanUnit_of_escape h hlow tail).trans (if_neg hnot)

/-- What follows a glyph that is read, or the fault that is found there. -/
def followedBy (g : Glyph) (found : Except Fault (List Glyph × List Char)) :
    Except Fault (List Glyph × List Char) :=
  found.map fun x => (g :: x.1, x.2)

theorem scanString_of_escape {fuel : Nat} {cs rest : List Char} {g : Glyph}
    (h : scanEscape cs = .ok (g, rest)) :
    scanString (fuel + 1) ('\\' :: cs) = followedBy g (scanString fuel rest) := by
  rw [scanString, if_neg (by decide), if_neg (by decide), if_pos rfl, h]
  unfold followedBy
  dsimp only
  cases scanString fuel rest <;> rfl

/-- The escape of a unit is read as such if something is left for a closing quote. -/
theorem scanString_of_unit {fuel unit : Nat} {cs rest : List Char} {g : Glyph}
    (h : scanUnit ((unitEscape unit).drop 2 ++ cs) = .ok (g, rest)) (hrest : rest ≠ []) :
    scanString (fuel + 1) (unitEscape unit ++ cs) = followedBy g (scanString fuel rest) := by
  -- The escape is not the last thing in the text, so it is read by its unit.
  have hescape : scanEscape ('u' :: ((unitEscape unit).drop 2 ++ cs)) = .ok (g, rest) := by
    unfold scanEscape
    dsimp only
    rw [h]
    cases rest with
    | nil => exact absurd rfl hrest
    | cons _ _ => rfl
  exact scanString_of_escape hescape

theorem scanString_of_char {fuel : Nat} {c : Char} (hquote : c ≠ '"') (hslash : c ≠ '\\')
    (hcontrol : 0x20 ≤ c.toNat) (rest : List Char) :
    scanString (fuel + 1) (c :: rest) = followedBy (.char c) (scanString fuel rest) := by
  rw [scanString, if_neg hquote, if_neg (Nat.not_lt.mpr hcontrol), if_neg hslash]
  unfold followedBy
  dsimp only
  cases scanString fuel rest <;> rfl

/-- The escape of a glyph is read as the glyph, unless it is a first half with a second behind
    it. Every branch of the escape is one form that is read back by its own rule. -/
theorem scanString_escapeGlyph (fuel : Nat) {g : Glyph} (hg : g.IsSpelled) {rest : List Char}
    (hne : rest ≠ []) (hrest : ∀ unit, g = .half unit → IsHigh unit → LacksLow rest) :
    scanString (fuel + 1) (escapeGlyph g ++ rest) = followedBy g (scanString fuel rest) := by
  cases g with
  | half unit =>
      refine scanString_of_unit ?_ hne
      by_cases hhigh : IsHigh unit
      · exact scanUnit_of_high hhigh (hrest unit rfl hhigh)
      · have hlow : IsLow unit := hg.resolve_left hhigh
        rw [scanUnit_of_not_high (Nat.lt_of_le_of_lt hlow.2 (by decide)) hhigh]
        unfold ofUnit
        rw [if_pos ⟨Nat.le_trans (by decide) hlow.1, hlow.2⟩]
  | char c =>
      have hvalid := toNat_lt_or_lt c
      change scanString (fuel + 1) (escape c ++ rest) = _
      unfold escape
      split
      · rename_i h; subst h; exact scanString_of_escape rfl
      · rename_i hquote
        split
        · rename_i h; subst h; exact scanString_of_escape rfl
        · rename_i hslash
          iterate 5
            split
            · rename_i h; subst h; exact scanString_of_escape rfl
          split
          · rename_i hrange
            exact scanString_of_char hquote hslash hrange.1 rest
          · split
            · rename_i hlt
              -- A character of the first plane is one unit, and no half.
              refine scanString_of_unit ?_ hne
              have hhigh : ¬ IsHigh c.toNat := fun hhigh => by unfold IsHigh at hhigh; omega
              rw [scanUnit_of_not_high hlt hhigh]
              unfold ofUnit
              rw [if_neg (by omega), Char.ofNat_toNat]
            · rename_i hplane
              -- A character beyond it is made of the two halves, each of them in its range.
              have hhigh : IsHigh (0xD800 + (c.toNat - 0x10000) / 0x400) := by
                unfold IsHigh
                omega
              have hlow : IsLow (0xDC00 + (c.toNat - 0x10000) % 0x400) := by
                unfold IsLow
                omega
              dsimp only
              rw [List.append_assoc]
              refine scanString_of_unit ?_ hne
              rw [scanUnit_of_escape hhigh (Nat.lt_of_le_of_lt hlow.2 (by decide)),
                if_pos (show _ ∧ _ from hlow)]
              have hvalue : 0x10000 + (0xD800 + (c.toNat - 0x10000) / 0x400 - 0xD800) * 0x400 +
                  (0xDC00 + (c.toNat - 0x10000) % 0x400 - 0xDC00) = c.toNat := by
                omega
              rw [hvalue, Char.ofNat_toNat]

/-- Glyphs without a pair of halves are read as they are, up to the closing quote. -/
theorem scanString_escapeGlyphs {gs : List Glyph} (hgs : (Label.mk gs).IsSpelled) {fuel : Nat}
    (hfuel : gs.length < fuel) (rest : List Char) :
    scanString fuel (gs.flatMap escapeGlyph ++ '"' :: rest) = .ok (gs, rest) := by
  -- Over the glyphs, with the fuel that is left for them.
  induction gs generalizing fuel with
  | nil =>
      cases fuel with
      | zero => exact absurd hfuel (Nat.not_lt_zero _)
      | succ fuel => rfl
  | cons g gs ih =>
      cases fuel with
      | zero => exact absurd hfuel (Nat.not_lt_zero _)
      | succ fuel =>
          rcases hgs with ⟨hglyphs, hapart⟩
          rw [List.forall_mem_cons] at hglyphs
          have hne : gs.flatMap escapeGlyph ++ '"' :: rest ≠ [] :=
            List.append_ne_nil_of_right_ne_nil _ (List.cons_ne_nil _ _)
          rw [List.flatMap_cons, List.append_assoc, scanString_escapeGlyph fuel hglyphs.1 hne,
            ih ⟨hglyphs.2, hapart.of_cons⟩ (Nat.lt_of_succ_lt_succ hfuel)]
          · rfl
          · -- A first half is followed by the quote or by a glyph that does not make a pair with
            -- it.
            rintro unit rfl hhigh
            cases gs with
            | nil => exact lacksLow_cons (by decide) rest
            | cons g' gs =>
                rw [List.flatMap_cons, List.append_assoc]
                exact lacksLow_escapeGlyph (hglyphs.2 g' List.mem_cons_self) hhigh
                  (List.isChain_cons_cons.mp hapart).1 _

theorem isSpelled_ofString (s : String) : (Label.ofString s).IsSpelled := by
  refine ⟨fun g hg => ?_, ?_⟩
  · rcases List.mem_map.mp hg with ⟨c, _, rfl⟩
    trivial
  · unfold Label.ofString
    exact (List.pairwise_map.mpr (List.pairwise_of_forall fun _ _ h => h)).isChain

theorem escape_ne_nil (c : Char) : escape c ≠ [] := by
  unfold escape
  repeat' split
  all_goals exact List.cons_ne_nil _ _

/-- Every glyph takes at least one character, so the length of a text is fuel enough for its
    glyphs. -/
theorem length_le_flatMap (gs : List Glyph) : gs.length ≤ (gs.flatMap escapeGlyph).length := by
  induction gs with
  | nil => exact Nat.le_refl _
  | cons g gs ih =>
      have hpos : 0 < (escapeGlyph g).length := by
        rw [List.length_pos_iff]
        cases g with
        | half unit => exact List.cons_ne_nil _ _
        | char c => exact escape_ne_nil c
      rw [List.flatMap_cons, List.length_append, List.length_cons]
      omega

theorem quoted_eq (s : String) : quoted s = quotedLabel (.ofString s) := by
  unfold quoted quotedLabel Label.ofString
  rw [List.flatMap_map]
  rfl

theorem toList_quotedLabel (l : Label) :
    (quotedLabel l).toList = '"' :: (l.glyphs.flatMap escapeGlyph ++ ['"']) := by
  simp only [quotedLabel, String.toList_append, String.toList_ofList]
  rfl

/-- The glyphs of a quoted label are read as they are, and what follows the closing quote is
    left. -/
theorem scanString_quotedLabel {l : Label} (h : l.IsSpelled) (rest : List Char) :
    ∃ tail, (quotedLabel l).toList ++ rest = '"' :: tail ∧
      scanString (tail.length + 1) tail = .ok (l.glyphs, rest) := by
  refine ⟨l.glyphs.flatMap escapeGlyph ++ '"' :: rest, ?_, scanString_escapeGlyphs h ?_ rest⟩
  · rw [toList_quotedLabel, List.cons_append, List.append_assoc]
    rfl
  · have hlength := length_le_flatMap l.glyphs
    rw [List.length_append]
    omega

theorem repaired_ofString (s : String) : (Label.ofString s).repaired = s := by
  unfold Label.repaired Label.withHalves Label.ofString
  rw [List.map_map, ← String.toList_inj, String.toList_ofList]
  exact List.map_id _

end Json

end DiskPlan
