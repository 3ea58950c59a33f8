import DiskPlan.Proofs.JsonTexts
import Mathlib.Algebra.Group.Nat.Defs
import Mathlib.Data.List.Chain
import Mathlib.Data.List.Induction
import Mathlib.Data.List.Nodup

/-!
# JSON Values in Texts

What can be read from a JSON text.

What was read is known to be more than a value. Its whole numbers are within the limit, or
they would not have been read; the fields of its objects have different names, since a
name that comes again replaces what it named; and no two halves of a surrogate pair stand
side by side in its labels, since these would have been read as one character. This is
`IsSpelled`, with numbers of any kind, and it is all that a value needs to be written and
read again, those with a fraction aside.

The readers of values, lists, objects, items and fields call each other, so what they read
is described for all of them at once, by induction on the fuel.

## Main definitions

* `ReadersSpell`: What each of the readers reads with some fuel.

## Theorems

* `Binary64.isWritable_of_truncate?_ofDecimal`: The whole part of a fraction that is read.
* `isSpelled_of_scanNumber`, `isSpelled_of_scanString`: Numbers and quoted texts that are
  read.
* `IsSpelled.isWritable`: What can be spelled can be written.
* `isSpelled_of_parse`: What is read from a text can be spelled.
-/

namespace DiskPlan

namespace Json

/-! ### Numbers -/

/-- Digits stand for less than the power of ten with as many zeros. So the length of a numeral
    bounds its number. -/
theorem ofDigits_lt {cs : List Char} (h : ∀ c ∈ cs, c.isDigit = true) :
    Decimal.ofDigits cs < 10 ^ cs.length := by
  -- From the last digit, since it is added to ten times the others.
  induction cs using List.reverseRecOn with
  | nil => exact Nat.one_pos
  | append_singleton cs c ih =>
      rw [List.forall_mem_append, List.forall_mem_singleton] at h
      have hdigit := (Text.bounds_of_isDigit h.2).2
      have hfront := ih h.1
      rw [Decimal.ofDigits_append, List.length_append, List.length_singleton, Nat.pow_succ]
      omega

theorem lt_pow_length_toDigits (n : Nat) : n < 10 ^ (Nat.toDigits 10 n).length := by
  have h := ofDigits_lt fun c hc => isDigit_of_mem_repr (n := n) hc
  rwa [ofDigits_repr, Nat.toList_repr] at h

theorem scanWhole_digits {cs whole rest : List Char} (h : scanWhole cs = .ok (whole, rest)) :
    ∀ c ∈ whole, c.isDigit = true := by
  unfold scanWhole at h
  split at h
  · obtain ⟨rfl, _⟩ := Prod.mk.inj (Except.ok.inj h)
    exact List.forall_mem_singleton.mpr rfl
  · split at h
    · exact absurd h (by simp only [reduceCtorEq, not_false_eq_true])
    · obtain ⟨rfl, _⟩ := Prod.mk.inj (Except.ok.inj h)
      exact List.all_eq_true.mp List.all_takeWhile

end Json

namespace Decimal

/-- A number is within the limit if it has as few digits. The limit is on digits, and so is what
    is known of a number that is read. -/
theorem isWritable_of_natAbs_lt {n : Int} {k : Nat} (hn : n.natAbs < 10 ^ k)
    (hk : k ≤ digitLimit) : isWritable n = true := by
  unfold isWritable
  -- The bound itself is too large to be computed.
  generalize digitLimit = limit at hk ⊢
  exact decide_eq_true (Nat.lt_of_lt_of_le hn (Nat.pow_le_pow_right (by decide) hk))

theorem natAbs_ofSign (negative : Bool) (n : Nat) :
    (if negative then -(n : Int) else n).natAbs = n := by
  split
  · rw [Int.natAbs_neg, Int.natAbs_natCast]
  · rw [Int.natAbs_natCast]

end Decimal

namespace Binary64

/-- A double does not lie further from zero than the quotient that it is rounded from, unless it
    is a whole number below the range of doubles. -/
theorem natAbs_of_truncate?_ofRatio {negative : Bool} {num den bound : Nat} {n : Int}
    (hden : 0 < den) (hlt : num < bound * den)
    (h : (ofRatio negative num den).truncate? = some n) :
    n.natAbs ≤ bound ∨ n.natAbs < Nat.pow 2 maxExponent := by
  unfold ofRatio at h
  -- Zero is written as it is; any other number is scaled and rounded.
  split at h
  · obtain rfl := Option.some.inj h
    left
    simp
  · generalize exponentFor num den = e at h
    dsimp only at h
    split at h
    · exact absurd h (by simp only [truncate?, reduceCtorEq, not_false_eq_true])
    · rename_i hrange
      have hn := congrArg Int.natAbs (Option.some.inj h)
      rw [Decimal.natAbs_ofSign] at hn
      -- Below one unit in the last place the number is a quotient by a power of two, and at or
      -- above it a whole number.
      by_cases he : e < 0
      · left
        unfold scaled at hn
        rw [if_pos he, if_pos he] at hn
        have hround := roundDiv_le (num * Nat.pow 2 e.natAbs) den hden
        have hpos : 0 < Nat.pow 2 e.natAbs := Nat.pow_pos (by decide)
        generalize Nat.pow 2 e.natAbs = scale at *
        generalize roundDiv (num * scale) den = m at *
        rw [← hn]
        refine Nat.le_of_lt_succ ((Nat.div_lt_iff_lt_mul hpos).mpr ?_)
        -- A quotient below the bound is not rounded beyond it.
        have hscaled : (num + 1) * scale ≤ bound * den * scale := Nat.mul_le_mul_right scale hlt
        refine Nat.lt_of_not_le fun hge => ?_
        have hproduct := Nat.mul_le_mul_right den hge
        rw [Nat.succ_mul, Nat.add_mul, Nat.mul_right_comm bound] at hproduct
        rw [Nat.add_mul, Nat.one_mul] at hscaled
        have hden' : den ≤ scale * den := Nat.le_mul_of_pos_left den hpos
        omega
      · right
        -- It is not beyond the range, since it would be read as infinite.
        rw [if_neg he] at hn
        rw [← hn]
        exact Nat.lt_of_not_le fun hle => hrange ⟨by omega, hle⟩

/-- A double that is read from a decimal fraction has no more digits than can be written: the
    range of doubles ends far below the limit. -/
theorem isWritable_of_truncate?_ofDecimal {negative : Bool} {digits : Nat} {exponent n : Int}
    (h : (ofDecimal negative digits exponent).truncate? = some n) :
    Decimal.isWritable n = true := by
  -- Either form of the fraction is a quotient with a numerator and a denominator.
  have hbounded : ∀ {num den k : Nat}, 0 < den → num < 10 ^ k * den → k < Decimal.digitLimit →
      (ofRatio negative num den).truncate? = some n → Decimal.isWritable n = true := by
    intro num den k hden hlt hk hn
    rcases natAbs_of_truncate?_ofRatio hden hlt hn with hle | hlt
    · exact Decimal.isWritable_of_natAbs_lt (k := k + 1)
        (Nat.lt_of_le_of_lt hle (Nat.pow_lt_pow_right (by decide) (Nat.lt_succ_self k))) hk
    · have hrange : maxExponent ≤ Decimal.digitLimit := by decide
      generalize maxExponent = limit at hlt hrange
      exact Decimal.isWritable_of_natAbs_lt (k := limit)
        (Nat.lt_of_lt_of_le hlt (Nat.pow_le_pow_left (by decide) _)) hrange
  have hdigits := Json.lt_pow_length_toDigits digits
  unfold ofDecimal at h
  split at h
  · obtain rfl := Option.some.inj h
    simpa using Decimal.isWritable_zero
  · dsimp only at h
    split at h
    · exact absurd h (by simp only [truncate?, reduceCtorEq, not_false_eq_true])
    · split at h
      · obtain rfl := Option.some.inj h
        simpa using Decimal.isWritable_zero
      · rename_i hleading _
        -- The exponent is not beyond the range, so the digits in front of the point are few.
        have hlimit : ∃ k < Decimal.digitLimit,
            ((Nat.toDigits 10 digits).length : Int) + exponent ≤ k :=
          ⟨310, by decide, by omega⟩
        rcases hlimit with ⟨k, hk, hlength⟩
        split at h
        · refine hbounded (Nat.pow_pos (by decide)) (Nat.lt_of_lt_of_le hdigits ?_) hk h
          change 10 ^ _ ≤ 10 ^ _ * 10 ^ exponent.natAbs
          rw [← Nat.pow_add]
          exact Nat.pow_le_pow_right (by decide) (by omega)
        · refine hbounded Nat.one_pos ?_ hk h
          rw [Nat.mul_one]
          refine Nat.lt_of_lt_of_le
            (Nat.mul_lt_mul_of_pos_right hdigits (Nat.pow_pos (by decide))) ?_
          change _ * 10 ^ exponent.natAbs ≤ _
          rw [← Nat.pow_add]
          exact Nat.pow_le_pow_right (by decide) (by omega)

end Binary64

namespace Json

/-- A number that is read is within the limit, if only its whole part, which is what is left of
    a fraction where an integer is asked for. -/
theorem isSpelled_of_scanNumber {negative : Bool} {cs rest : List Char} {v : Json}
    (h : scanNumber negative cs = .ok (v, rest)) (depth : Nat) : IsSpelled True depth v := by
  unfold scanNumber at h
  split at h
  · exact absurd h (by simp only [reduceCtorEq, not_false_eq_true])
  · rename_i whole _ hwhole
    dsimp only at h
    -- Without a fraction and an exponent it is a whole number.
    split at h
    · split at h
      · exact absurd h (by simp only [reduceCtorEq, not_false_eq_true])
      · rename_i n hn
        obtain ⟨rfl, _⟩ := Prod.mk.inj (Except.ok.inj h)
        rcases Decimal.read_eq_ok_iff.mp hn with ⟨hlength, rfl⟩
        refine .int (Decimal.isWritable_of_natAbs_lt ?_ hlength)
        rw [Decimal.natAbs_ofSign]
        exact ofDigits_lt (scanWhole_digits hwhole)
    · obtain ⟨rfl, _⟩ := Prod.mk.inj (Except.ok.inj h)
      exact .real _ trivial fun n hn => Binary64.isWritable_of_truncate?_ofDecimal hn

/-! ### Quoted texts -/

/-- A lone half that is read from an escape is its unit, and a first half is left alone only
    if no second follows. -/
theorem scanUnit_half {cs rest : List Char} {unit : Nat}
    (h : scanUnit cs = .ok (.half unit, rest)) :
    (∃ tail, scanHex cs = .ok (unit, tail)) ∧ (IsHigh unit ∨ IsLow unit) ∧
      (IsHigh unit → ∀ tail low rest', rest = '\\' :: 'u' :: tail →
        scanHex tail = .ok (low, rest') → ¬ IsLow low) := by
  unfold scanUnit at h
  split at h
  · exact absurd h (by simp only [reduceCtorEq, not_false_eq_true])
  · rename_i high after hhigh
    split at h
    · rename_i hrange
      -- The branches differ in what follows the first half, which is left as it is.
      have hhalf : ∀ tail, Except.ok (.half high, tail) =
          (Except.ok (.half unit, rest) : Except Fault (Glyph × List Char)) →
          high = unit ∧ tail = rest := by
        intro tail heq
        obtain ⟨hglyph, rfl⟩ := Prod.mk.inj (Except.ok.inj heq)
        exact ⟨Glyph.half.inj hglyph, rfl⟩
      split at h
      · split at h
        · exact absurd h (by simp only [reduceCtorEq, not_false_eq_true])
        · rename_i tail low' after' hlow
          split at h
          · exact absurd (congrArg Prod.fst (Except.ok.inj h))
              (by simp only [reduceCtorEq, not_false_eq_true])
          · rename_i hnot
            obtain ⟨rfl, rfl⟩ := hhalf _ h
            refine ⟨⟨_, hhigh⟩, Or.inl hrange, fun _ tail' low rest' hrest hscan => ?_⟩
            obtain rfl := (List.cons.inj (List.cons.inj hrest).2).2
            obtain ⟨rfl, _⟩ := Prod.mk.inj (Except.ok.inj (hlow.symm.trans hscan))
            exact hnot
      · rename_i hother
        obtain ⟨rfl, rfl⟩ := hhalf _ h
        exact ⟨⟨_, hhigh⟩, Or.inl hrange, fun _ tail _ _ hrest _ => absurd hrest (hother tail)⟩
    · rename_i hrange
      obtain ⟨hglyph, rfl⟩ := Prod.mk.inj (Except.ok.inj h)
      unfold ofUnit at hglyph
      split at hglyph
      · rename_i hhalf
        obtain rfl := Glyph.half.inj hglyph
        have hlow : IsLow high := by
          unfold IsLow
          omega
        exact ⟨⟨_, hhigh⟩, Or.inr hlow, fun hhigh => absurd hhigh hrange⟩
      · exact absurd hglyph (by simp only [reduceCtorEq, not_false_eq_true])

/-- Only the escape of a unit is read as a lone half, as the other escapes stand for characters. -/
theorem scanEscape_half {cs rest : List Char} {unit : Nat}
    (h : scanEscape cs = .ok (.half unit, rest)) :
    ∃ tail, cs = 'u' :: tail ∧ scanUnit tail = .ok (.half unit, rest) := by
  unfold scanEscape at h
  have hchar : ∀ {c : Char} {tail : List Char}, Except.ok (.char c, tail) ≠
      (Except.ok (.half unit, rest) : Except Fault (Glyph × List Char)) := by
    intro c tail heq
    exact absurd (congrArg Prod.fst (Except.ok.inj heq))
      (by simp only [reduceCtorEq, not_false_eq_true])
  split at h
  · exact absurd h (by simp only [reduceCtorEq, not_false_eq_true])
  · -- Each of the six letters stands for a character.
    iterate 6
      split at h
      · exact absurd h hchar
    split at h
    · rename_i hu
      rw [hu]
      split at h
      · exact absurd h (by simp only [reduceCtorEq, not_false_eq_true])
      · exact ⟨_, rfl, h⟩
    · exact absurd h (by simp only [reduceCtorEq, not_false_eq_true])

/-- Glyphs that are read can be spelled, and if the first of them is a lone half, the text
    begins with its escape. -/
theorem isSpelled_of_scanString {fuel : Nat} {cs rest : List Char} {gs : List Glyph}
    (h : scanString fuel cs = .ok (gs, rest)) :
    (Label.mk gs).IsSpelled ∧ ∀ unit, gs.head? = some (.half unit) →
      ∃ tail rest', cs = '\\' :: 'u' :: tail ∧ scanHex tail = .ok (unit, rest') := by
  -- Along the text, with a glyph for each call.
  induction fuel generalizing cs gs with
  | zero => exact absurd h (by simp only [scanString, reduceCtorEq, not_false_eq_true])
  | succ fuel ih =>
      cases cs with
      | nil => exact absurd h (by simp only [scanString, reduceCtorEq, not_false_eq_true])
      | cons c cs =>
          rw [scanString] at h
          split at h
          · obtain ⟨rfl, _⟩ := Prod.mk.inj (Except.ok.inj h)
            exact ⟨⟨fun _ hg => absurd hg List.not_mem_nil, .nil⟩, fun _ hhead =>
              absurd hhead (by simp only [List.head?_nil, reduceCtorEq, not_false_eq_true])⟩
          · split at h
            · exact absurd h (by simp only [reduceCtorEq, not_false_eq_true])
            · split at h
              · exact absurd h (by simp only [reduceCtorEq, not_false_eq_true])
              · rename_i g after hglyph
                split at h
                · exact absurd h (by simp only [reduceCtorEq, not_false_eq_true])
                · rename_i gs' rest' hrest
                  obtain ⟨rfl, rfl⟩ := Prod.mk.inj (Except.ok.inj h)
                  rcases ih hrest with ⟨⟨hglyphs, hapart⟩, hnext⟩
                  -- A lone half comes from the escape of a unit.
                  have hunit : ∀ unit, g = .half unit →
                      ∃ tail, c :: cs = '\\' :: 'u' :: tail ∧
                        scanUnit tail = .ok (.half unit, after) := by
                    rintro unit rfl
                    split at hglyph
                    · rename_i hslash
                      rcases scanEscape_half hglyph with ⟨tail, rfl, hscan⟩
                      exact ⟨tail, by rw [hslash], hscan⟩
                    · exact absurd (congrArg Prod.fst (Except.ok.inj hglyph))
                        (by simp only [reduceCtorEq, not_false_eq_true])
                  refine ⟨⟨List.forall_mem_cons.mpr ⟨?_, hglyphs⟩, ?_⟩, fun unit hhead => ?_⟩
                  · cases g with
                    | char _ => trivial
                    | half unit =>
                        rcases hunit unit rfl with ⟨tail, _, hscan⟩
                        exact (scanUnit_half hscan).2.1
                  · -- Only a first half could make a pair, and it was left alone since no second
                    -- one follows.
                    refine List.isChain_cons.mpr ⟨fun g' hg' hpairs => ?_, hapart⟩
                    cases g with
                    | char _ => exact hpairs
                    | half high =>
                        cases g' with
                        | char _ => exact hpairs
                        | half low =>
                            rcases hunit high rfl with ⟨tail, _, hscan⟩
                            rcases hnext low hg' with ⟨tail', rest'', hafter, hhex⟩
                            exact (scanUnit_half hscan).2.2 hpairs.1 tail' low rest'' hafter hhex
                              hpairs.2
                  · rw [List.head?_cons, Option.some.injEq] at hhead
                    rcases hunit unit hhead with ⟨tail, hcs, hscan⟩
                    rcases (scanUnit_half hscan).1 with ⟨tail', hhex⟩
                    exact ⟨tail, tail', hcs, hhex⟩

theorem isSpelled_ofLabel {l : Label} (h : l.IsSpelled) (reals : Prop) (depth : Nat) :
    IsSpelled reals depth (ofLabel l) := by
  unfold ofLabel
  split
  · exact .text _
  · rename_i hhalf
    exact .label h hhalf

/-! ### Values -/

theorem isSpelled_ofText? (reals : Prop) (depth : Nat) (s? : Option String) :
    IsSpelled reals depth (.ofText? s?) := by
  cases s? with
  | none => exact .null
  | some s => exact .text s

/-- What can be spelled can be written: its numbers are within the limit, and nothing else could
    keep it from being written. -/
theorem IsSpelled.isWritable {reals : Prop} {depth : Nat} {v : Json}
    (h : IsSpelled reals depth v) : v.isWritable = true := by
  induction h with
  | int hn => exact hn
  | list _ ih => exact areItemsWritable_iff.mpr ih
  | object _ _ ih => exact areFieldsWritable_iff.mpr ih
  | _ => rfl

theorem isWritable_ofText? (s? : Option String) : (ofText? s?).isWritable = true :=
  (isSpelled_ofText? False 0 s?).isWritable

theorem isSpelled_of_scanWord? {cs rest : List Char} {v : Json}
    (h : scanWord? cs = some (v, rest)) (depth : Nat) : IsSpelled True depth v := by
  unfold scanWord? at h
  rcases Option.map_eq_some_iff.mp h with ⟨w, hw, hvalue⟩
  obtain ⟨rfl, _⟩ := Prod.mk.inj hvalue
  have hmem := List.mem_of_find?_eq_some hw
  simp only [words, List.mem_cons, List.not_mem_nil, or_false] at hmem
  rcases hmem with rfl | rfl | rfl | rfl | rfl | rfl
  · exact .null
  · exact .bool true
  · exact .bool false
  all_goals exact .real _ trivial fun _ hn => absurd hn (Option.not_mem_none _)

/-- A field that is put has its name in the place of the old one, or behind the others. So the
    names stay different. -/
theorem map_put (name : String) (value : Json) (fields : Fields) :
    (put name value fields).map Prod.fst =
      if name ∈ fields.map Prod.fst then fields.map Prod.fst
      else fields.map Prod.fst ++ [name] := by
  -- Along the fields, up to the one with the name.
  induction fields with
  | nil => rfl
  | cons f rest ih =>
      rw [put, List.map_cons]
      by_cases hf : f.1 = name
      · rw [if_pos hf, if_pos (by rw [hf]; exact List.mem_cons_self), List.map_cons, hf]
      · have hmem : name ∈ f.1 :: rest.map Prod.fst ↔ name ∈ rest.map Prod.fst := by
          rw [List.mem_cons, or_iff_right (Ne.symm hf)]
        rw [if_neg hf, List.map_cons, ih, if_congr hmem rfl rfl]
        split <;> rfl

theorem nodup_put (name : String) (value : Json) {fields : Fields}
    (h : (fields.map Prod.fst).Nodup) : ((put name value fields).map Prod.fst).Nodup := by
  rw [map_put]
  split
  · exact h
  · rename_i hnew
    refine List.nodup_append.mpr ⟨h, List.nodup_singleton _, fun known hknown new hmem => ?_⟩
    rw [List.mem_singleton.mp hmem]
    rintro rfl
    exact hnew hknown

theorem forall_put {P : Json → Prop} (name : String) {value : Json} (hvalue : P value)
    {fields : Fields} (h : ∀ f ∈ fields, P f.2) : ∀ f ∈ put name value fields, P f.2 := by
  induction fields with
  | nil => exact List.forall_mem_singleton.mpr hvalue
  | cons f rest ih =>
      rw [List.forall_mem_cons] at h
      rw [put]
      split
      · exact List.forall_mem_cons.mpr ⟨hvalue, h.2⟩
      · exact List.forall_mem_cons.mpr ⟨h.1, ih h.2⟩

/-- What is read with some fuel can be spelled, whichever of the readers it is. The readers call
    one another, so they are treated together. -/
structure ReadersSpell (fuel : Nat) : Prop where
  value : ∀ {depth cs v rest}, scanValue depth fuel cs = .ok (v, rest) → IsSpelled True depth v
  list : ∀ {depth cs v rest}, scanList depth fuel cs = .ok (v, rest) → IsSpelled True depth v
  object : ∀ {depth cs v rest}, scanObject depth fuel cs = .ok (v, rest) → IsSpelled True depth v
  items : ∀ {depth cs vs rest}, scanItems depth fuel cs = .ok (vs, rest) →
    ∀ v ∈ vs, IsSpelled True depth v
  fields : ∀ {depth fields cs found rest}, scanFields depth fuel fields cs = .ok (found, rest) →
    (fields.map Prod.fst).Nodup → (∀ f ∈ fields, IsSpelled True depth f.2) →
      (found.map Prod.fst).Nodup ∧ ∀ f ∈ found, IsSpelled True depth f.2

theorem readersSpell_zero : ReadersSpell 0 where
  value h := absurd h (by simp only [scanValue, reduceCtorEq, not_false_eq_true])
  list h := absurd h (by simp only [scanList, reduceCtorEq, not_false_eq_true])
  object h := absurd h (by simp only [scanObject, reduceCtorEq, not_false_eq_true])
  items h := absurd h (by simp only [scanItems, reduceCtorEq, not_false_eq_true])
  fields h := absurd h (by simp only [scanFields, reduceCtorEq, not_false_eq_true])

section Steps

variable {fuel depth : Nat} {cs rest : List Char} (ih : ReadersSpell fuel)
include ih

/-- A value is a word, a string, a number, or what one of the readers of lists and objects reads. -/
theorem isSpelled_of_scanValue {v : Json} (h : scanValue depth (fuel + 1) cs = .ok (v, rest)) :
    IsSpelled True depth v := by
  unfold scanValue at h
  split at h
  · rename_i hword
    obtain rfl := Except.ok.inj h
    exact isSpelled_of_scanWord? hword depth
  · split at h
    · split at h
      · exact absurd h (by simp only [reduceCtorEq, not_false_eq_true])
      · rename_i hstring
        obtain ⟨rfl, _⟩ := Prod.mk.inj (Except.ok.inj h)
        exact isSpelled_ofLabel (isSpelled_of_scanString hstring).1 True depth
    · exact ih.list h
    · exact ih.object h
    · exact isSpelled_of_scanNumber h depth
    · exact isSpelled_of_scanNumber h depth

/-- A list takes up one level of nesting, and its items are read on the next. -/
theorem isSpelled_of_scanList {v : Json} (h : scanList depth (fuel + 1) cs = .ok (v, rest)) :
    IsSpelled True depth v := by
  unfold scanList at h
  split at h
  · exact absurd h (by simp only [reduceCtorEq, not_false_eq_true])
  · obtain ⟨rfl, _⟩ := Prod.mk.inj (Except.ok.inj h)
    exact .list fun _ hv => absurd hv List.not_mem_nil
  · split at h
    · exact absurd h (by simp only [reduceCtorEq, not_false_eq_true])
    · rename_i hitems
      obtain ⟨rfl, _⟩ := Prod.mk.inj (Except.ok.inj h)
      exact .list (ih.items hitems)

/-- An object begins without fields, so the names of those that are read are different. -/
theorem isSpelled_of_scanObject {v : Json} (h : scanObject depth (fuel + 1) cs = .ok (v, rest)) :
    IsSpelled True depth v := by
  unfold scanObject at h
  split at h
  · exact absurd h (by simp only [reduceCtorEq, not_false_eq_true])
  · obtain ⟨rfl, _⟩ := Prod.mk.inj (Except.ok.inj h)
    exact .object (fun _ hf => absurd hf List.not_mem_nil) List.nodup_nil
  · split at h
    · exact absurd h (by simp only [reduceCtorEq, not_false_eq_true])
    · rename_i hfields
      obtain ⟨rfl, _⟩ := Prod.mk.inj (Except.ok.inj h)
      rcases ih.fields hfields List.nodup_nil fun _ hf => absurd hf List.not_mem_nil with
        ⟨hnames, hspelled⟩
      exact .object hspelled hnames

/-- Items are a value and, behind a comma, the others. -/
theorem isSpelled_of_scanItems {vs : List Json}
    (h : scanItems depth (fuel + 1) cs = .ok (vs, rest)) : ∀ v ∈ vs, IsSpelled True depth v := by
  unfold scanItems at h
  split at h
  · exact absurd h (by simp only [reduceCtorEq, not_false_eq_true])
  · rename_i hitem
    have hhead := ih.value hitem
    -- Behind an item there is the bracket, a comma, or a fault.
    split at h
    · obtain ⟨rfl, _⟩ := Prod.mk.inj (Except.ok.inj h)
      exact List.forall_mem_singleton.mpr hhead
    · split at h
      · exact absurd h (by simp only [reduceCtorEq, not_false_eq_true])
      · rename_i hothers
        obtain ⟨rfl, _⟩ := Prod.mk.inj (Except.ok.inj h)
        exact List.forall_mem_cons.mpr ⟨hhead, ih.items hothers⟩
    · exact absurd h (by simp only [reduceCtorEq, not_false_eq_true])

/-- A field is put among those that have been read, which keeps their names different. -/
theorem isSpelled_of_scanFields {fields found : Fields}
    (h : scanFields depth (fuel + 1) fields cs = .ok (found, rest))
    (hnames : (fields.map Prod.fst).Nodup) (hfields : ∀ f ∈ fields, IsSpelled True depth f.2) :
    (found.map Prod.fst).Nodup ∧ ∀ f ∈ found, IsSpelled True depth f.2 := by
  unfold scanFields at h
  split at h
  · split at h
    · exact absurd h (by simp only [reduceCtorEq, not_false_eq_true])
    · split at h
      · split at h
        · exact absurd h (by simp only [reduceCtorEq, not_false_eq_true])
        · rename_i hvalue
          -- The field is among the fields from here on.
          have hnames' : ∀ name value, _ := fun name value => nodup_put name value hnames
          have hfields' : ∀ name, _ := fun name => forall_put name (ih.value hvalue) hfields
          dsimp only at h
          split at h
          · obtain ⟨rfl, _⟩ := Prod.mk.inj (Except.ok.inj h)
            exact ⟨hnames' _ _, hfields' _⟩
          · exact ih.fields h (hnames' _ _) (hfields' _)
          · exact absurd h (by simp only [reduceCtorEq, not_false_eq_true])
      · exact absurd h (by simp only [reduceCtorEq, not_false_eq_true])
  · exact absurd h (by simp only [reduceCtorEq, not_false_eq_true])

end Steps

/-- A call of any reader spends one unit of fuel, and calls only readers with less. -/
theorem readersSpell (fuel : Nat) : ReadersSpell fuel := by
  induction fuel with
  | zero => exact readersSpell_zero
  | succ fuel ih =>
      exact ⟨isSpelled_of_scanValue ih, isSpelled_of_scanList ih, isSpelled_of_scanObject ih,
        isSpelled_of_scanItems ih, isSpelled_of_scanFields ih⟩

/-- What is read from a text can be spelled, so what is proved of values that can be spelled
    holds of all that come from files. -/
theorem isSpelled_of_parse {s : String} {v : Json} (h : parse s = .ok v) :
    IsSpelled True depthLimit v := by
  unfold parse at h
  dsimp only at h
  split at h
  · exact absurd h (by simp only [reduceCtorEq, not_false_eq_true])
  · split at h
    · exact absurd h (by simp only [reduceCtorEq, not_false_eq_true])
    · rename_i hvalue
      split at h
      · obtain rfl := Except.ok.inj h
        exact (readersSpell _).value hvalue
      · exact absurd h (by simp only [reduceCtorEq, not_false_eq_true])

end Json

end DiskPlan
