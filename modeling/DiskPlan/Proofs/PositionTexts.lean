import DiskPlan.Proofs.FieldGrammar

/-!
# Positions as Texts

Which texts name a position, and which of them is written for it.

The reader looks at the end of a text before it looks at the beginning, and takes the
sign of a distance off before the numeral. `Position.Written` forgets about the branches
and lists the shapes that a text may have. A text has one of them exactly if it is read,
as long as no row of digits in it is too long to be a number.

A position is written without a plus sign and without zeros in front. It can also be read
in other forms, but nothing else is lost: a text is the one that is written if it has
neither. That the number is not zero plays no role, since the sign of a distance is kept
with its direction and not with its number.

Mebibytes are where this fails. They are converted as a signed number, and a minus sign in
front of zero is gone before the megabytes are written. So the token that counts no
mebibytes from the end stands for a place at the start.

## Main definitions

* `Text.HasNoDigit`: A piece of a text without digits.
* `Text.HasSpareZero`: A text with a row of digits that begins with a zero needlessly.
* `Position.ofDistance`: The position at a distance.
* `Position.Written`: The shapes of a text that names a position.

## Theorems

* `Decimal.repr_ofDigits_iff`: Which numerals are written for their numbers.
* `Text.hasSpareZero_iff`: Spare zeros of a text with one row of digits.
* `Position.written_of_parse?`, `Position.parse?_of_written`: What is read is written in
  one of the shapes.
* `Position.parse?_canonical`: Texts and positions.
* `Position.ofToken_mebibytes`: Mebibytes from both ends.
* `Position.mebibytes_of_zero_from_end`: No mebibytes from the end are counted from the
  start.
-/

namespace DiskPlan

/-! ### Numerals -/

namespace Decimal

/-- A digit is the character that is written for its value, and its value is a single digit. Only
    the ten ASCII digits are meant; no other script is written. -/
theorem digitChar_of_isDigit {c : Char} (h : c.isDigit = true) :
    Nat.digitChar (c.toNat - '0'.toNat) = c ∧ c.toNat - '0'.toNat < 10 := by
  rcases Text.bounds_of_isDigit h with ⟨hlower, hupper⟩
  have hlt : c.toNat - '0'.toNat < 10 := by omega
  refine ⟨Char.toNat_inj.mp ?_, hlt⟩
  rw [Nat.toNat_digitChar_of_lt_ten hlt]
  exact Nat.add_sub_of_le hlower

/-- A numeral without spare zeros is the one that is written for its number. -/
theorem repr_ofDigits {digits : List Char} (hnumeral : isNumeral digits = true)
    (hzero : ∀ digit rest, digits ≠ '0' :: digit :: rest) :
    (ofDigits digits).repr.toList = digits := by
  rw [Nat.toList_repr]
  -- The induction is from the end, since writing a number gives its last digit last.
  induction digits using List.reverseRecOn with
  | nil => exact absurd hnumeral (by decide)
  | append_singleton front c ih =>
      have hdigits := (isNumeral_iff.mp hnumeral).2
      rw [List.forall_mem_append, List.forall_mem_singleton] at hdigits
      rcases digitChar_of_isDigit hdigits.2 with ⟨hchar, hlt⟩
      rw [ofDigits_append]
      cases front with
      | nil =>
          change Nat.toDigits 10 (0 * 10 + (c.toNat - '0'.toNat)) = [c]
          rw [Nat.zero_mul, Nat.zero_add, Nat.toDigits_of_lt_base hlt, hchar]
      | cons d rest =>
          -- The digits in front are no zero, or it would be a spare one. So they are written for a
          -- number above zero, and one more digit can be put behind it.
          have hfront := ih (isNumeral_iff.mpr ⟨List.cons_ne_nil d rest, hdigits.1⟩)
            fun digit rest' hsplit => hzero digit (rest' ++ [c]) (by rw [hsplit]; rfl)
          have hpos : 0 < ofDigits (d :: rest) := by
            refine Nat.pos_of_ne_zero fun hnone => ?_
            rw [hnone] at hfront
            exact hzero c [] (by rw [← hfront]; rfl)
          have hwhole := Nat.toDigits_append_toDigits (b := 10) (by decide) hpos hlt
          rw [hfront, Nat.toDigits_of_lt_base hlt, hchar, Nat.mul_comm] at hwhole
          exact hwhole.symm

/-- A numeral is written for its number exactly if it has no spare zero. The other forms of the
    same number are read as well, but never written. -/
theorem repr_ofDigits_iff {digits : List Char} (hnumeral : isNumeral digits = true) :
    (ofDigits digits).repr.toList = digits ↔ ∀ digit rest, digits ≠ '0' :: digit :: rest := by
  refine ⟨?_, repr_ofDigits hnumeral⟩
  rintro hsame digit rest rfl
  -- Only zero is written with a zero in front, and that without any more digits.
  rcases Nat.eq_zero_or_pos (ofDigits ('0' :: digit :: rest)) with hnone | hpos
  · rw [hnone] at hsame
    exact absurd (congrArg List.length hsame) (by simp)
  · exact absurd (by rw [hsame]; rfl) (Json.head?_repr hpos)

end Decimal

namespace Text

/-- A piece of a text in which no ASCII digit stands. -/
def HasNoDigit (cs : List Char) : Prop :=
  ∀ c ∈ cs, c.isDigit = false

instance (cs : List Char) : Decidable (HasNoDigit cs) :=
  List.decidableBAll _ cs

/-- A text in which a row of digits begins with a zero and goes on. -/
def HasSpareZero (s : String) : Prop :=
  ∃ before digit after, s.toList = before ++ '0' :: digit :: after ∧ digit.isDigit = true ∧
    ∀ c ∈ before.getLast?, c.isDigit = false

section OneRow

variable {s : String} {before digits after : List Char}
  (hs : s.toList = before ++ digits ++ after) (hbefore : HasNoDigit before)
  (hafter : HasNoDigit after)
include hs hbefore hafter

/-- A text with one row of digits has no longer one. -/
theorem hasRowsWithin_of_row : HasRowsWithin digits.length s := by
  intro row hrow hdigits
  -- The digits of a row all lie in the one row of the text, so they are counted instead of placed.
  have hnone : ∀ {cs : List Char}, HasNoDigit cs → cs.countP Char.isDigit = 0 :=
    fun h => List.countP_eq_zero.mpr fun c hc => by rw [h c hc]; exact Bool.false_ne_true
  have hcount : row.countP Char.isDigit ≤ s.toList.countP Char.isDigit :=
    hrow.sublist.countP_le
  rw [List.countP_eq_length.mpr hdigits, hs, List.countP_append, List.countP_append,
    hnone hbefore, hnone hafter, Nat.zero_add, Nat.add_zero] at hcount
  exact hcount.trans List.countP_le_length

/-- In a text with one row of digits, that row is the one with the spare zero. -/
theorem hasSpareZero_iff (hnumeral : Decimal.isNumeral digits = true) :
    HasSpareZero s ↔ ∃ digit rest, digits = '0' :: digit :: rest := by
  rcases Decimal.isNumeral_iff.mp hnumeral with ⟨hne, hdigits⟩
  constructor
  · rintro ⟨front, digit, back, hsplit, hdigit, hfront⟩
    rw [hs, List.append_assoc] at hsplit
    -- The zero is a digit, so it does not stand before the row or after it.
    have hstart : digits ++ after = '0' :: digit :: back := by
      rcases List.append_eq_append_iff.mp hsplit with ⟨mid, rfl, hrest⟩ | ⟨mid, rfl, hrest⟩
      · -- If the zero stands further on, it either has a digit of the row right in front of it or
        -- stands behind the row altogether.
        rcases List.eq_nil_or_concat mid with rfl | ⟨mid, last, rfl⟩
        · exact hrest
        · have hlast : last.isDigit = false := hfront last (by simp)
          rcases List.append_eq_append_iff.mp hrest with ⟨gap, _, rfl⟩ | ⟨gap, rfl, _⟩
          · exact absurd (hafter '0' (by simp)) (by decide)
          · exact absurd (hdigits last (by simp)) (by rw [hlast]; exact Bool.false_ne_true)
      · -- If it falls in front of the row, the zero would be one of the characters there.
        cases mid with
        | nil => exact hrest.symm
        | cons c mid =>
            obtain ⟨rfl, _⟩ := List.cons.inj hrest
            exact absurd (hbefore '0' (by simp)) (by decide)
    cases digits with
    | nil => exact absurd rfl hne
    | cons zero digits =>
        obtain rfl : zero = '0' := (List.cons.inj hstart).1
        cases digits with
        | nil =>
            obtain rfl : after = digit :: back := (List.cons.inj hstart).2
            rw [hafter digit List.mem_cons_self] at hdigit
            exact absurd hdigit Bool.false_ne_true
        | cons second rest => exact ⟨second, rest, rfl⟩
  · -- A zero in front of the row is spare wherever the row stands, because no digit comes before
    -- it.
    rintro ⟨digit, rest, rfl⟩
    refine ⟨before, digit, rest ++ after, ?_, hdigits digit (by simp), ?_⟩
    · rw [hs, List.append_assoc]
      rfl
    · exact fun c hc => hbefore c (List.mem_of_getLast? hc)

end OneRow

end Text

namespace Position

/-- The position at a distance from one of the ends. -/
def ofDistance (fromEnd inMegabytes : Bool) (n : Nat) : Position :=
  match fromEnd, inMegabytes with
  | false, false => sector n
  | true, false => sectorFromEnd n
  | false, true => megabyte n
  | true, true => megabyteFromEnd n

/-- The shapes of a text that names a position: one of two words, a distance or a share. A
    distance is one or more digits, after a minus sign or not, after a plus sign or not, and
    before the unit of megabytes or not. A share is up to a hundred and has no minus sign. -/
inductive Written : String → Position → Prop
  | start : Written "start" start
  | finish : Written "end" finish
  | distance {s : String} {minus plus digits unit : List Char} {n : Nat}
      (hs : s.toList = minus ++ plus ++ digits ++ unit) (hminus : minus = [] ∨ minus = ['-'])
      (hplus : plus = [] ∨ plus = ['+']) (hnumeral : Decimal.isNumeral digits = true)
      (hvalue : Decimal.ofDigits digits = n) (hunit : unit = [] ∨ unit = ['M']) :
      Written s (ofDistance (minus = ['-']) (unit = ['M']) n)
  | share {s : String} {plus digits : List Char} {n : Nat}
      (hs : s.toList = plus ++ digits ++ ['%']) (hplus : plus = [] ∨ plus = ['+'])
      (hnumeral : Decimal.isNumeral digits = true) (hvalue : Decimal.ofDigits digits = n)
      (hn : n ≤ 100) : Written s (percent n)

variable {s : String} {p : Position}

/-! ### Reading -/

/-- What is read has one of the shapes, however long its numbers are. -/
theorem written_of_parse? (h : parse? s = some p) : Written s p := by
  unfold parse? at h
  split at h
  · rename_i body hbody
    -- The unit of megabytes is looked for first, and what stands before it is a distance.
    rw [before?_eq_some_iff] at hbody
    rcases distance?_eq_some_iff.mp h with
      ⟨minus, plus, digits, hsplit, hminus, hplus, hnumeral, _, rfl⟩
    rw [hsplit] at hbody
    have hshape := Written.distance hbody hminus hplus hnumeral rfl (Or.inr rfl)
    rcases hminus with rfl | rfl <;> exact hshape
  · split at h
    · rename_i body hbody
      -- A share is a number without a sign of distance, up to a hundred.
      rw [before?_eq_some_iff] at hbody
      rcases Option.map_eq_some_iff.mp h with ⟨n, hn, rfl⟩
      rcases Option.filter_eq_some_iff.mp hn with ⟨hn, hle⟩
      rcases unsigned?_eq_some_iff.mp hn with ⟨plus, digits, hsplit, hplus, hnumeral, hread⟩
      rw [hsplit] at hbody
      exact .share hbody hplus hnumeral (Decimal.read_eq_ok_iff.mp hread).2 (of_decide_eq_true hle)
    · split at h
      · rename_i hword
        rw [hword, ← Option.some.inj h]
        exact .start
      · split at h
        · rename_i hword
          rw [hword, ← Option.some.inj h]
          exact .finish
        · -- A text without a unit that is not one of the words is a distance in sectors.
          rcases distance?_eq_some_iff.mp h with
            ⟨minus, plus, digits, hsplit, hminus, hplus, hnumeral, _, rfl⟩
          rw [← List.append_nil (minus ++ plus ++ digits)] at hsplit
          have hshape := Written.distance hsplit hminus hplus hnumeral rfl (Or.inl rfl)
          rcases hminus with rfl | rfl <;> exact hshape

/-- A text that ends in a digit can only be a distance without a unit. -/
theorem parse?_of_getLast? {c : Char} (hlast : s.toList.getLast? = some c)
    (hdigit : c.isDigit = true) : parse? s = distance? sector sectorFromEnd s.toList := by
  -- A text that ends in a digit does not end like a unit or like a word.
  have hends : ∀ tail : String, Text.HasNoDigit tail.toList →
      s.toList.getLast? ≠ tail.toList.getLast? := by
    intro tail htail hsame
    rw [hlast] at hsame
    have hnone := htail c (List.mem_of_getLast? hsame.symm)
    rw [hdigit] at hnone
    exact Bool.false_ne_true hnone.symm
  have hunit : ∀ tail : String, tail ≠ "" → Text.HasNoDigit tail.toList →
      Text.before? tail s = none := fun tail hne htail => before?_eq_none hne (hends tail htail)
  have hword : ∀ word : String, Text.HasNoDigit word.toList → s ≠ word := by
    rintro word htail rfl
    exact hends s htail rfl
  unfold parse?
  rw [hunit "M" (by decide) (by decide), hunit "%" (by decide) (by decide)]
  dsimp only
  rw [if_neg (hword "start" (by decide)), if_neg (hword "end" (by decide))]

/-- What has one of the shapes is read, unless its number is too long. -/
theorem parse?_of_written (h : Written s p) (hrows : Text.HasRowsWithin Decimal.digitLimit s) :
    parse? s = some p := by
  -- The row of digits is cut out of the text, so it is not longer than the longest row there.
  have hlength : ∀ {before digits after : List Char}, s.toList = before ++ digits ++ after →
      Decimal.isNumeral digits = true → digits.length ≤ Decimal.digitLimit := by
    intro before digits after hs hnumeral
    exact hrows digits ⟨before, after, hs.symm⟩ (Decimal.isNumeral_iff.mp hnumeral).2
  cases h with
  | start => decide +kernel
  | finish => decide +kernel
  | @distance _ minus plus digits unit n hs hminus hplus hnumeral hvalue hunit =>
      -- The reader of distances is the same with and without a unit, so it is run once for both.
      have hread : ∀ (fromStart fromEnd : Nat → Position),
          distance? fromStart fromEnd (minus ++ plus ++ digits) =
            some ((if minus = ['-'] then fromEnd else fromStart) n) := by
        intro fromStart fromEnd
        rw [distance?_eq_some_iff]
        exact ⟨minus, plus, digits, rfl, hminus, hplus, hnumeral, hlength hs hnumeral,
          by rw [hvalue]⟩
      rcases hunit with rfl | rfl
      · rw [List.append_nil] at hs
        rcases Decimal.isNumeral_iff.mp hnumeral with ⟨hne, hdigits⟩
        have hlast : s.toList.getLast? = some (digits.getLast hne) := by
          rw [hs, List.getLast?_append_of_ne_nil _ hne, List.getLast?_eq_some_getLast hne]
        -- Without a unit the text ends in a digit, so no unit and no word is found at its end.
        rw [parse?_of_getLast? hlast (hdigits _ (List.getLast_mem hne)), hs, hread]
        rcases hminus with rfl | rfl <;> rfl
      · have hbody : Text.before? "M" s = some (String.ofList (minus ++ plus ++ digits)) := by
          rw [before?_eq_some_iff, String.toList_ofList]
          exact hs
        unfold parse?
        rw [hbody]
        dsimp only
        rw [String.toList_ofList, hread]
        rcases hminus with rfl | rfl <;> rfl
  | @share _ plus digits n hs hplus hnumeral hvalue hn =>
      -- A percent sign is no unit of megabytes, so the text gets past the first branch.
      have hunit : Text.before? "M" s = none := by
        refine before?_eq_none (by decide) ?_
        rw [hs, List.getLast?_append_of_ne_nil _ (by decide)]
        decide
      have hbody : Text.before? "%" s = some (String.ofList (plus ++ digits)) := by
        rw [before?_eq_some_iff, String.toList_ofList]
        exact hs
      have hread : unsigned? (plus ++ digits) = some n := by
        rw [unsigned?_eq_some_iff]
        exact ⟨plus, digits, rfl, hplus, hnumeral,
          Decimal.read_eq_ok_iff.mpr ⟨hlength hs hnumeral, hvalue⟩⟩
      unfold parse?
      rw [hunit, hbody]
      dsimp only
      rw [String.toList_ofList, hread, Option.filter_some, if_pos (decide_eq_true hn)]
      rfl

/-! ### Writing -/

section Sign

variable {minus unit : List Char} (hminus : minus = [] ∨ minus = ['-'])
  (hunit : unit = [] ∨ unit = ['M'])
include hminus hunit

/-- A distance is written as its number between its sign and its unit. -/
theorem toList_text_ofDistance (n : Nat) :
    (ofDistance (minus = ['-']) (unit = ['M']) n).text.toList =
      minus ++ n.repr.toList ++ unit := by
  rcases hminus with rfl | rfl <;> rcases hunit with rfl | rfl
  · exact (List.append_nil _).symm
  · exact String.toList_append
  · rw [List.append_nil]
    exact String.toList_append
  · change ("-" ++ n.repr ++ "M").toList = _
    rw [String.toList_append, String.toList_append]
    rfl

/-- The number of a distance is the same in all four directions and units. -/
theorem number?_ofDistance (n : Nat) :
    (ofDistance (minus = ['-']) (unit = ['M']) n).number? = some n := by
  rcases hminus with rfl | rfl <;> rcases hunit with rfl | rfl <;> rfl

/-- There is no digit around the number of a distance, so its digits are the only row of the
    text. -/
theorem hasNoDigit_around : Text.HasNoDigit minus ∧ Text.HasNoDigit unit := by
  rcases hminus with rfl | rfl <;> rcases hunit with rfl | rfl <;> decide

/-- Neither the sign nor the unit of a distance has a plus sign, so the only one stands in front
    of the number, if there is one at all. -/
theorem plus_notMem_around : '+' ∉ minus ∧ '+' ∉ unit := by
  rcases hminus with rfl | rfl <;> rcases hunit with rfl | rfl <;> decide

end Sign

/-- A share is written as its number before a percent sign. -/
theorem toList_text_percent (n : Nat) : (percent n).text.toList = n.repr.toList ++ ['%'] :=
  String.toList_append

/-- A position that a text names is written in the same shape, without a plus sign. -/
theorem Written.text (h : Written s p) : Written p.text p := by
  cases h with
  | start => exact .start
  | finish => exact .finish
  | @distance _ minus plus digits unit n hs hminus hplus hnumeral hvalue hunit =>
      refine @Written.distance _ minus [] n.repr.toList unit n ?_ hminus (Or.inl rfl)
        (Decimal.isNumeral_repr n) (Json.ofDigits_repr n) hunit
      rw [List.append_nil]
      exact toList_text_ofDistance hminus hunit n
  | @share _ plus digits n hs hplus hnumeral hvalue hn =>
      exact .share (toList_text_percent n) (Or.inl rfl) (Decimal.isNumeral_repr n)
        (Json.ofDigits_repr n) hn

/-- The number of a position is the only row of digits that is written. -/
theorem Written.hasRowsWithin_text (h : Written s p) (hnumber : AreWritable p.number?.toList) :
    Text.HasRowsWithin Decimal.digitLimit p.text := by
  -- The words have no digits at all and are short.
  cases h with
  | start => exact Text.hasRowsWithin_of_length_le (by decide)
  | finish => exact Text.hasRowsWithin_of_length_le (by decide)
  | @distance _ minus plus digits unit n hs hminus hplus hnumeral hvalue hunit =>
      rw [number?_ofDistance hminus hunit] at hnumber
      have hlength := (Json.length_repr_le_iff n).mpr (hnumber n (by simp))
      rcases hasNoDigit_around hminus hunit with ⟨hbefore, hafter⟩
      have hsplit := toList_text_ofDistance hminus hunit n
      exact (Text.hasRowsWithin_of_row hsplit hbefore hafter).mono hlength
  | @share _ plus digits n hs hplus hnumeral hvalue hn =>
      have hlength := (Json.length_repr_le_iff n).mpr (hnumber n (by simp [number?]))
      have hsplit : (percent n).text.toList = [] ++ n.repr.toList ++ ['%'] :=
        toList_text_percent n
      exact (Text.hasRowsWithin_of_row hsplit (by decide) (by decide)).mono hlength

/-- What stands around the number of a text stays, so the text is the one that is written if
    its number is, and that without a plus sign. -/
theorem repr_between_iff {before plus digits after : List Char} {n : Nat}
    (hs : s.toList = before ++ plus ++ digits ++ after)
    (haround : Text.HasNoDigit before ∧ Text.HasNoDigit after)
    (hsigns : '+' ∉ before ∧ '+' ∉ after) (hplus : plus = [] ∨ plus = ['+'])
    (hnumeral : Decimal.isNumeral digits = true) (hvalue : Decimal.ofDigits digits = n) :
    before ++ n.repr.toList ++ after = s.toList ↔
      '+' ∉ s.toList ∧ ¬ Text.HasSpareZero s := by
  rcases hplus with rfl | rfl
  · -- Without a plus sign only the number itself can differ from the one that is written.
    rw [List.append_nil] at hs
    have hsign : '+' ∉ s.toList := by
      rw [hs]
      intro hmem
      rcases List.mem_append.mp hmem with hmem | hmem
      · rcases List.mem_append.mp hmem with hmem | hmem
        · exact hsigns.1 hmem
        · exact absurd ((Decimal.isNumeral_iff.mp hnumeral).2 _ hmem) (by decide)
      · exact hsigns.2 hmem
    rw [and_iff_right hsign, Text.hasSpareZero_iff hs haround.1 haround.2 hnumeral, hs,
      List.append_left_inj, List.append_right_inj, ← hvalue, Decimal.repr_ofDigits_iff hnumeral]
    simp only [not_exists]
  · refine iff_of_false (fun hsame => ?_) fun hsign => hsign.1 (by rw [hs]; simp)
    -- What is written for a number has no sign of its own.
    rw [hs, List.append_left_inj, List.append_assoc, List.append_right_inj] at hsame
    have hdigit := Json.isDigit_of_mem_repr (n := n) (c := '+') (by rw [hsame]; simp)
    exact absurd hdigit (by decide)

/-- A text is the one that is written for its position exactly if it has no plus sign and no
    spare zero. The words have neither, and the other shapes have one number between fixed ends. -/
theorem Written.text_eq_iff (h : Written s p) :
    p.text = s ↔ '+' ∉ s.toList ∧ ¬ Text.HasSpareZero s := by
  have hword : ∀ word : String, '0' ∉ word.toList → ¬ Text.HasSpareZero word := by
    rintro word hzero ⟨before, digit, after, hsplit, _⟩
    exact hzero (by rw [hsplit]; simp)
  cases h with
  | start => exact iff_of_true rfl ⟨by decide, hword _ (by decide)⟩
  | finish => exact iff_of_true rfl ⟨by decide, hword _ (by decide)⟩
  | @distance _ minus plus digits unit n hs hminus hplus hnumeral hvalue hunit =>
      rw [← repr_between_iff hs (hasNoDigit_around hminus hunit)
        (plus_notMem_around hminus hunit) hplus hnumeral hvalue, ← String.toList_inj,
        toList_text_ofDistance hminus hunit]
  | @share _ plus digits n hs hplus hnumeral hvalue hn =>
      rw [← List.nil_append plus] at hs
      rw [← repr_between_iff hs (by decide) (by decide) hplus hnumeral hvalue,
        ← String.toList_inj, toList_text_percent, List.nil_append]

/-- A text without a row of digits that is too long names a position exactly if it has one of
    the shapes. What is written for the position is read as the same position, and it is the
    text itself if that has neither a plus sign nor a spare zero. -/
theorem parse?_canonical {s : String} (hrows : Text.HasRowsWithin Decimal.digitLimit s)
    (p : Position) :
    (parse? s = some p ↔ Written s p) ∧
      (parse? s = some p → AreWritable p.number?.toList ∧ parse? p.text = some p ∧
        (p.text = s ↔ '+' ∉ s.toList ∧ ¬ Text.HasSpareZero s)) := by
  refine ⟨⟨written_of_parse?, fun h => parse?_of_written h hrows⟩, fun h => ?_⟩
  have hwritten := written_of_parse? h
  have hnumber := areWritable_of_parse? h
  exact ⟨hnumber, parse?_of_written hwritten.text (hwritten.hasRowsWithin_text hnumber),
    hwritten.text_eq_iff⟩

/-- Seven megabytes from the end, with both signs and with zeros in front. -/
theorem parse?_canonical_ofSigns :
    Text.HasRowsWithin Decimal.digitLimit "-+007M" ∧
      parse? "-+007M" = some (megabyteFromEnd 7) ∧ Written "-+007M" (megabyteFromEnd 7) ∧
      parse? "-7M" = some (megabyteFromEnd 7) ∧ (megabyteFromEnd 7).text ≠ "-+007M" := by
  have hrows : Text.HasRowsWithin Decimal.digitLimit "-+007M" :=
    Text.hasRowsWithin_of_length_le (by decide)
  have hread : parse? "-+007M" = some (megabyteFromEnd 7) := by decide +kernel
  rcases parse?_canonical hrows (megabyteFromEnd 7) with ⟨hwritten, hback⟩
  rcases hback hread with ⟨_, hsame, htext⟩
  exact ⟨hrows, hread, hwritten.mp hread, hsame, fun heq => (htext.mp heq).1 (by decide)⟩

/-! ### Mebibytes -/

/-- As many mebibytes as a numeral says are a whole number of megabytes from the start. -/
theorem ofMegabytes_mebibytes (n : Nat) :
    ofMegabytes (megabytesOfMebibytes n) = megabyte (n * 1048576 / 1000000) := by
  unfold megabytesOfMebibytes ofMegabytes
  rw [if_neg (Int.not_lt.mpr (Int.natCast_nonneg n)), Int.natAbs_natCast,
    if_neg (Int.not_lt.mpr (Int.natCast_nonneg _)), Int.natAbs_natCast]

/-- A number of mebibytes below zero makes a megabyte at least, and zero has no sign. -/
theorem ofMegabytes_mebibytes_neg (n : Nat) :
    ofMegabytes (megabytesOfMebibytes (-(n : Int))) =
      if n = 0 then megabyte 0 else megabyteFromEnd (n * 1048576 / 1000000) := by
  split
  · rename_i hzero
    rw [hzero]
    exact ofMegabytes_mebibytes 0
  · -- A number that is not zero keeps its minus sign through the conversion.
    rename_i hzero
    unfold megabytesOfMebibytes ofMegabytes
    dsimp only
    rw [if_pos (by omega), Int.natAbs_neg, Int.natAbs_natCast, if_pos (by omega), Int.natAbs_neg,
      Int.natAbs_natCast]

section Tokens

variable {sign digits : List Char}

/-- What a token of mebibytes with not too many digits is read as. -/
theorem ofToken_of_mebibytes (hsign : sign = [] ∨ sign = ['-'])
    (hnumeral : Decimal.isNumeral digits = true) (hlength : digits.length < Decimal.digitLimit)
    (hs : s.toList = sign ++ digits ++ "MiB".toList) :
    ofToken s = .ok (ofMegabytes (megabytesOfMebibytes
      (if sign = ['-'] then -(Decimal.ofDigits digits : Int) else Decimal.ofDigits digits))) := by
  have hrows := Text.hasRowsWithin_of_row hs
    (by rcases hsign with rfl | rfl <;> decide) (by decide)
  rcases Decimal.isNumeral_iff.mp hnumeral with ⟨hne, hdigits⟩
  refine (ofToken_eq_ok_iff (not_isOverlong_of_hasRowsWithin hrows hlength)).mpr ?_
  exact .mebibytes hs (hsign.imp_right Or.inl) hne hdigits

/-- What a token of megabytes with not too many digits is read as. -/
theorem ofToken_of_megabytes (hsign : sign = [] ∨ sign = ['-'])
    (hnumeral : Decimal.isNumeral digits = true) (hlength : digits.length < Decimal.digitLimit)
    (hs : s.toList = sign ++ digits ++ ['M']) :
    ofToken s = .ok (ofDistance (sign = ['-']) true (Decimal.ofDigits digits)) := by
  have hrows := Text.hasRowsWithin_of_row hs
    (by rcases hsign with rfl | rfl <;> decide) (by decide)
  have hwritten : Written s (ofDistance (sign = ['-']) true (Decimal.ofDigits digits)) := by
    refine @Written.distance s sign [] digits ['M'] _ ?_ hsign (Or.inl rfl) hnumeral rfl
      (Or.inr rfl)
    rw [hs, List.append_nil]
  refine (ofToken_eq_ok_iff (not_isOverlong_of_hasRowsWithin hrows hlength)).mpr (.plain ?_)
  exact parse?_of_written hwritten (hrows.mono (Nat.le_of_lt hlength))

/-- A numeral and `MiB` stand for as many whole megabytes from the start as there are in the
    mebibytes, and after a minus sign for as many from the end, unless the number is zero: then
    they stand for none from the start. With `M` they stand for their own number of megabytes,
    and the minus sign is always kept. -/
theorem ofToken_mebibytes (hnumeral : Decimal.isNumeral digits = true)
    (hlength : digits.length ≤ 4000) :
    let n := Decimal.ofDigits digits
    let count := String.ofList digits
    ofToken (count ++ "MiB") = .ok (megabyte (n * 1048576 / 1000000)) ∧
      ofToken ("-" ++ count ++ "MiB") =
        .ok (if n = 0 then megabyte 0 else megabyteFromEnd (n * 1048576 / 1000000)) ∧
      ofToken (count ++ "M") = .ok (megabyte n) ∧
      ofToken ("-" ++ count ++ "M") = .ok (megabyteFromEnd n) := by
  intro n count
  have hlimit : digits.length < Decimal.digitLimit := Nat.lt_of_le_of_lt hlength (by decide)
  have hcount : count.toList = digits := String.toList_ofList
  have hplain : ∀ unit : String, (count ++ unit).toList = [] ++ digits ++ unit.toList := by
    intro unit
    rw [String.toList_append, hcount, List.nil_append]
  have hminus : ∀ unit : String,
      ("-" ++ count ++ unit).toList = ['-'] ++ digits ++ unit.toList := by
    intro unit
    rw [String.toList_append, String.toList_append, hcount]
    rfl
  refine ⟨?_, ?_, ?_, ?_⟩
  · rw [ofToken_of_mebibytes (Or.inl rfl) hnumeral hlimit (hplain "MiB")]
    exact congrArg _ (ofMegabytes_mebibytes n)
  · rw [ofToken_of_mebibytes (Or.inr rfl) hnumeral hlimit (hminus "MiB")]
    exact congrArg _ (ofMegabytes_mebibytes_neg n)
  · exact ofToken_of_megabytes (Or.inl rfl) hnumeral hlimit (hplain "M")
  · exact ofToken_of_megabytes (Or.inr rfl) hnumeral hlimit (hminus "M")

end Tokens

/-- A thousand mebibytes with zeros in front. -/
theorem ofToken_mebibytes_ofThousand :
    Decimal.isNumeral ['0', '0', '1', '0', '0', '0'] = true ∧
      ofToken "001000MiB" = .ok (megabyte 1048) ∧
      ofToken "-001000MiB" = .ok (megabyteFromEnd 1048) ∧
      ofToken "-001000M" = .ok (megabyteFromEnd 1000) := by
  have hnumeral : Decimal.isNumeral ['0', '0', '1', '0', '0', '0'] = true := by decide
  rcases ofToken_mebibytes hnumeral (by decide) with ⟨hstart, hend, _, hmegabytes⟩
  exact ⟨hnumeral, hstart, hend, hmegabytes⟩

/-- No mebibytes from the end are counted from the start, where no megabytes from the end are
    counted from there. On a disk the one stands for the first sector that is not reserved and
    the other for the last. -/
theorem mebibytes_of_zero_from_end :
    ofToken "-0MiB" = .ok (megabyte 0) ∧ ofToken "-0MiB" ≠ .ok (megabyteFromEnd 0) ∧
      ofToken "-0M" = .ok (megabyteFromEnd 0) ∧
      (megabyte 0).resolve 20000 512 4096 = 4096 ∧
      (megabyteFromEnd 0).resolve 20000 512 4096 = 15904 := by
  have hread : ofToken "-0MiB" = .ok (megabyte 0) := by decide +kernel
  refine ⟨hread, ?_, by decide +kernel, by decide, by decide⟩
  rw [hread]
  simp

end Position

end DiskPlan
