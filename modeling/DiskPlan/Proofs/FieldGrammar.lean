import DiskPlan.Proofs.ModestTokens

/-!
# What Fields Spell

The grammar of a single field of a token, apart from the order in which it is read.

Each definition says which texts a field may be and what it stands for then, in terms of
the characters of the field. Each theorem says that the reader of such a field accepts
exactly these texts, and as that. A number that is too long to be read is left out by a
hypothesis, since the grammar does not know how long a numeral may be.

A suffix is a list of keys and values. Which value counts is said here by the place where
it stands: the last one that was given for its key.

## Main definitions

* `Fields.SpellsNumber`: The number that a field spells.
* `Position.Spelled`, `Position.SpelledOrNone`: The position that a field spells.
* `Fields.SaysContent`: The contents that a field asks for.
* `Suffix.spelling`: A key and its value as a field.
* `Suffix.IsLast`: The value that counts for a key.
* `Suffix.Says`: What suffix fields say.
* `Suffix.MountsKey`: Suffix fields that give no key without a mount point.

## Theorems

* `Fields.partitionNumber_eq_ok_iff`, `Fields.partitionNumbers_eq_ok_iff`: Numbers.
* `Position.ofToken_eq_ok_iff`, `Fields.optionalPosition_eq_ok_iff`: Positions.
* `Fields.optionalContent_eq_ok_iff`: Contents that may be kept.
* `Fields.volumeFilesystem_eq_ok_iff`: Filesystems that are named plainly.
* `SuffixGrammar.field_eq_ok_iff`: Single suffix fields.
* `Suffix.parseFields_eq_ok_iff`, `Fields.mountedSuffix_eq_ok_iff`: Suffixes.
-/

namespace DiskPlan

/-! ### Numbers -/

/-- A number written in ASCII digits, of which there is at least one. Zeros may stand in front,
    so a number has many spellings. -/
structure Fields.SpellsNumber (field : String) (n : Nat) : Prop where
  ne_empty : field ≠ ""
  digits : ∀ c ∈ field.toList, c.isDigit = true
  value : Decimal.ofDigits field.toList = n

theorem Decimal.isNumeral_iff {cs : List Char} :
    isNumeral cs = true ↔ cs ≠ [] ∧ ∀ c ∈ cs, c.isDigit = true := by
  unfold isNumeral
  rw [Bool.and_eq_true, Bool.not_eq_true', List.isEmpty_eq_false_iff, List.all_eq_true]

theorem Decimal.isNumeral_repr (n : Nat) : isNumeral n.repr.toList = true :=
  isNumeral_iff.mpr ⟨toList_repr_ne_nil n, fun _ hc => Json.isDigit_of_mem_repr hc⟩

theorem Fields.partitionNumber_eq_ok_iff {field : String} {n : Nat} (hshort : ¬ IsOverlong field) :
    partitionNumber field = .ok n ↔ SpellsNumber field n := by
  have hnumeral : Decimal.isNumeral field.toList = true ↔
      field ≠ "" ∧ ∀ c ∈ field.toList, c.isDigit = true := by
    rw [Decimal.isNumeral_iff, ne_eq, String.toList_eq_nil_iff]
  unfold partitionNumber
  by_cases h : Decimal.isNumeral field.toList = true
  · rw [if_pos h, mapError_eq_ok_iff, Decimal.read_eq_ok_iff]
    -- The field is short, so the limit on digits does not apply.
    have hlength : field.toList.length ≤ Decimal.digitLimit := by
      by_contra hlong
      exact hshort ⟨h, by omega⟩
    rcases hnumeral.mp h with ⟨hne, hdigits⟩
    exact ⟨fun hread => ⟨hne, hdigits, hread.2⟩, fun hspells => ⟨hlength, hspells.value⟩⟩
  · rw [if_neg h]
    refine iff_of_false (by simp) fun hspells => h ?_
    exact hnumeral.mpr ⟨hspells.ne_empty, hspells.digits⟩

/-- Partition numbers one after the other, each of them short. The first refusal would end the
    list, so a list that is accepted is accepted number by number. -/
theorem Fields.partitionNumbers_eq_ok_iff {fields : List String} {numbers : List Nat}
    (hshort : ∀ f ∈ fields, ¬ IsOverlong f) :
    fields.mapM partitionNumber = .ok numbers ↔ List.Forall₂ SpellsNumber fields numbers := by
  rw [mapM_eq_ok_iff]
  induction fields generalizing numbers with
  | nil => rw [List.forall₂_nil_left_iff, List.forall₂_nil_left_iff]
  | cons f rest ih =>
      rw [List.forall_mem_cons] at hshort
      rw [List.forall₂_cons_left_iff, List.forall₂_cons_left_iff]
      simp only [partitionNumber_eq_ok_iff hshort.1, ih hshort.2]

/-! ### Names -/

/-- Among values that are found under their names, a name stands for one value. The tables of
    names are all read by this lemma, whatever they are names of. -/
theorem ofNameIn?_eq_some_iff {α : Type} {name : α → String} {all : List α} {s : String} {a : α}
    (hname : ∀ a, ofNameIn? name all (name a) = some a) :
    ofNameIn? name all s = some a ↔ s = name a := by
  constructor
  · intro h
    unfold ofNameIn? at h
    have hfound := List.find?_some h
    exact (beq_iff_eq.mp hfound).symm
  · rintro rfl
    exact hname a

theorem SuffixKey.ofName?_name (key : SuffixKey) : ofName? key.name = some key := by
  cases key <;> decide

theorem Fields.tableKind_eq_ok_iff {field : String} {table : TableKind} :
    tableKind field = .ok table ↔ field = table.name := by
  unfold tableKind
  rw [← ofNameIn?_eq_some_iff TableKind.ofName?_name]
  change _ ↔ TableKind.ofName? field = some table
  cases TableKind.ofName? field <;> simp

theorem Fields.role_eq_ok_iff {field : String} {r : Role} :
    role field = .ok r ↔ field = r.name := by
  unfold role
  rw [← ofNameIn?_eq_some_iff Role.ofName?_name]
  change _ ↔ Role.ofName? field = some r
  cases Role.ofName? field <;> simp

/-! ### Positions -/

namespace Position

/-- The position that a number of megabytes stands for, counted from the end if it is negative.
    Zero counts from the start, whatever sign was written before it. -/
def ofMegabytes (n : Int) : Position :=
  if n < 0 then megabyteFromEnd n.natAbs else megabyte n.natAbs

/-- What a field spells as a position: a position as such, or a number of mebibytes with a sign
    at most, which stands for its whole megabytes. Only numbers in digits can be mebibytes; the
    words and percentages have no such form. -/
inductive Spelled : String → Position → Prop
  | plain {field : String} {p : Position} (h : parse? field = some p) : Spelled field p
  | mebibytes {field : String} {sign digits : List Char}
      (hfield : field.toList = sign ++ digits ++ "MiB".toList)
      (hsign : sign = [] ∨ sign = ['-'] ∨ sign = ['+']) (hne : digits ≠ [])
      (hdigits : ∀ c ∈ digits, c.isDigit = true) :
      Spelled field (ofMegabytes (megabytesOfMebibytes
        (if sign = ['-'] then -(Decimal.ofDigits digits : Int) else Decimal.ofDigits digits)))

/-- A number without a minus sign is a numeral within the limit, after a plus sign or not. -/
theorem unsigned?_eq_some_iff {cs : List Char} {n : Nat} :
    unsigned? cs = some n ↔ ∃ plus digits, cs = plus ++ digits ∧ (plus = [] ∨ plus = ['+']) ∧
      Decimal.isNumeral digits = true ∧ Decimal.read digits = .ok n := by
  -- With the sign taken off, a number is a numeral that can be read.
  have hdigits : ∀ digits, (if Decimal.isNumeral digits then (Decimal.read digits).toOption
      else none) = some n ↔ Decimal.isNumeral digits = true ∧ Decimal.read digits = .ok n := by
    intro digits
    by_cases h : Decimal.isNumeral digits = true
    · rw [if_pos h, and_iff_right h]
      cases Decimal.read digits <;> simp [Except.toOption]
    · rw [if_neg h]
      simp [h]
  unfold unsigned?
  split
  · rename_i rest
    rw [hdigits]
    constructor
    · rintro ⟨hnumeral, hread⟩
      exact ⟨['+'], rest, rfl, Or.inr rfl, hnumeral, hread⟩
    · rintro ⟨plus, digits, hsplit, rfl | rfl, hnumeral, hread⟩
      · -- A numeral does not begin with the sign itself.
        obtain rfl : '+' :: rest = digits := hsplit
        exact absurd hnumeral (by simp [Decimal.isNumeral, Char.isDigit])
      · obtain rfl : rest = digits := (List.cons.inj hsplit).2
        exact ⟨hnumeral, hread⟩
  · rename_i hplus
    rw [hdigits]
    constructor
    · rintro ⟨hnumeral, hread⟩
      exact ⟨[], cs, rfl, Or.inl rfl, hnumeral, hread⟩
    · rintro ⟨plus, digits, rfl, rfl | rfl, hnumeral, hread⟩
      · exact ⟨hnumeral, hread⟩
      · exact absurd rfl (hplus digits)

/-- A distance is a numeral within the limit, after a minus sign or not and after a plus sign or
    not. The minus sign comes first and says that it is counted from the end. -/
theorem distance?_eq_some_iff {fromStart fromEnd : Nat → Position} {cs : List Char}
    {p : Position} :
    distance? fromStart fromEnd cs = some p ↔ ∃ minus plus digits,
      cs = minus ++ plus ++ digits ∧ (minus = [] ∨ minus = ['-']) ∧ (plus = [] ∨ plus = ['+']) ∧
      Decimal.isNumeral digits = true ∧ digits.length ≤ Decimal.digitLimit ∧
      (if minus = ['-'] then fromEnd else fromStart) (Decimal.ofDigits digits) = p := by
  unfold distance?
  split
  · rename_i rest
    rw [Option.map_eq_some_iff]
    constructor
    · rintro ⟨n, hn, rfl⟩
      rcases unsigned?_eq_some_iff.mp hn with ⟨plus, digits, rfl, hplus, hnumeral, hread⟩
      rcases Decimal.read_eq_ok_iff.mp hread with ⟨hlength, rfl⟩
      exact ⟨['-'], plus, digits, rfl, Or.inr rfl, hplus, hnumeral, hlength, rfl⟩
    · rintro ⟨minus, plus, digits, hsplit, rfl | rfl, hplus, hnumeral, hlength, rfl⟩
      · -- Neither a plus sign nor a numeral begins with a minus sign.
        rcases hplus with rfl | rfl
        · obtain rfl : '-' :: rest = digits := hsplit
          exact absurd hnumeral (by simp [Decimal.isNumeral, Char.isDigit])
        · exact absurd (List.cons.inj hsplit).1 (by decide)
      · obtain rfl : rest = plus ++ digits := (List.cons.inj hsplit).2
        refine ⟨_, unsigned?_eq_some_iff.mpr ⟨plus, digits, rfl, hplus, hnumeral, ?_⟩, rfl⟩
        exact Decimal.read_eq_ok_iff.mpr ⟨hlength, rfl⟩
  · rename_i hminus
    rw [Option.map_eq_some_iff]
    constructor
    · rintro ⟨n, hn, rfl⟩
      rcases unsigned?_eq_some_iff.mp hn with ⟨plus, digits, rfl, hplus, hnumeral, hread⟩
      rcases Decimal.read_eq_ok_iff.mp hread with ⟨hlength, rfl⟩
      exact ⟨[], plus, digits, rfl, Or.inl rfl, hplus, hnumeral, hlength, rfl⟩
    · rintro ⟨minus, plus, digits, rfl, rfl | rfl, hplus, hnumeral, hlength, rfl⟩
      · refine ⟨_, unsigned?_eq_some_iff.mpr ⟨plus, digits, rfl, hplus, hnumeral, ?_⟩, rfl⟩
        exact Decimal.read_eq_ok_iff.mpr ⟨hlength, rfl⟩
      · exact absurd rfl (hminus _)

/-- A distance is written in digits after signs, so its last character tells it from fields with
    a unit. -/
theorem mem_of_distance? {fromStart fromEnd : Nat → Position} {cs : List Char} {p : Position}
    (h : distance? fromStart fromEnd cs = some p) :
    ∀ c ∈ cs, c = '-' ∨ c = '+' ∨ c.isDigit = true := by
  rcases distance?_eq_some_iff.mp h with ⟨minus, plus, digits, rfl, hminus, hplus, hnumeral, _⟩
  intro c hc
  rw [List.mem_append, List.mem_append] at hc
  rcases hc with (hc | hc) | hc
  · rcases hminus with rfl | rfl
    · exact absurd hc List.not_mem_nil
    · exact Or.inl (List.mem_singleton.mp hc)
  · rcases hplus with rfl | rfl
    · exact absurd hc List.not_mem_nil
    · exact Or.inr (Or.inl (List.mem_singleton.mp hc))
  · exact Or.inr (Or.inr ((Decimal.isNumeral_iff.mp hnumeral).2 c hc))

/-- A text does not end in what ends in another character. This settles which of the units a
    field can have by its last character alone. -/
theorem before?_eq_none {tail s : String} (hne : tail ≠ "")
    (hlast : s.toList.getLast? ≠ tail.toList.getLast?) : Text.before? tail s = none := by
  cases hbefore : Text.before? tail s with
  | none => rfl
  | some body =>
      rw [before?_eq_some_iff] at hbefore
      rw [hbefore, List.getLast?_append_of_ne_nil _ (by rwa [ne_eq, String.toList_eq_nil_iff])]
        at hlast
      exact absurd rfl hlast

/-- No position as such ends like a number of mebibytes. -/
theorem before?_of_parse? {field : String} {p : Position} (h : parse? field = some p) :
    Text.before? "MiB" field = none := by
  cases hbefore : Text.before? "MiB" field with
  | none => rfl
  | some body =>
      exfalso
      rw [before?_eq_some_iff] at hbefore
      -- The last character is no unit, no digit and not that of a word.
      have hlast : field.toList.getLast? = some 'B' := by
        rw [hbefore, List.getLast?_append_of_ne_nil _ (by decide)]
        rfl
      unfold parse? at h
      rw [before?_eq_none (by decide) (by rw [hlast]; decide),
        before?_eq_none (by decide) (by rw [hlast]; decide)] at h
      dsimp only at h
      split at h
      · rename_i hword
        subst hword
        exact absurd hlast (by decide)
      · split at h
        · rename_i hword
          subst hword
          exact absurd hlast (by decide)
        · have hmem := mem_of_distance? h 'B' (List.mem_of_getLast? hlast)
          exact absurd hmem (by decide)

theorem unsigned?_repr {n : Nat} (h : n.repr.toList.length ≤ Decimal.digitLimit) :
    unsigned? n.repr.toList = some n :=
  unsigned?_eq_some_iff.mpr ⟨[], n.repr.toList, rfl, Or.inl rfl, Decimal.isNumeral_repr n,
    Decimal.read_eq_ok_iff.mpr ⟨h, Json.ofDigits_repr n⟩⟩

/-- Megabytes that have been written are read again. Mebibytes are read by way of this text, so
    nothing may be lost by it. -/
theorem parse?_megabytes {n : Int} (h : Decimal.isWritable n = true) :
    parse? (Decimal.text n ++ "M") = some (ofMegabytes n) := by
  have hlength := (Json.length_repr_le_iff n).mpr h
  have hbefore : Text.before? "M" (Decimal.text n ++ "M") = some (Decimal.text n) := by
    rw [before?_eq_some_iff, String.toList_append]
  unfold parse?
  rw [hbefore]
  -- The number is not negative or negative, and only a negative one is written with a sign.
  cases n with
  | ofNat n =>
      have hunsigned : unsigned? n.repr.toList = some n := unsigned?_repr hlength
      have hsign : ofMegabytes (Int.ofNat n) = megabyte n := by
        unfold ofMegabytes
        rw [if_neg (by simp)]
        rfl
      rw [hsign]
      change distance? megabyte megabyteFromEnd n.repr.toList = _
      unfold distance?
      split
      · -- A numeral begins with a digit, so it is not taken for a distance from the end.
        rename_i rest hminus
        have hdigit := Json.isDigit_of_mem_repr (n := n) (c := '-') (by simp [hminus])
        exact absurd hdigit (by decide)
      · rw [hunsigned]
        rfl
  | negSucc n =>
      have hunsigned : unsigned? (n + 1).repr.toList = some (n + 1) := unsigned?_repr hlength
      have hsign : ofMegabytes (Int.negSucc n) = megabyteFromEnd (n + 1) := by
        unfold ofMegabytes
        rw [if_pos (by simp)]
        rfl
      have htext : (Decimal.text (Int.negSucc n)).toList = '-' :: (n + 1).repr.toList := by
        change ("-" ++ (n + 1).repr).toList = _
        rw [String.toList_append]
        rfl
      dsimp only
      rw [hsign, htext, distance?, hunsigned]
      rfl

/-- A number of mebibytes becomes a number of megabytes. -/
theorem normalize_of_mebibytes {field : String} {sign digits : List Char}
    (hfield : field.toList = sign ++ digits ++ "MiB".toList)
    (hsign : sign = [] ∨ sign = ['-'] ∨ sign = ['+']) (hnumeral : Decimal.isNumeral digits = true)
    (hshort : ¬ IsOverlong field) :
    ∃ n : Int, n = megabytesOfMebibytes
        (if sign = ['-'] then -(Decimal.ofDigits digits : Int) else Decimal.ofDigits digits) ∧
      Decimal.isWritable n = true ∧ normalize field = .ok (Decimal.text n ++ "M") := by
  refine ⟨_, rfl, ?_⟩
  -- Neither the digits nor the number that they become is too long, since the field is not.
  have hread : Decimal.read digits = .ok (Decimal.ofDigits digits) := by
    refine Decimal.read_eq_ok_iff.mpr ⟨?_, rfl⟩
    by_contra hlong
    exact hshort ⟨sign, digits, hfield, hsign, hnumeral, Or.inl (by omega)⟩
  have hwritable : Decimal.isWritable (megabytesOfMebibytes
      (if sign = ['-'] then -(Decimal.ofDigits digits : Int) else Decimal.ofDigits digits)) =
        true := by
    have hsame := isWritable_signed (decide (sign = ['-'])) (Decimal.ofDigits digits)
    simp only [decide_eq_true_eq] at hsame
    rw [hsame]
    by_contra hlong
    exact hshort ⟨sign, digits, hfield, hsign, hnumeral, Or.inr (Bool.not_eq_true _ ▸ hlong)⟩
  refine ⟨hwritable, ?_⟩
  have hbefore : Text.before? "MiB" field = some (String.ofList (sign ++ digits)) := by
    rw [before?_eq_some_iff, String.toList_ofList]
    exact hfield
  unfold normalize
  split
  · rename_i hnone
    rw [hbefore] at hnone
    exact absurd hnone (by simp)
  · rename_i count hcount
    obtain rfl := Option.some.inj (hbefore.symm.trans hcount)
    split
    rename_i negative digits' hsplit
    have hunsigned : unsigned (sign ++ digits) = (negative, digits') := by
      rw [← hsplit, String.toList_ofList]
      rfl
    rw [unsigned_append hsign hnumeral] at hunsigned
    obtain ⟨rfl, rfl⟩ := Prod.mk.inj hunsigned
    rw [if_pos hnumeral, hread]
    dsimp only
    simp only [decide_eq_true_eq]
    rw [Decimal.write_eq_ok_iff.mpr ⟨hwritable, rfl⟩]

/-- What is not a number of mebibytes stays as it is, or is refused. A field with the unit but no
    number before it is not read as anything else. -/
theorem normalize_eq_ok {field s : String} (h : normalize field = .ok s) :
    (Text.before? "MiB" field = none ∧ s = field) ∨
      ∃ sign digits, field.toList = sign ++ digits ++ "MiB".toList ∧
        (sign = [] ∨ sign = ['-'] ∨ sign = ['+']) ∧ Decimal.isNumeral digits = true := by
  unfold normalize at h
  split at h
  · rename_i hbefore
    exact Or.inl ⟨hbefore, (Except.ok.inj h).symm⟩
  · rename_i count hcount
    right
    rw [before?_eq_some_iff] at hcount
    split at h
    rename_i negative digits hsplit
    rcases eq_sign_append_unsigned count.toList with ⟨sign, hsign, hcs⟩
    rw [show (unsigned count.toList).2 = digits from congrArg Prod.snd hsplit] at hcs
    by_cases hnumeral : Decimal.isNumeral digits = true
    · refine ⟨sign, digits, ?_, hsign, hnumeral⟩
      rw [← hcs]
      exact hcount
    · rw [if_neg hnumeral] at h
      exact absurd h (by simp)

/-- The reader of a position accepts what spells one. -/
theorem ofToken_eq_ok_iff {field : String} {p : Position} (hshort : ¬ IsOverlong field) :
    ofToken field = .ok p ↔ Spelled field p := by
  -- Past the normal form only the reader of positions as such is left.
  have hparse : ∀ s, normalize field = .ok s → (ofToken field = .ok p ↔ parse? s = some p) := by
    intro s hs
    unfold ofToken
    rw [hs]
    dsimp only
    cases parse? s <;> simp
  constructor
  · intro h
    cases hnormal : normalize field with
    | error f =>
        unfold ofToken at h
        rw [hnormal] at h
        exact absurd h (by simp)
    | ok s =>
        -- Either the field had no unit and is a position itself, or it is a number of mebibytes.
        rcases normalize_eq_ok hnormal with ⟨_, rfl⟩ | ⟨sign, digits, hfield, hsign, hnumeral⟩
        · exact .plain ((hparse s hnormal).mp h)
        · rcases normalize_of_mebibytes hfield hsign hnumeral hshort with
            ⟨n, hn, hwritable, hmegabytes⟩
          have hp := (hparse _ hmegabytes).mp h
          rw [parse?_megabytes hwritable, Option.some.injEq] at hp
          rw [← hp, hn]
          rcases Decimal.isNumeral_iff.mp hnumeral with ⟨hne, hdigits⟩
          exact .mebibytes hfield hsign hne hdigits
  · intro h
    cases h with
    | plain h =>
        have hnormal : normalize field = .ok field := by
          unfold normalize
          rw [before?_of_parse? h]
        exact (hparse field hnormal).mpr h
    | mebibytes hfield hsign hne hdigits =>
        have hnumeral := Decimal.isNumeral_iff.mpr ⟨hne, hdigits⟩
        rcases normalize_of_mebibytes hfield hsign hnumeral hshort with
          ⟨n, rfl, hwritable, hmegabytes⟩
        exact (hparse _ hmegabytes).mpr (parse?_megabytes hwritable)

/-- What is read is spelled, however long its numbers are, since a field whose numbers are too
    long is not read at all. -/
theorem spelled_of_ofToken {field : String} {p : Position} (h : ofToken field = .ok p) :
    Spelled field p := by
  refine (ofToken_eq_ok_iff fun hlong => ?_).mp h
  rw [← overflows_ofToken_iff, h] at hlong
  exact not_overflows_ok p hlong

/-- The word `none` stands for no position, every other field for what it spells. The word itself
    spells nothing, so the two do not overlap. -/
inductive SpelledOrNone : String → Option Position → Prop
  | none : SpelledOrNone "none" none
  | some {field : String} {p : Position} (h : Spelled field p) : SpelledOrNone field (some p)

end Position

/-- The grammar of optional positions adds one word to that of positions. -/
theorem Fields.optionalPosition_eq_ok_iff {field : String} {p : Option Position}
    (hshort : ¬ Position.IsOverlong field) :
    optionalPosition field = .ok p ↔ Position.SpelledOrNone field p := by
  unfold optionalPosition
  by_cases hnone : field = "none"
  · subst hnone
    rw [if_pos rfl]
    constructor
    · intro h
      rw [← Except.ok.inj h]
      exact .none
    · intro h
      cases h with
      | none => rfl
      | some h =>
          -- The word itself is no position.
          have hread := (Position.ofToken_eq_ok_iff hshort).mpr h
          exact absurd hread (by simp [show Position.ofToken "none" =
            .error (.ofSyntax (.invalidSector "none")) from rfl])
  · rw [if_neg hnone, map_eq_ok_iff]
    constructor
    · rintro ⟨q, hq, rfl⟩
      exact .some ((Position.ofToken_eq_ok_iff hshort).mp hq)
    · intro h
      cases h with
      | none => exact absurd rfl hnone
      | some h => exact ⟨_, (Position.ofToken_eq_ok_iff hshort).mpr h, rfl⟩

/-! ### Contents -/

namespace Fields

/-- The word `reuse` stands for no contents, every other field for what is read from it. No
    filesystem has that name, so the word is not ambiguous. -/
inductive SaysContent : String → Option Content → Prop
  | kept : SaysContent "reuse" none
  | given {field : String} {c : Content} (h : Content.parse field = .ok c) :
      SaysContent field (some c)

theorem content_eq_ok_iff {field : String} {c : Content} :
    content field = .ok c ↔ Content.parse field = .ok c :=
  mapError_eq_ok_iff

theorem optionalContent_eq_ok_iff {field : String} {c : Option Content} :
    optionalContent field = .ok c ↔ SaysContent field c := by
  unfold optionalContent
  by_cases hkept : field = "reuse"
  · subst hkept
    rw [if_pos rfl]
    constructor
    · intro h
      rw [← Except.ok.inj h]
      exact .kept
    · intro h
      cases h with
      | kept => rfl
      | given h =>
          -- The word itself names no filesystem.
          exact absurd h (by simp [show Content.parse "reuse" =
            .error (.invalidFilesystem "reuse") from rfl])
  · rw [if_neg hkept, map_eq_ok_iff]
    constructor
    · rintro ⟨c, hc, rfl⟩
      exact .given (content_eq_ok_iff.mp hc)
    · intro h
      cases h with
      | kept => exact absurd rfl hkept
      | given h => exact ⟨_, content_eq_ok_iff.mpr h, rfl⟩

/-- A logical volume gets a filesystem under its plain name, which is never that of a
    physical volume. -/
theorem volumeFilesystem_eq_ok_iff {field : String} {fs : Filesystem} :
    volumeFilesystem field = .ok fs ↔ fs.isSelectable = true ∧ field = fs.name := by
  -- What the reader of contents accepts under a plain name are the filesystems to be selected.
  have hplain : Content.parse field = .ok (.plain fs) ↔
      fs.isSelectable = true ∧ field = fs.name := by
    rw [Content.parse_eq_ok_iff]
    constructor
    · intro h
      cases h with
      | plain hselectable => exact ⟨hselectable, rfl⟩
    · rintro ⟨hselectable, rfl⟩
      exact .plain hselectable
  rw [← hplain]
  unfold volumeFilesystem
  split
  · rename_i hparse
    simp [hparse]
  · rename_i hparse
    simp [hparse]
  · rename_i hparse
    simp [hparse]

/-- These are eleven names. -/
example : (Filesystem.all.filter Filesystem.isSelectable).map Filesystem.name =
    ["btrfs", "exfat", "ext2", "ext3", "ext4", "f2fs", "fat16", "fat32", "ntfs", "swap",
      "xfs"] := by
  decide

end Fields

/-! ### Suffix fields -/

namespace Suffix

/-- A key and its value as a field. -/
def spelling (f : SuffixKey × String) : String :=
  f.1.name ++ "=" ++ f.2

/-- A field is cut behind its key, since no key has an equals sign in its name. The value may
    have any number of them. -/
theorem cut_eq_iff {s : String} {key : SuffixKey} {value : String} :
    Text.cut '=' s = (key.name, some value) ↔ s = spelling (key, value) := by
  have hname : '=' ∉ key.name.toList := by
    cases key <;> decide
  rw [Text.cut_eq_some_iff, and_iff_left hname, ← String.toList_inj, spelling,
    String.toList_append, String.toList_append, List.append_assoc]
  rfl

theorem cut_spelling (f : SuffixKey × String) :
    Text.cut '=' (spelling f) = (f.1.name, some f.2) :=
  cut_eq_iff.mpr rfl

end Suffix

namespace SuffixGrammar

/-- An allowed key is found under its name. -/
theorem filter_ofName?_name {g : SuffixGrammar} {key : SuffixKey} (h : key ∈ g.keys) :
    (SuffixKey.ofName? key.name).filter g.keys.contains = some key := by
  rw [SuffixKey.ofName?_name]
  simp [Option.filter, h]

/-- What a grammar lets a key have as its value: the key is one of its keys, and the value is not
    empty unless the grammar says so. -/
def Allows (g : SuffixGrammar) (f : SuffixKey × String) : Prop :=
  f.1 ∈ g.keys ∧ (g.allowsEmpty = false → f.2 ≠ "")

/-- A field is a key, an equals sign and a value, in which more of them may stand. -/
theorem field_eq_ok_iff {g : SuffixGrammar} {s : String} {f : SuffixKey × String} :
    g.field s = .ok f ↔ s = Suffix.spelling f ∧ g.Allows f := by
  obtain ⟨key, value⟩ := f
  rw [← Suffix.cut_eq_iff]
  unfold field Allows
  constructor
  · intro h
    split at h
    · rename_i key' value' hkey hvalue
      rcases Option.filter_eq_some_iff.mp hkey with ⟨hname, hkeys⟩
      -- An empty value is refused by some grammars, and this is asked after the key is known.
      by_cases hempty : (value' = "" && !g.allowsEmpty) = true
      · rw [if_pos hempty] at h
        exact absurd h (by simp)
      · rw [if_neg hempty] at h
        obtain ⟨rfl, rfl⟩ := Prod.mk.inj (Except.ok.inj h)
        have hhead := (ofNameIn?_eq_some_iff SuffixKey.ofName?_name).mp hname
        refine ⟨Prod.ext hhead hvalue, by simpa using hkeys, ?_⟩
        rintro hallows rfl
        exact hempty (by simp [hallows])
    · exact absurd h (by simp)
  · rintro ⟨hcut, hkey, hvalue⟩
    rw [hcut]
    simp only [filter_ofName?_name hkey]
    rw [if_neg]
    intro hempty
    simp only [Bool.and_eq_true, decide_eq_true_eq, Bool.not_eq_true'] at hempty
    exact hvalue hempty.2 hempty.1

end SuffixGrammar

/-- Suffix fields are read as those that they spell, each of which is allowed. No field depends
    on another one at this point: keys may be given twice. -/
theorem Suffix.parseFields_eq_ok_iff {g : SuffixGrammar} {fields : List String}
    {found : List (SuffixKey × String)} :
    parseFields g fields = .ok found ↔
      fields = found.map spelling ∧ ∀ f ∈ found, g.Allows f := by
  unfold parseFields
  rw [mapM_eq_ok_iff]
  -- Over the fields that are read, since these determine their texts.
  induction found generalizing fields with
  | nil => simp
  | cons f rest ih =>
      rw [List.forall₂_cons_right_iff, List.map_cons, List.forall_mem_cons]
      constructor
      · rintro ⟨s, others, hs, hothers, rfl⟩
        rw [SuffixGrammar.field_eq_ok_iff] at hs
        rcases ih.mp hothers with ⟨rfl, hallows⟩
        exact ⟨by rw [hs.1], hs.2, hallows⟩
      · rintro ⟨rfl, hf, hallows⟩
        exact ⟨_, _, SuffixGrammar.field_eq_ok_iff.mpr ⟨rfl, hf⟩, ih.mpr ⟨rfl, hallows⟩, rfl⟩

theorem Fields.suffixes_eq_ok_iff {g : SuffixGrammar} {fields : List String}
    {found : List (SuffixKey × String)} :
    suffixes g fields = .ok found ↔
      fields = found.map Suffix.spelling ∧ ∀ f ∈ found, g.Allows f := by
  unfold suffixes
  rw [mapError_eq_ok_iff, Suffix.parseFields_eq_ok_iff]

namespace Suffix

variable {fields : List (SuffixKey × String)}

/-- The value that counts for a key: after it the key is not given again. -/
def IsLast (key : SuffixKey) (value : String) (fields : List (SuffixKey × String)) : Prop :=
  ∃ before after, fields = before ++ (key, value) :: after ∧ ∀ f ∈ after, f.1 ≠ key

theorem lastValue?_eq_some_iff {key : SuffixKey} {value : String} :
    lastValue? key fields = some value ↔ IsLast key value fields := by
  unfold lastValue? IsLast
  rw [Option.map_eq_some_iff]
  simp only [List.findRev?_eq_find?_reverse, List.find?_eq_some_iff_append]
  -- The last one from the front is the first one from the back.
  constructor
  · rintro ⟨⟨key', value'⟩, ⟨hkey, after, before, hsplit, hafter⟩, rfl⟩
    obtain rfl := beq_iff_eq.mp hkey
    refine ⟨before.reverse, after.reverse, ?_, fun f hf => ?_⟩
    · rw [← List.reverse_reverse fields, hsplit, List.reverse_append, List.reverse_cons,
        List.append_assoc, List.singleton_append]
    · simpa using hafter f (List.mem_reverse.mp hf)
  · rintro ⟨before, after, rfl, hafter⟩
    refine ⟨(key, value), ⟨beq_self_eq_true key, after.reverse, before.reverse, ?_, ?_⟩, rfl⟩
    · rw [List.reverse_append, List.reverse_cons, List.append_assoc, List.singleton_append]
    · intro f hf
      simpa using hafter f (List.mem_reverse.mp hf)

/-- What suffix fields say: for every key the value that counts. An empty mount point is none,
    but an empty key is a key. -/
structure Says (fields : List (SuffixKey × String)) (s : Suffix) : Prop where
  mount : ∀ path, s.mount = some path ↔
    ∃ value, IsLast .mount value fields ∧ value ≠ "" ∧ Path.parse value = path
  flags : ∀ flags, s.flags = some flags ↔
    ∃ value, IsLast .flags value fields ∧ Flag.parse value = flags
  keyId : ∀ key, s.keyId = some key ↔ IsLast .keyId key fields

/-- Suffix fields that give a key give a mount point as well. It is asked of the values that
    count, so a mount point that is taken back later does not help. -/
def MountsKey (fields : List (SuffixKey × String)) : Prop :=
  ∀ key, IsLast .keyId key fields → ∃ value, IsLast .mount value fields ∧ value ≠ ""

theorem says_ofFields (fields : List (SuffixKey × String)) :
    Says fields (ofFields fields) where
  mount path := by
    unfold ofFields
    simp only [Option.map_eq_some_iff, Option.filter_eq_some_iff, lastValue?_eq_some_iff,
      bne_iff_ne, and_assoc]
  flags flags := by
    unfold ofFields
    simp only [Option.map_eq_some_iff, lastValue?_eq_some_iff]
  keyId key := lastValue?_eq_some_iff

theorem says_iff {s : Suffix} : Says fields s ↔ s = ofFields fields := by
  constructor
  · intro h
    have hfields := says_ofFields fields
    cases s with
    | mk mount flags keyId =>
        cases hparts : ofFields fields with
        | mk mount' flags' keyId' =>
            rw [hparts] at hfields
            rw [mk.injEq]
            -- What is said of each part says which values it can have.
            refine ⟨Option.ext fun path => ?_, Option.ext fun flags => ?_,
              Option.ext fun key => ?_⟩
            · exact (h.mount path).trans (hfields.mount path).symm
            · exact (h.flags flags).trans (hfields.flags flags).symm
            · exact (h.keyId key).trans (hfields.keyId key).symm
  · rintro rfl
    exact says_ofFields fields

theorem requireMount_ofFields_iff :
    (ofFields fields).requireMount = .ok () ↔ MountsKey fields := by
  have hsaid := says_ofFields fields
  unfold MountsKey requireMount
  constructor
  · intro h key hkey
    rw [← hsaid.keyId] at hkey
    rw [hkey] at h
    cases hmount : (ofFields fields).mount with
    | none =>
        rw [hmount] at h
        exact absurd h (by simp)
    | some path =>
        rcases (hsaid.mount path).mp hmount with ⟨value, hlast, hne, _⟩
        exact ⟨value, hlast, hne⟩
  · intro h
    -- The requirement fails only for a key without a mount point.
    split
    · rename_i key hkey hmount
      rcases h key ((hsaid.keyId key).mp hkey) with ⟨value, hlast, hne⟩
      rw [(hsaid.mount (Path.parse value)).mpr ⟨value, hlast, hne, rfl⟩] at hmount
      exact absurd hmount (by simp)
    · rfl

end Suffix

theorem Fields.mountedSuffix_eq_ok_iff {found : List (SuffixKey × String)} {suffix : Suffix} :
    mountedSuffix found = .ok suffix ↔ Suffix.Says found suffix ∧ Suffix.MountsKey found := by
  rw [Suffix.says_iff, ← Suffix.requireMount_ofFields_iff]
  unfold mountedSuffix
  dsimp only
  -- What the fields say is read off first, and refused afterwards if the mount point is missing.
  cases (Suffix.ofFields found).requireMount with
  | error p => simp
  | ok => simp [eq_comm]

end DiskPlan
