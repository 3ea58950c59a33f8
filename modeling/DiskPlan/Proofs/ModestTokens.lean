import DiskPlan.Proofs.JsonValues
import DiskPlan.Proofs.Overlong
import DiskPlan.Proofs.ToldOutcomes

/-!
# Tokens with Short Numbers

What a token says whose numbers have at most a thousand digits.

A token is read, or refused for its syntax, unless a number in it is too long. Which numbers
count is said by `Operation.Overlong` in terms of the fields, and each of them is a row of
digits within one field. A field is a piece of its token, so a token without a long row of
digits is read or refused. The conversion of mebibytes makes a number longer by a digit at
most, so there is room enough for it.

What is read can be told in every case. A number that is read is within the limit on
numerals, and it is only spelled out again when the operation is logged.

## Main definitions

* `Decimal.modestLimit`: The least number of more than a thousand digits.
* `Text.IsModest`: A text without a row of more than a thousand digits.
* `Text.HasRowsWithin`: A text without a row of digits longer than a bound.
* `Operation.numbers`: The numbers that the description of an operation spells out.

## Theorems

* `Text.infix_of_mem_fields`, `Text.length_fields_le`: Fields are pieces of their text.
* `Operation.not_overlong_of_isModest`: No token of short numbers has one that is too long.
* `Operation.failsWith_read_of_isModest`: Such a token is refused with what can be told.
* `Operation.isWritable_of_read`: What is read can be spelled out.
-/

namespace DiskPlan

/-! ### Numbers -/

namespace Decimal

/-- The least number of more than a thousand digits. It is far below the limit, so there is room
    for what is counted or converted on the way. -/
def modestLimit : Nat :=
  10 ^ 1000

/-- A numeral that is read is within the limit, so it can be written again. -/
theorem isWritable_of_read {cs : List Char} {n : Nat} (hnumeral : isNumeral cs = true)
    (h : read cs = .ok n) : isWritable n = true := by
  rcases read_eq_ok_iff.mp h with ⟨hlength, rfl⟩
  unfold isNumeral at hnumeral
  rw [Bool.and_eq_true, List.all_eq_true] at hnumeral
  refine isWritable_of_natAbs_lt ?_ hlength
  rw [Int.natAbs_natCast]
  exact Json.ofDigits_lt hnumeral.2

/-- A thousand digits leave room for one more, which is what a number of megabytes can have. -/
theorem isWritable_of_lt_modestLimit {n : Int} (h : n.natAbs < 10 * modestLimit) :
    isWritable n = true := by
  -- Stated for any power, so that the power itself is never evaluated.
  have hroom : ∀ {bound k : Nat}, bound = 10 ^ k → n.natAbs < 10 * bound → k < digitLimit →
      isWritable n = true := by
    rintro _ k rfl hn hk
    rw [Nat.mul_comm, ← Nat.pow_succ] at hn
    exact isWritable_of_natAbs_lt hn hk
  exact hroom modestLimit.eq_1 h (by decide)

theorem lt_modestLimit : 100000 < modestLimit := by
  have hpow : ∀ {bound k : Nat}, bound = 10 ^ k → 5 < k → 100000 < bound := by
    rintro _ k rfl hk
    exact Nat.pow_lt_pow_right (show 1 < 10 by decide) hk
  exact hpow modestLimit.eq_1 (by decide)

end Decimal

/-! ### Pieces of a text -/

namespace Text

/-- A text of which no row of digits is longer than a thousand, and which is not too long to be
    counted. The length matters since the number of fields can stand in a message. -/
structure IsModest (s : String) : Prop where
  length : s.toList.length < Decimal.modestLimit
  digits : ∀ digits, digits <:+: s.toList → (∀ c ∈ digits, c.isDigit = true) →
    digits.length ≤ 1000

/-- A text of which no row of digits is longer than a bound. The bound stays general: what makes
    a number too long is the limit on digits, and how far a text is from it is up to the text. -/
def HasRowsWithin (bound : Nat) (s : String) : Prop :=
  ∀ digits, digits <:+: s.toList → (∀ c ∈ digits, c.isDigit = true) → digits.length ≤ bound

theorem IsModest.hasRowsWithin {s : String} (h : IsModest s) : HasRowsWithin 1000 s :=
  h.digits

/-- A piece of a text has no longer rows of digits, so what holds of a token holds of its fields. -/
theorem HasRowsWithin.of_infix {bound : Nat} {s t : String} (h : HasRowsWithin bound t)
    (hpiece : s.toList <:+: t.toList) : HasRowsWithin bound s :=
  fun digits hdigits => h digits (hdigits.trans hpiece)

theorem HasRowsWithin.mono {bound bound' : Nat} {s : String} (h : HasRowsWithin bound s)
    (hle : bound ≤ bound') : HasRowsWithin bound' s :=
  fun digits hpiece hdigits => (h digits hpiece hdigits).trans hle

/-- No row of digits is longer than its text. -/
theorem hasRowsWithin_of_length_le {bound : Nat} {s : String} (h : s.toList.length ≤ bound) :
    HasRowsWithin bound s :=
  fun _ hdigits _ => hdigits.length_le.trans h

theorem isModest_of_length_le {s : String} (h : s.toList.length ≤ 1000) : IsModest s := by
  have hlimit := Decimal.lt_modestLimit
  exact ⟨by omega, hasRowsWithin_of_length_le h⟩

/-- Whatever is put between lists, each of them is still there as a piece. -/
theorem infix_intercalate_of_mem {α : Type} {sep l : List α} {ls : List (List α)} (h : l ∈ ls) :
    l <:+: sep.intercalate ls := by
  induction ls with
  | nil => exact absurd h List.not_mem_nil
  | cons first rest ih =>
      cases rest with
      | nil =>
          rewrite [List.mem_singleton.mp h, List.intercalate_singleton]
          exact List.infix_refl first
      -- The first list stands in front of the others, and these are put together by themselves.
      | cons second rest =>
          rw [List.intercalate_cons_cons]
          rcases List.mem_cons.mp h with rfl | h
          · rw [List.append_assoc]
            exact (List.prefix_append _ _).isInfix
          · exact (ih h).trans (List.suffix_append _ _).isInfix

/-- A field is a piece of its text. -/
theorem infix_of_mem_fields {sep : Char} {s f : String} (h : f ∈ fields sep s) :
    f.toList <:+: s.toList := by
  rcases List.mem_map.mp h with ⟨cs, hcs, rfl⟩
  have hinfix : cs <:+: [sep].intercalate (s.toList.splitOn sep) := infix_intercalate_of_mem hcs
  rw [List.intercalate_splitOn] at hinfix
  rw [String.toList_ofList]
  exact hinfix

/-- There is at most one field more than there are characters, since every field but the first
    has its separator in front. -/
theorem length_fields_le (sep : Char) (s : String) :
    (fields sep s).length ≤ s.toList.length + 1 := by
  -- Along the characters, of which each one begins a field or makes the first one longer.
  have hsplit : ∀ cs : List Char, (cs.splitOn sep).length ≤ cs.length + 1 := by
    intro cs
    unfold List.splitOn
    induction cs with
    | nil => exact Nat.le_refl 1
    | cons c rest ih =>
        rw [List.splitOnP_cons_eq_if_modifyHead]
        split
        · rw [List.length_cons, List.length_cons]
          omega
        · rw [List.length_modifyHead, List.length_cons]
          omega
  unfold fields
  rw [List.length_map]
  exact hsplit s.toList

end Text

/-! ### Fields -/

section Fields

variable {sep : Char} {token field : String} {bound : Nat}

/-- A partition number is one row of digits, so its length is that of the row. -/
theorem Fields.not_isOverlong (htoken : Text.HasRowsWithin bound token)
    (hbound : bound ≤ Decimal.digitLimit) (hfield : field ∈ Text.fields sep token) :
    ¬ IsOverlong field := by
  rintro ⟨hnumeral, hlong⟩
  unfold Decimal.isNumeral at hnumeral
  rw [Bool.and_eq_true, List.all_eq_true] at hnumeral
  have hlength := htoken _ (Text.infix_of_mem_fields hfield) hnumeral.2
  omega

/-- A number of mebibytes is one row of digits between a sign and its unit, and makes at most
    one digit more in megabytes. -/
theorem Position.not_isOverlong_of_hasRowsWithin (hrows : Text.HasRowsWithin bound field)
    (hbound : bound < Decimal.digitLimit) : ¬ IsOverlong field := by
  rintro ⟨sign, digits, hsplit, _, hnumeral, hlong⟩
  unfold Decimal.isNumeral at hnumeral
  rw [Bool.and_eq_true, List.all_eq_true] at hnumeral
  have hdigits : digits <:+: field.toList := by
    rw [hsplit]
    exact List.infix_append sign digits _
  have hlength := hrows _ hdigits hnumeral.2
  -- It is too long to be read, or what it becomes is too long to be written.
  rcases hlong with hlong | hlong
  · omega
  · have hvalue : Decimal.ofDigits digits < 10 ^ bound :=
      Nat.lt_of_lt_of_le (Json.ofDigits_lt hnumeral.2) (Nat.pow_le_pow_right (by decide) hlength)
    have hmegabytes : (megabytesOfMebibytes (Decimal.ofDigits digits)).natAbs <
        10 ^ (bound + 1) := by
      unfold megabytesOfMebibytes
      dsimp only
      rw [if_neg (Int.not_lt.mpr (Int.natCast_nonneg _)), Int.natAbs_natCast, Int.natAbs_natCast,
        Nat.pow_succ]
      omega
    rw [Decimal.isWritable_of_natAbs_lt hmegabytes hbound] at hlong
    exact Bool.false_ne_true hlong.symm

theorem Position.not_isOverlong (htoken : Text.HasRowsWithin bound token)
    (hbound : bound < Decimal.digitLimit) (hfield : field ∈ Text.fields sep token) :
    ¬ IsOverlong field :=
  not_isOverlong_of_hasRowsWithin (htoken.of_infix (Text.infix_of_mem_fields hfield)) hbound

end Fields

namespace Operation

/-- No token of short numbers has one that is too long. Neither does such a token have too many
    fields to be counted in a message. -/
theorem not_overlong_of_isModest {kind : Kind} {token : String} (h : Text.IsModest token) :
    ¬ Overlong kind (Text.fields ':' token) := by
  intro hlong
  have hnumber : ∀ f ∈ Text.fields ':' token, ¬ Fields.IsOverlong f :=
    fun _ hf => Fields.not_isOverlong h.hasRowsWithin (by decide) hf
  have hposition : ∀ f ∈ Text.fields ':' token, ¬ Position.IsOverlong f :=
    fun _ hf => Position.not_isOverlong h.hasRowsWithin (by decide) hf
  have hcount : Decimal.isWritable (Text.fields ':' token).length = true := by
    have hlength := Text.length_fields_le ':' token
    refine Decimal.isWritable_of_lt_modestLimit ?_
    have hshort := h.length
    rw [Int.natAbs_natCast]
    omega
  -- The fields are known only by these facts, whatever places they stand in.
  generalize Text.fields ':' token = fields at hlong hnumber hposition hcount
  cases hlong with
  | count _ hlong =>
      rw [hcount] at hlong
      exact Bool.false_ne_true hlong.symm
  | deleted _ hlong => exact hnumber _ (by simp) hlong
  | moved hlong => exact hnumber _ (by simp) hlong
  | movedFirst _ hlong => exact hposition _ (by simp) hlong
  | movedLast _ _ hlong => exact hposition _ (by simp) hlong
  | reused _ _ _ hlong => exact hnumber _ (by simp) hlong
  | createdFirst _ _ hlong => exact hposition _ (by simp) hlong
  | createdLast _ _ _ hlong => exact hposition _ (by simp) hlong
  | sized _ _ _ hlong => exact hposition _ (by simp) hlong

/-- A token of short numbers is refused with what can be told, since the only other failures to
    read a token are numbers that are too long. -/
theorem failsWith_read_of_isModest (kind : Kind) {token : String} (h : Text.IsModest token) :
    FailsWith Failure.IsTold (read kind token).operation := by
  intro f hf
  cases failsWith_read kind token f hf with
  | badSyntax p hnumbers => exact ⟨_, rfl, hnumbers⟩
  | numeral limit => exact absurd (overflows_read_iff.mp ⟨limit, hf⟩) (not_overlong_of_isModest h)

end Operation

/-! ### Operations -/

/-- The number that a position is given by. The words for the start and the end have none. -/
def Position.number? : Position → Option Nat
  | start | finish => none
  | sector n | sectorFromEnd n | megabyte n | megabyteFromEnd n | percent n => some n

/-- The numbers that the description of an action spells out. -/
def DiskAction.numbers : DiskAction → List Nat
  | relabel _ => []
  | delete numbers => numbers
  | move number first last =>
    number :: ((first.bind Position.number?).toList ++ (last.bind Position.number?).toList)
  | reuse number _ _ => [number]
  | create _ first last _ _ => first.number?.toList ++ last.number?.toList

/-- The numbers that the description of an operation spells out, which are all that could keep it
    from being written. -/
def Operation.numbers : Operation → List Nat
  | onDisk _ action => action.numbers
  | onGroup _ volume => volume.size.number?.toList

/-- Numbers that can all be written. -/
def AreWritable (ns : List Nat) : Prop :=
  ∀ n ∈ ns, Decimal.isWritable n = true

theorem isWritable_of_partitionNumber {field : String} {n : Nat}
    (h : Fields.partitionNumber field = .ok n) : Decimal.isWritable n = true := by
  unfold Fields.partitionNumber at h
  split at h
  · rename_i hnumeral
    exact Decimal.isWritable_of_read hnumeral (mapError_eq_ok_iff.mp h)
  · exact absurd h (by simp only [reduceCtorEq, not_false_eq_true])

namespace Position

theorem isWritable_of_unsigned? {cs : List Char} {n : Nat} (h : unsigned? cs = some n) :
    Decimal.isWritable n = true := by
  -- Without its sign, a number is read from its digits.
  have hdigits : ∀ digits, (if Decimal.isNumeral digits then (Decimal.read digits).toOption
      else none) = some n → Decimal.isWritable n = true := by
    intro digits h
    split at h
    · rename_i hnumeral
      cases hread : Decimal.read digits with
      | error limit =>
          rw [hread] at h
          exact absurd h (by simp only [Except.toOption, reduceCtorEq, not_false_eq_true])
      | ok m =>
          rw [hread] at h
          obtain rfl : m = n := Option.some.inj h
          exact Decimal.isWritable_of_read hnumeral hread
    · exact absurd h (by simp only [reduceCtorEq, not_false_eq_true])
  unfold unsigned? at h
  exact hdigits _ h

/-- A position that is a distance is given by the number that is read, whichever end it is
    counted from. -/
theorem areWritable_of_distance? {fromStart fromEnd : Nat → Position} {cs : List Char}
    {p : Position} (hstart : ∀ n, (fromStart n).number? = some n)
    (hend : ∀ n, (fromEnd n).number? = some n) (h : distance? fromStart fromEnd cs = some p) :
    AreWritable p.number?.toList := by
  unfold distance? at h
  split at h
  · rcases Option.map_eq_some_iff.mp h with ⟨n, hn, rfl⟩
    rw [hend]
    exact List.forall_mem_singleton.mpr (isWritable_of_unsigned? hn)
  · rcases Option.map_eq_some_iff.mp h with ⟨n, hn, rfl⟩
    rw [hstart]
    exact List.forall_mem_singleton.mpr (isWritable_of_unsigned? hn)

theorem areWritable_of_parse? {s : String} {p : Position} (h : parse? s = some p) :
    AreWritable p.number?.toList := by
  -- By the unit, by the word, or as sectors: a number is read in each case but the words.
  unfold parse? at h
  split at h
  · exact areWritable_of_distance? (fun _ => rfl) (fun _ => rfl) h
  · split at h
    · rcases Option.map_eq_some_iff.mp h with ⟨n, hn, rfl⟩
      rcases Option.filter_eq_some_iff.mp hn with ⟨hn, _⟩
      exact List.forall_mem_singleton.mpr (isWritable_of_unsigned? hn)
    · split at h
      · rw [← Option.some.inj h]
        exact fun _ hn => absurd hn List.not_mem_nil
      · split at h
        · rw [← Option.some.inj h]
          exact fun _ hn => absurd hn List.not_mem_nil
        · exact areWritable_of_distance? (fun _ => rfl) (fun _ => rfl) h

theorem areWritable_of_ofToken {token : String} {p : Position} (h : ofToken token = .ok p) :
    AreWritable p.number?.toList := by
  unfold ofToken at h
  split at h
  · exact absurd h (by simp only [reduceCtorEq, not_false_eq_true])
  · split at h
    · rename_i hparse
      obtain rfl := Except.ok.inj h
      exact areWritable_of_parse? hparse
    · exact absurd h (by simp only [reduceCtorEq, not_false_eq_true])

theorem areWritable_of_optionalPosition {field : String} {p : Option Position}
    (h : Fields.optionalPosition field = .ok p) :
    AreWritable (p.bind number?).toList := by
  unfold Fields.optionalPosition at h
  split at h
  · rw [← Except.ok.inj h]
    exact fun _ hn => absurd hn List.not_mem_nil
  · rcases map_eq_ok_iff.mp h with ⟨q, hq, rfl⟩
    exact areWritable_of_ofToken hq

end Position

namespace Operation

variable {fields : List String} {op : Operation}

/-- A token for a table spells out no numbers. -/
theorem areWritable_of_readRelabel (h : (readRelabel fields).operation = .ok op) :
    AreWritable op.numbers := by
  unfold readRelabel at h
  split at h
  · rcases bind_eq_ok_iff.mp h with ⟨table, _, h⟩
    obtain rfl := Except.ok.inj h
    exact fun _ hn => absurd hn List.not_mem_nil
  · exact absurd h (by simp [Reading.wrongCount, Reading.flagless])

/-- The numbers of deletions have been read one by one. -/
theorem areWritable_of_readDelete (h : (readDelete fields).operation = .ok op) :
    AreWritable op.numbers := by
  unfold readDelete at h
  split at h
  · rcases bind_eq_ok_iff.mp h with ⟨numbers, hnumbers, h⟩
    obtain rfl := Except.ok.inj h
    intro n hn
    rcases mem_of_mapM_eq_ok hnumbers n hn with ⟨field, _, hfield⟩
    exact isWritable_of_partitionNumber hfield
  · exact absurd h (by simp [Reading.wrongCount, Reading.flagless])

/-- The numbers of a move are the one of its partition and those of the ends that it gives. -/
theorem areWritable_of_readMove (h : (readMove fields).operation = .ok op) :
    AreWritable op.numbers := by
  unfold readMove at h
  split at h
  · rcases bind_eq_ok_iff.mp h with ⟨number, hnumber, h⟩
    rcases bind_eq_ok_iff.mp h with ⟨first, hfirst, h⟩
    rcases bind_eq_ok_iff.mp h with ⟨last, hlast, h⟩
    obtain rfl := Except.ok.inj h
    refine List.forall_mem_cons.mpr ⟨isWritable_of_partitionNumber hnumber, ?_⟩
    exact List.forall_mem_append.mpr ⟨Position.areWritable_of_optionalPosition hfirst,
      Position.areWritable_of_optionalPosition hlast⟩
  · exact absurd h (by simp [Reading.wrongCount, Reading.flagless])

/-- A partition that is kept is given by its number, and its contents spell out none. -/
theorem areWritable_of_readReuse (h : (readReuse fields).operation = .ok op) :
    AreWritable op.numbers := by
  unfold readReuse at h
  split at h
  · split at h
    · exact absurd h (by simp [Reading.wrongCount, Reading.flagless])
    · split at h
      · exact absurd h (by simp [Reading.flagless])
      · rcases bind_eq_ok_iff.mp h with ⟨suffix, _, h⟩
        rcases bind_eq_ok_iff.mp h with ⟨number, hnumber, h⟩
        rcases bind_eq_ok_iff.mp h with ⟨content, _, h⟩
        obtain rfl := Except.ok.inj h
        exact List.forall_mem_singleton.mpr (isWritable_of_partitionNumber hnumber)
  · exact absurd h (by simp [Reading.wrongCount, Reading.flagless])

/-- The two positions of a new partition are read with the fields in front of the suffixes. -/
theorem areWritable_of_createHead {role first last content : String} {r : Role} {p q : Position}
    {c : Content} (h : createHead role first last content = .ok (r, p, q, c)) :
    AreWritable (p.number?.toList ++ q.number?.toList) := by
  unfold createHead at h
  rcases bind_eq_ok_iff.mp h with ⟨r', _, h⟩
  rcases bind_eq_ok_iff.mp h with ⟨p', hp, h⟩
  rcases bind_eq_ok_iff.mp h with ⟨q', hq, h⟩
  rcases bind_eq_ok_iff.mp h with ⟨c', _, h⟩
  cases Except.ok.inj h
  exact List.forall_mem_append.mpr
    ⟨Position.areWritable_of_ofToken hp, Position.areWritable_of_ofToken hq⟩

/-- The numbers of a new partition are those of its two positions. -/
theorem areWritable_of_readCreate (h : (readCreate fields).operation = .ok op) :
    AreWritable op.numbers := by
  unfold readCreate at h
  split at h
  · split at h
    · exact absurd h (by simp [Reading.wrongCount, Reading.flagless])
    · split at h
      · exact absurd h (by simp [Reading.flagless])
      · rename_i hhead
        split at h
        · exact absurd h (by simp [Reading.flagless])
        · rcases bind_eq_ok_iff.mp h with ⟨suffix, _, h⟩
          obtain rfl := Except.ok.inj h
          exact areWritable_of_createHead hhead
  · exact absurd h (by simp [Reading.wrongCount, Reading.flagless])

/-- The number of a logical volume is the one of its size. -/
theorem areWritable_of_readLogical (h : (readLogical fields).operation = .ok op) :
    AreWritable op.numbers := by
  unfold readLogical at h
  split at h
  · split at h
    · exact absurd h (by simp [Reading.wrongCount, Reading.flagless])
    · split at h
      · exact absurd h (by simp [Reading.flagless])
      · rcases bind_eq_ok_iff.mp h with ⟨filesystem, _, h⟩
        rcases bind_eq_ok_iff.mp h with ⟨size, hsize, h⟩
        obtain rfl := Except.ok.inj h
        exact Position.areWritable_of_ofToken hsize
  · exact absurd h (by simp [Reading.wrongCount, Reading.flagless])

/-- What is read can be spelled out: every number in it has been a numeral within the limit. So
    an operation that has been read can also be logged. -/
theorem isWritable_of_read {kind : Kind} {token : String}
    (h : (read kind token).operation = .ok op) : AreWritable op.numbers := by
  unfold read at h
  -- Each kind spells out the numbers of its own fields.
  cases kind with
  | relabel => exact areWritable_of_readRelabel h
  | delete => exact areWritable_of_readDelete h
  | move => exact areWritable_of_readMove h
  | reuse => exact areWritable_of_readReuse h
  | create => exact areWritable_of_readCreate h
  | logical => exact areWritable_of_readLogical h

end Operation

end DiskPlan
