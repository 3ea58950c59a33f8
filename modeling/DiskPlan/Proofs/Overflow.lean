import DiskPlan.Proofs.Reading
import DiskPlan.Proofs.Refusal

/-!
# Fields with Numbers Too Long to Read

Which fields of a token stand for no value although nothing is wrong with their form.

The grammar puts no bound on a number, but reading one does: a numeral of more than
`Decimal.digitLimit` digits has no value. A position that is given in sectors or
megabytes counts such a numeral as a fault of syntax. A partition number and a number
of mebibytes do not, and there the work ends with the failure of the conversion.

An answer that is missing for that reason `Overflows`. Like the facts about answers
that succeed, this one is put together along the chain that makes the answer, and each
reader of a field either never overflows or does so on fields of one form.

## Main definitions

* `Overflows`: An answer that is missing since a number was too long.
* `Fields.IsOverlong`, `Position.IsOverlong`: Fields that hold such a number.

## Theorems

* `overflows_bind_iff`, `overflows_mapM_iff`: Where a chain overflows.
* `Fields.overflows_partitionNumber_iff`: Which partition numbers overflow.
* `Position.overflows_ofToken_iff`: Only numbers of mebibytes overflow in a position.
* `Fields.not_overflows_content`: Contents never overflow.
-/

namespace DiskPlan

/-! ### Answers -/

section Answers

variable {α β : Type} {x : Except Failure α}

/-- An answer that is missing since a number was too long to be read or told. -/
def Overflows (x : Except Failure α) : Prop :=
  ∃ limit, x = .error (.numeral limit)

/-- To overflow is to fail in a certain way, so the general facts about failing apply. -/
theorem overflows_iff_fails : Overflows x ↔ Fails (fun f => ∃ limit, f = .numeral limit) x := by
  constructor
  · rintro ⟨limit, h⟩
    exact ⟨_, h, limit, rfl⟩
  · rintro ⟨_, h, limit, rfl⟩
    exact ⟨limit, h⟩

/-- An answer that is there does not overflow. -/
theorem not_overflows_ok (a : α) : ¬ Overflows (.ok a : Except Failure α) := by
  rw [overflows_iff_fails]
  exact not_fails_ok a

theorem overflows_numeral (limit : Decimal.DigitLimit) :
    Overflows (.error (.numeral limit) : Except Failure α) :=
  ⟨limit, rfl⟩

/-- A failure that is handed on overflows where it comes from. -/
theorem overflows_error_iff {f : Failure} (hx : x = .error f) :
    Overflows (.error f : Except Failure β) ↔ Overflows x := by
  unfold Overflows
  rw [hx]
  simp only [Except.error.injEq]

/-- A chain overflows in its first link, or behind it. -/
theorem overflows_bind_iff {f : α → Except Failure β} :
    Overflows (x >>= f) ↔ Overflows x ∨ ∃ a, x = .ok a ∧ Overflows (f a) := by
  simp only [overflows_iff_fails]
  exact fails_bind_iff

/-- What is done with an answer afterwards makes no difference to whether it overflows. -/
theorem overflows_map_iff (f : α → β) : Overflows (x.map f) ↔ Overflows x := by
  cases x with
  | error e => exact overflows_error_iff rfl
  | ok a => exact iff_of_false (not_overflows_ok (f a)) (not_overflows_ok a)

/-- A list of answers overflows where its first fault is. -/
theorem overflows_mapM_iff {f : α → Except Failure β} {as : List α} :
    Overflows (as.mapM f) ↔ ∃ before a after, as = before ++ a :: after ∧
      (∀ b ∈ before, ∃ c, f b = .ok c) ∧ Overflows (f a) := by
  induction as with
  | nil =>
      rw [List.mapM_nil]
      refine iff_of_false (not_overflows_ok []) ?_
      rintro ⟨before, a, after, h, _⟩
      exact absurd h.symm (List.append_ne_nil_of_right_ne_nil _ (List.cons_ne_nil _ _))
  | cons a rest ih =>
      -- Putting an answer in front of the others cannot overflow.
      have hrest : ∀ b, Overflows (rest.mapM f >>= fun bs => pure (b :: bs)) ↔
          Overflows (rest.mapM f) := by
        intro b
        rw [overflows_bind_iff, or_iff_left]
        rintro ⟨bs, _, h⟩
        exact not_overflows_ok _ h
      rw [List.mapM_cons, overflows_bind_iff]
      constructor
      · rintro (h | ⟨b, hb, h⟩)
        · exact ⟨[], a, rest, rfl, fun c hc => absurd hc List.not_mem_nil, h⟩
        · rcases ih.mp ((hrest b).mp h) with ⟨before, a', after, rfl, hbefore, ha'⟩
          refine ⟨a :: before, a', after, rfl, ?_, ha'⟩
          exact List.forall_mem_cons.mpr ⟨⟨b, hb⟩, hbefore⟩
      · rintro ⟨before, a', after, hsplit, hbefore, ha'⟩
        cases before with
        | nil =>
            obtain ⟨rfl, rfl⟩ := List.cons.inj hsplit
            exact Or.inl ha'
        | cons b before =>
            obtain ⟨rfl, rfl⟩ := List.cons.inj hsplit
            rcases hbefore a List.mem_cons_self with ⟨c, hc⟩
            refine Or.inr ⟨c, hc, (hrest c).mpr (ih.mpr ⟨before, a', after, rfl, ?_, ha'⟩)⟩
            exact fun b' hb' => hbefore b' (List.mem_cons_of_mem _ hb')

/-- A problem whose message spells out no number is told whatever it is about. -/
theorem not_overflows_ofSyntax {p : SyntaxProblem} (h : p.numbers = []) :
    ¬ Overflows (.error (.ofSyntax p) : Except Failure α) := by
  have htold : Failure.ofSyntax p = .problem ⟨.badSyntax p, none⟩ :=
    Failure.ofProblem_of_numbers_eq_nil h
  rintro ⟨limit, hp⟩
  rw [htold] at hp
  exact absurd (Except.error.inj hp) (by simp only [reduceCtorEq, not_false_eq_true])

/-- Problems that spell out no numbers can all be told, so an answer that fails with one of them
    does not overflow. -/
theorem not_overflows_mapError {y : Except SyntaxProblem α}
    (h : FailsWith (fun p => p.numbers = []) y) : ¬ Overflows (y.mapError Failure.ofSyntax) := by
  cases y with
  | error p => exact not_overflows_ofSyntax (h p rfl)
  | ok a => exact not_overflows_ok a

end Answers

namespace Decimal

/-- A digit can be written. -/
theorem isWritable_of_lt_ten {n : Nat} (h : n < 10) : isWritable n = true := by
  have hlimit : 1 ≤ digitLimit := by decide
  unfold isWritable
  rw [Int.natAbs_natCast, decide_eq_true_eq]
  -- With the limit in view, the power would be computed.
  generalize digitLimit = limit at hlimit
  exact Nat.lt_of_lt_of_le h (Nat.pow_le_pow_right (show 0 < 10 by decide) hlimit)

/-- A numeral that is not read has too many digits. -/
theorem lt_of_read_eq_error {cs : List Char} {limit : DigitLimit} (h : read cs = .error limit) :
    digitLimit < cs.length := by
  unfold read at h
  split at h
  · exact absurd h (by simp only [reduceCtorEq, not_false_eq_true])
  · rename_i hlength
    exact Nat.lt_of_not_le hlength

/-- A number that is not written has too many digits. -/
theorem isWritable_of_write_eq_error {n : Int} {limit : DigitLimit} (h : write n = .error limit) :
    isWritable n = false := by
  unfold write at h
  split at h
  · exact absurd h (by simp only [reduceCtorEq, not_false_eq_true])
  · rename_i hwritable
    rw [Bool.not_eq_true] at hwritable
    exact hwritable

end Decimal

/-! ### Fields -/

/-- A text ends in another one if it is made of what stands before and of that one. -/
theorem before?_eq_some_iff {tail s body : String} :
    Text.before? tail s = some body ↔ s.toList = body.toList ++ tail.toList := by
  unfold Text.before?
  split
  · rename_i hsuffix
    rcases List.isSuffixOf_iff_suffix.mp hsuffix with ⟨front, hfront⟩
    rw [Option.some.injEq, ← hfront, List.length_append, Nat.add_sub_cancel_right,
      List.take_left, List.append_left_inj]
    constructor
    · rintro rfl
      rw [String.toList_ofList]
    · rintro rfl
      rw [String.ofList_toList]
  · rename_i hsuffix
    simp only [reduceCtorEq, false_iff]
    intro hsplit
    exact hsuffix (List.isSuffixOf_iff_suffix.mpr ⟨body.toList, hsplit.symm⟩)

namespace Fields

/-- A partition number of more digits than are read. -/
def IsOverlong (field : String) : Prop :=
  Decimal.isNumeral field.toList = true ∧ Decimal.digitLimit < field.toList.length

/-- A partition number overflows exactly if it is made of digits, and of too many. -/
theorem overflows_partitionNumber_iff {field : String} :
    Overflows (partitionNumber field) ↔ IsOverlong field := by
  unfold partitionNumber IsOverlong
  split
  · rename_i hnumeral
    unfold Decimal.read
    split
    · exact iff_of_false (not_overflows_ok _) (by omega)
    · exact iff_of_true (overflows_numeral _) ⟨hnumeral, by omega⟩
  · rename_i hnumeral
    exact iff_of_false (not_overflows_ofSyntax rfl) fun h => hnumeral h.1

/-- A kind of table never overflows, since it is a word. -/
theorem not_overflows_tableKind (field : String) : ¬ Overflows (tableKind field) := by
  unfold tableKind
  split
  · exact not_overflows_ok _
  · exact not_overflows_ofSyntax rfl

/-- Neither does a role. -/
theorem not_overflows_role (field : String) : ¬ Overflows (role field) := by
  unfold role
  split
  · exact not_overflows_ok _
  · exact not_overflows_ofSyntax rfl

/-- Problems of contents spell out no numbers. -/
theorem failsWith_numbers_content (token : String) :
    FailsWith (fun p => p.numbers = []) (Content.parse token) := by
  -- The credentials are collected field by field, whatever was collected before.
  have hcredentials : ∀ (fields : List String) (c : Credentials),
      FailsWith (fun p => p.numbers = []) (fields.foldlM Credentials.add c) := by
    intro fields
    induction fields with
    | nil => exact fun c => failsWith_ok c
    | cons field rest ih =>
        intro c
        rw [List.foldlM_cons]
        refine FailsWith.bind ?_ fun c' _ => ih c'
        unfold Credentials.add
        split
        · split
          · exact failsWith_error rfl
          · exact failsWith_ok _
        · split
          · split
            · exact failsWith_error rfl
            · exact failsWith_ok _
          · exact failsWith_error rfl
  unfold Content.parse
  split
  · unfold Content.ofEncryptedFields
    split
    · split
      · exact failsWith_error rfl
      · split
        · exact failsWith_error rfl
        · split
          · exact failsWith_error rfl
          · exact FailsWith.map (hcredentials _ _) _
    · exact failsWith_error rfl
  · split
    · dsimp only
      split
      · exact failsWith_error rfl
      · exact failsWith_ok _
    · refine FailsWith.map ?_ _
      unfold namedFilesystem
      split
      · exact failsWith_ok _
      · exact failsWith_error rfl

/-- Contents never overflow. No number stands in them. -/
theorem not_overflows_content (field : String) : ¬ Overflows (content field) :=
  not_overflows_mapError (failsWith_numbers_content field)

theorem not_overflows_optionalContent (field : String) : ¬ Overflows (optionalContent field) := by
  unfold optionalContent
  split
  · exact not_overflows_ok _
  · rw [overflows_map_iff]
    exact not_overflows_content field

theorem not_overflows_volumeFilesystem (field : String) :
    ¬ Overflows (volumeFilesystem field) := by
  unfold volumeFilesystem
  split
  · rename_i p hp
    exact not_overflows_ofSyntax (failsWith_numbers_content field p hp)
  · exact not_overflows_ofSyntax rfl
  · exact not_overflows_ok _

theorem not_overflows_suffixes (g : SuffixGrammar) (fields : List String) :
    ¬ Overflows (suffixes g fields) := by
  refine not_overflows_mapError (failsWith_mapM (fun field => ?_) fields)
  unfold SuffixGrammar.field
  split
  · split
    · exact failsWith_error rfl
    · exact failsWith_ok _
  · exact failsWith_error rfl

theorem not_overflows_mountedSuffix (fields : List (SuffixKey × String)) :
    ¬ Overflows (mountedSuffix fields) := by
  unfold mountedSuffix Suffix.requireMount
  dsimp only
  split
  · rename_i p hp
    refine not_overflows_ofSyntax ?_
    split at hp
    · rw [← Except.error.inj hp]
      rfl
    · exact absurd hp (by simp only [reduceCtorEq, not_false_eq_true])
  · exact not_overflows_ok _

end Fields

namespace Position

/-- A number of mebibytes of more digits than are read, or of more megabytes than
    are written: a sign at most, a numeral and `MiB`. -/
def IsOverlong (field : String) : Prop :=
  ∃ sign digits, field.toList = sign ++ digits ++ "MiB".toList ∧
    (sign = [] ∨ sign = ['-'] ∨ sign = ['+']) ∧ Decimal.isNumeral digits = true ∧
    (Decimal.digitLimit < digits.length ∨
      Decimal.isWritable (megabytesOfMebibytes (Decimal.ofDigits digits)) = false)

/-- The sign of a number of mebibytes makes no difference to the length of the
    result. -/
theorem isWritable_megabytesOfMebibytes_neg (n : Nat) :
    Decimal.isWritable (megabytesOfMebibytes (-(n : Int))) =
      Decimal.isWritable (megabytesOfMebibytes n) := by
  -- The conversion works on the absolute value and puts the sign back.
  have hnatAbs : ∀ i : Int,
      (megabytesOfMebibytes i).natAbs = i.natAbs * 1048576 / 1000000 := by
    intro i
    unfold megabytesOfMebibytes
    dsimp only
    split
    · rw [Int.natAbs_neg, Int.natAbs_natCast]
    · rw [Int.natAbs_natCast]
  unfold Decimal.isWritable
  rw [hnatAbs, hnatAbs, Int.natAbs_neg]

/-- What is left of a numeral with a sign at most, and whether the sign is a minus. -/
def unsigned (cs : List Char) : Bool × List Char :=
  match cs with
  | '-' :: rest => (true, rest)
  | '+' :: rest => (false, rest)
  | cs => (false, cs)

theorem eq_sign_append_unsigned (cs : List Char) :
    ∃ sign, (sign = [] ∨ sign = ['-'] ∨ sign = ['+']) ∧ cs = sign ++ (unsigned cs).2 := by
  unfold unsigned
  split
  · exact ⟨['-'], Or.inr (Or.inl rfl), rfl⟩
  · exact ⟨['+'], Or.inr (Or.inr rfl), rfl⟩
  · exact ⟨[], Or.inl rfl, rfl⟩

theorem unsigned_append {sign digits : List Char}
    (hsign : sign = [] ∨ sign = ['-'] ∨ sign = ['+']) (hdigits : Decimal.isNumeral digits = true) :
    unsigned (sign ++ digits) = (decide (sign = ['-']), digits) := by
  rcases hsign with rfl | rfl | rfl
  · -- A numeral begins with a digit, which is no sign.
    rw [List.nil_append]
    unfold unsigned
    split
    · exact absurd hdigits (by simp [Decimal.isNumeral, Char.isDigit])
    · exact absurd hdigits (by simp [Decimal.isNumeral, Char.isDigit])
    · rfl
  · rfl
  · rfl

theorem isWritable_signed (negative : Bool) (n : Nat) :
    Decimal.isWritable (megabytesOfMebibytes (if negative then -(n : Int) else n)) =
      Decimal.isWritable (megabytesOfMebibytes n) := by
  split
  · exact isWritable_megabytesOfMebibytes_neg n
  · rfl

theorem overflows_normalize_iff {field : String} :
    Overflows (normalize field) ↔ IsOverlong field := by
  unfold normalize
  split
  · -- Without the unit the token is left as it is.
    rename_i hcount
    refine iff_of_false (not_overflows_ok _) ?_
    rintro ⟨sign, digits, hfield, _⟩
    rw [← String.toList_ofList (l := sign ++ digits)] at hfield
    rw [before?_eq_some_iff.mpr hfield] at hcount
    exact absurd hcount (by simp only [reduceCtorEq, not_false_eq_true])
  · rename_i count hcount
    rw [before?_eq_some_iff] at hcount
    split
    rename_i negative digits hsplit
    have hunsigned : (unsigned count.toList).2 = digits := congrArg Prod.snd hsplit
    -- There is one way only to take the sign and the unit off.
    have hlong : IsOverlong field ↔ Decimal.isNumeral digits = true ∧
        (Decimal.digitLimit < digits.length ∨
          Decimal.isWritable (megabytesOfMebibytes (Decimal.ofDigits digits)) = false) := by
      constructor
      · rintro ⟨sign, digits', hfield, hsign, hdigits', hlong⟩
        obtain rfl : digits' = digits := by
          rw [← hunsigned, List.append_cancel_right (hcount.symm.trans hfield)]
          exact (congrArg Prod.snd (unsigned_append hsign hdigits')).symm
        exact ⟨hdigits', hlong⟩
      · rintro ⟨hdigits, hlong⟩
        rcases eq_sign_append_unsigned count.toList with ⟨sign, hsign, hcs⟩
        rw [hunsigned] at hcs
        refine ⟨sign, digits, ?_, hsign, hdigits, hlong⟩
        rw [← hcs]
        exact hcount
    rw [hlong]
    split
    · rename_i hdigits
      rw [and_iff_right hdigits]
      -- The numeral is read first and, once converted, written again.
      split
      · rename_i limit hread
        exact iff_of_true (overflows_numeral limit) (Or.inl (Decimal.lt_of_read_eq_error hread))
      · rename_i n hread
        -- It has been read, so only the megabytes can be too long.
        rcases Decimal.read_eq_ok_iff.mp hread with ⟨hlength, rfl⟩
        rw [or_iff_right (Nat.not_lt.mpr hlength)]
        split
        · rename_i limit hwrite
          rw [← isWritable_signed negative]
          exact iff_of_true (overflows_numeral limit) (Decimal.isWritable_of_write_eq_error hwrite)
        · rename_i text hwrite
          rw [← isWritable_signed negative, (Decimal.write_eq_ok_iff.mp hwrite).1]
          exact iff_of_false (not_overflows_ok _) fun h => Bool.false_ne_true h.symm
    · rename_i hdigits
      exact iff_of_false (not_overflows_ofSyntax rfl) fun h => hdigits h.1

theorem overflows_ofToken_iff {field : String} :
    Overflows (ofToken field) ↔ IsOverlong field := by
  rw [← overflows_normalize_iff]
  unfold ofToken
  cases normalize field with
  | error f => exact overflows_error_iff rfl
  | ok s =>
      -- From here on a number that is too long is a fault of syntax.
      refine iff_of_false ?_ (not_overflows_ok s)
      dsimp only
      split
      · exact not_overflows_ok _
      · exact not_overflows_ofSyntax rfl

end Position

theorem Fields.overflows_optionalPosition_iff {field : String} :
    Overflows (optionalPosition field) ↔ Position.IsOverlong field := by
  unfold optionalPosition
  split
  · rename_i hnone
    -- The word for no position has no unit.
    refine iff_of_false (not_overflows_ok _) ?_
    rw [hnone, ← Position.overflows_normalize_iff]
    exact not_overflows_ok _
  · rw [overflows_map_iff]
    exact Position.overflows_ofToken_iff

end DiskPlan
