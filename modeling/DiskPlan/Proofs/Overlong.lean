import DiskPlan.Proofs.Overflow

/-!
# Tokens with Numbers Too Long to Read

Which tokens are not even refused.

A token that breaks the grammar is refused with a problem of syntax that records
the token. A number that is too long to be read is no such fault: where it is a
partition number or a number of mebibytes, the work ends with the failure of the
conversion, which names neither the token nor its kind.

`Operation.Overlong` says of the fields of a token that they hold such a number and
that nothing in front of it, in the order in which the fields are read, is at fault.
It has one case for each place where a number is read without care, and one for a
token of so many fields that their count cannot be told. `parse_cases_iff` says that
these are all: every other token is read or refused for its syntax.

## Main definitions

* `Operation.Overlong`: Tokens whose first fault is a number that is too long.

## Theorems

* `Operation.overflows_read_iff`: Where the reading of a token overflows.
* `Operation.parse_cases_iff`: Every other token is read or refused.
* `Operation.mebibytes_escape_ofMany`: A token that is neither.
-/

namespace DiskPlan

namespace Operation

/-- Fields of a token of a kind of which the first fault is a number that is too long:
    nothing that is read before it is at fault. -/
inductive Overlong : Kind → List String → Prop
  | count {kind : Kind} {fields : List String} (hkind : kind ≠ .delete)
      (hcount : Decimal.isWritable fields.length = false) : Overlong kind fields
  | deleted {disk number : String} {before after : List String}
      (hbefore : ∀ f ∈ before, ∃ n, Fields.partitionNumber f = .ok n)
      (hnumber : Fields.IsOverlong number) : Overlong .delete (disk :: (before ++ number :: after))
  | moved {disk number first last : String} (hnumber : Fields.IsOverlong number) :
      Overlong .move [disk, number, first, last]
  | movedFirst {disk number first last : String} {n : Nat}
      (hnumber : Fields.partitionNumber number = .ok n) (hfirst : Position.IsOverlong first) :
      Overlong .move [disk, number, first, last]
  | movedLast {disk number first last : String} {n : Nat} {p : Option Position}
      (hnumber : Fields.partitionNumber number = .ok n)
      (hfirst : Fields.optionalPosition first = .ok p) (hlast : Position.IsOverlong last) :
      Overlong .move [disk, number, first, last]
  | reused {disk number content : String} {suffixes : List String}
      {found : List (SuffixKey × String)} {suffix : Suffix} (hlength : suffixes.length ≤ 2)
      (hfound : Fields.suffixes .any suffixes = .ok found)
      (hsuffix : Fields.mountedSuffix found = .ok suffix) (hnumber : Fields.IsOverlong number) :
      Overlong .reuse (disk :: number :: content :: suffixes)
  | createdFirst {disk role first last content : String} {suffixes : List String} {r : Role}
      (hlength : suffixes.length ≤ 2) (hrole : Fields.role role = .ok r)
      (hfirst : Position.IsOverlong first) :
      Overlong .create (disk :: role :: first :: last :: content :: suffixes)
  | createdLast {disk role first last content : String} {suffixes : List String} {r : Role}
      {p : Position} (hlength : suffixes.length ≤ 2) (hrole : Fields.role role = .ok r)
      (hfirst : Position.ofToken first = .ok p) (hlast : Position.IsOverlong last) :
      Overlong .create (disk :: role :: first :: last :: content :: suffixes)
  | sized {group name size filesystem : String} {suffixes : List String}
      {found : List (SuffixKey × String)} {fs : Filesystem} (hlength : suffixes.length ≤ 2)
      (hfound : Fields.suffixes .volume suffixes = .ok found)
      (hfilesystem : Fields.volumeFilesystem filesystem = .ok fs)
      (hsize : Position.IsOverlong size) :
      Overlong .logical (group :: name :: size :: filesystem :: suffixes)

/-- A token with the wrong number of fields is told how many it has. -/
theorem overflows_wrongCount_iff (kind : Kind) {minimum : Int} {maximum : Option Int}
    (fields : List String) (hminimum : Decimal.isWritable minimum = true)
    (hmaximum : maximum.toList.all Decimal.isWritable = true) :
    Overflows (Reading.wrongCount kind minimum maximum fields).operation ↔
      Decimal.isWritable fields.length = false := by
  -- The message counts the fields and says how many there may be.
  have hnumbers : (Problem.badSyntax (Fields.wrongCount kind.name minimum maximum
      fields.length)).numbers = minimum :: ↑fields.length :: maximum.toList := by
    unfold Fields.wrongCount
    split <;> rfl
  have hproblem : (Reading.wrongCount kind minimum maximum fields).operation =
      .error (.ofProblem (.badSyntax (Fields.wrongCount kind.name minimum maximum
        fields.length))) := rfl
  rw [hproblem, Failure.ofProblem, hnumbers, List.all_cons, List.all_cons, hminimum, hmaximum,
    Bool.true_and, Bool.and_true]
  cases Decimal.isWritable fields.length with
  | true =>
      refine iff_of_false ?_ fun h => Bool.false_ne_true h.symm
      rintro ⟨limit, h⟩
      exact absurd (Except.error.inj h) (by simp)
  | false => exact iff_of_true (overflows_numeral _) rfl

/-- A token with the wrong number of fields is overlong if its fields cannot be counted,
    as long as no field of it is the reason. -/
theorem overflows_wrongCount_iff_overlong {kind : Kind} {minimum : Int} {maximum : Option Int}
    {fields : List String} (hkind : kind ≠ .delete) (hminimum : Decimal.isWritable minimum = true)
    (hmaximum : maximum.toList.all Decimal.isWritable = true)
    (hcount : Overlong kind fields → Decimal.isWritable fields.length = false) :
    Overflows (Reading.wrongCount kind minimum maximum fields).operation ↔
      Overlong kind fields := by
  rw [overflows_wrongCount_iff kind fields hminimum hmaximum]
  exact ⟨fun h => .count hkind h, hcount⟩

/-- A token of few fields is not one of too many to be counted. -/
theorem not_count {fields : List String} (h : fields.length < 10) :
    Decimal.isWritable fields.length ≠ false := by
  rw [Decimal.isWritable_of_lt_ten h]
  exact fun h => Bool.false_ne_true h.symm

theorem overflows_readRelabel_iff {fields : List String} :
    Overflows (readRelabel fields).operation ↔ Overlong .relabel fields := by
  unfold readRelabel
  split
  · rename_i disk table
    refine iff_of_false ?_ ?_
    · change ¬ Overflows (Fields.tableKind table >>= _)
      rw [overflows_bind_iff]
      rintro (h | ⟨_, _, h⟩)
      · exact Fields.not_overflows_tableKind table h
      · exact not_overflows_ok _ h
    · intro h
      cases h with
      | count _ hcount => exact not_count (by simp) hcount
  · refine overflows_wrongCount_iff_overlong (by decide) (by decide +kernel) (by decide +kernel)
      fun h => ?_
    cases h with
    | count _ hcount => exact hcount

theorem overflows_readDelete_iff {fields : List String} :
    Overflows (readDelete fields).operation ↔ Overlong .delete fields := by
  unfold readDelete
  split
  · rename_i disk numbers
    -- The numbers are read from the left, up to the first that has no value.
    change Overflows (numbers.mapM Fields.partitionNumber >>= _) ↔ _
    rw [overflows_bind_iff, or_iff_left (fun ⟨_, _, h⟩ => not_overflows_ok _ h),
      overflows_mapM_iff]
    constructor
    · rintro ⟨before, number, after, rfl, hbefore, hnumber⟩
      exact .deleted hbefore (Fields.overflows_partitionNumber_iff.mp hnumber)
    · intro h
      cases h with
      | count hkind _ => exact absurd rfl hkind
      | deleted hbefore hnumber =>
          exact ⟨_, _, _, rfl, hbefore, Fields.overflows_partitionNumber_iff.mpr hnumber⟩
  · rename_i hfields
    -- Any number of fields is right for a deletion, and a token has at least one.
    cases fields with
    | cons disk numbers => exact absurd rfl (hfields disk numbers)
    | nil =>
        refine iff_of_false ?_ ?_
        · rw [overflows_wrongCount_iff _ _ (by decide +kernel) (by decide +kernel)]
          exact not_count (by decide)
        · intro h
          cases h with
          | count hkind _ => exact absurd rfl hkind

theorem overflows_readMove_iff {fields : List String} :
    Overflows (readMove fields).operation ↔ Overlong .move fields := by
  unfold readMove
  split
  · rename_i disk number first last
    change Overflows (Fields.partitionNumber number >>= fun _ =>
      Fields.optionalPosition first >>= fun _ => Fields.optionalPosition last >>= _) ↔ _
    -- One case for each link of the chain, in which the links in front of it succeed.
    rw [overflows_bind_iff, Fields.overflows_partitionNumber_iff]
    constructor
    · rintro (h | ⟨n, hn, h⟩)
      · exact .moved h
      · rcases overflows_bind_iff.mp h with h | ⟨p, hp, h⟩
        · exact .movedFirst hn (Fields.overflows_optionalPosition_iff.mp h)
        · rcases overflows_bind_iff.mp h with h | ⟨_, _, h⟩
          · exact .movedLast hn hp (Fields.overflows_optionalPosition_iff.mp h)
          · exact absurd h (not_overflows_ok _)
    · intro h
      cases h with
      | count _ hcount => exact absurd hcount (not_count (by simp))
      | moved h => exact Or.inl h
      | movedFirst hn hfirst =>
          refine Or.inr ⟨_, hn, overflows_bind_iff.mpr (Or.inl ?_)⟩
          exact Fields.overflows_optionalPosition_iff.mpr hfirst
      | movedLast hn hp hlast =>
          refine Or.inr ⟨_, hn, overflows_bind_iff.mpr (Or.inr ⟨_, hp, ?_⟩)⟩
          exact overflows_bind_iff.mpr (Or.inl (Fields.overflows_optionalPosition_iff.mpr hlast))
  · rename_i hfields
    refine overflows_wrongCount_iff_overlong (by decide) (by decide +kernel) (by decide +kernel)
      fun h => ?_
    cases h with
    | count _ hcount => exact hcount
    | moved _ => exact absurd rfl (hfields _ _ _ _)
    | movedFirst _ _ => exact absurd rfl (hfields _ _ _ _)
    | movedLast _ _ _ => exact absurd rfl (hfields _ _ _ _)

theorem overflows_readReuse_iff {fields : List String} :
    Overflows (readReuse fields).operation ↔ Overlong .reuse fields := by
  unfold readReuse
  split
  · rename_i disk number content suffixes
    split
    · rename_i hlength
      refine overflows_wrongCount_iff_overlong (by decide) (by decide +kernel) (by decide +kernel)
        fun h => ?_
      cases h with
      | count _ hcount => exact hcount
      | reused hle _ _ _ => exact absurd hle (Nat.not_le.mpr hlength)
    · rename_i hlength
      split
      · rename_i f hf
        refine iff_of_false ?_ ?_
        · change ¬ Overflows (.error f)
          rw [overflows_error_iff hf]
          exact Fields.not_overflows_suffixes .any suffixes
        · intro h
          cases h with
          | count _ hcount => exact not_count (by simp only [List.length_cons]; omega) hcount
          | reused _ hfound _ _ =>
              exact absurd (hf.symm.trans hfound) (by simp only [reduceCtorEq, not_false_eq_true])
      · rename_i found hfound
        -- The number is read after the suffixes, although it stands in front of them.
        change Overflows (Fields.mountedSuffix found >>= fun _ =>
          Fields.partitionNumber number >>= fun _ => Fields.optionalContent content >>= _) ↔ _
        rw [overflows_bind_iff, or_iff_right (Fields.not_overflows_mountedSuffix found)]
        constructor
        · rintro ⟨suffix, hsuffix, h⟩
          rcases overflows_bind_iff.mp h with h | ⟨n, _, h⟩
          · exact .reused (Nat.le_of_not_lt hlength) hfound hsuffix
              (Fields.overflows_partitionNumber_iff.mp h)
          · rcases overflows_bind_iff.mp h with h | ⟨_, _, h⟩
            · exact absurd h (Fields.not_overflows_optionalContent content)
            · exact absurd h (not_overflows_ok _)
        · intro h
          cases h with
          | count _ hcount =>
              exact absurd hcount (not_count (by simp only [List.length_cons]; omega))
          | reused _ hfound' hsuffix hnumber =>
              obtain rfl := Except.ok.inj (hfound.symm.trans hfound')
              refine ⟨_, hsuffix, overflows_bind_iff.mpr (Or.inl ?_)⟩
              exact Fields.overflows_partitionNumber_iff.mpr hnumber
  · rename_i hfields
    refine overflows_wrongCount_iff_overlong (by decide) (by decide +kernel) (by decide +kernel)
      fun h => ?_
    cases h with
    | count _ hcount => exact hcount
    | reused _ _ _ _ => exact absurd rfl (hfields _ _ _ _)

theorem overflows_createHead_iff {role first last content : String} :
    Overflows (createHead role first last content) ↔
      ∃ r, Fields.role role = .ok r ∧ (Position.IsOverlong first ∨
        ∃ p, Position.ofToken first = .ok p ∧ Position.IsOverlong last) := by
  change Overflows (Fields.role role >>= fun _ => Position.ofToken first >>= fun _ =>
    Position.ofToken last >>= fun _ => Fields.content content >>= _) ↔ _
  rw [overflows_bind_iff, or_iff_right (Fields.not_overflows_role role)]
  constructor
  · rintro ⟨r, hrole, h⟩
    refine ⟨r, hrole, ?_⟩
    rcases overflows_bind_iff.mp h with h | ⟨p, hp, h⟩
    · exact Or.inl (Position.overflows_ofToken_iff.mp h)
    · rcases overflows_bind_iff.mp h with h | ⟨_, _, h⟩
      · exact Or.inr ⟨p, hp, Position.overflows_ofToken_iff.mp h⟩
      · rcases overflows_bind_iff.mp h with h | ⟨_, _, h⟩
        · exact absurd h (Fields.not_overflows_content content)
        · exact absurd h (not_overflows_ok _)
  · rintro ⟨r, hrole, h | ⟨p, hp, h⟩⟩
    · refine ⟨r, hrole, overflows_bind_iff.mpr (Or.inl ?_)⟩
      exact Position.overflows_ofToken_iff.mpr h
    · refine ⟨r, hrole, overflows_bind_iff.mpr (Or.inr ⟨p, hp, ?_⟩)⟩
      exact overflows_bind_iff.mpr (Or.inl (Position.overflows_ofToken_iff.mpr h))

theorem overflows_readCreate_iff {fields : List String} :
    Overflows (readCreate fields).operation ↔ Overlong .create fields := by
  unfold readCreate
  split
  · rename_i disk role first last content suffixes
    split
    · rename_i hlength
      refine overflows_wrongCount_iff_overlong (by decide) (by decide +kernel) (by decide +kernel)
        fun h => ?_
      cases h with
      | count _ hcount => exact hcount
      | createdFirst hle _ _ => exact absurd hle (Nat.not_le.mpr hlength)
      | createdLast hle _ _ _ => exact absurd hle (Nat.not_le.mpr hlength)
    · rename_i hlength
      -- What overflows is the head: a fault of the suffix is one of syntax.
      have hhead : Overlong .create (disk :: role :: first :: last :: content :: suffixes) ↔
          Overflows (createHead role first last content) := by
        rw [overflows_createHead_iff]
        constructor
        · intro h
          cases h with
          | count _ hcount =>
              exact absurd hcount (not_count (by simp only [List.length_cons]; omega))
          | createdFirst _ hrole hfirst => exact ⟨_, hrole, Or.inl hfirst⟩
          | createdLast _ hrole hfirst hlast => exact ⟨_, hrole, Or.inr ⟨_, hfirst, hlast⟩⟩
        · rintro ⟨r, hrole, h | ⟨p, hp, h⟩⟩
          · exact .createdFirst (Nat.le_of_not_lt hlength) hrole h
          · exact .createdLast (Nat.le_of_not_lt hlength) hrole hp h
      rw [hhead]
      split
      · rename_i f hf
        rw [hf]
        exact overflows_error_iff rfl
      · rename_i head hf
        rw [hf]
        refine iff_of_false ?_ (not_overflows_ok _)
        split
        · rename_i f hsuffixes
          change ¬ Overflows (.error f)
          rw [overflows_error_iff hsuffixes]
          exact Fields.not_overflows_suffixes .any suffixes
        · rename_i found _
          change ¬ Overflows (Fields.mountedSuffix found >>= _)
          rw [overflows_bind_iff]
          rintro (h | ⟨_, _, h⟩)
          · exact Fields.not_overflows_mountedSuffix found h
          · exact not_overflows_ok _ h
  · rename_i hfields
    refine overflows_wrongCount_iff_overlong (by decide) (by decide +kernel) (by decide +kernel)
      fun h => ?_
    cases h with
    | count _ hcount => exact hcount
    | createdFirst _ _ _ => exact absurd rfl (hfields _ _ _ _ _ _)
    | createdLast _ _ _ _ => exact absurd rfl (hfields _ _ _ _ _ _)

theorem overflows_readLogical_iff {fields : List String} :
    Overflows (readLogical fields).operation ↔ Overlong .logical fields := by
  unfold readLogical
  split
  · rename_i group name size filesystem suffixes
    split
    · rename_i hlength
      refine overflows_wrongCount_iff_overlong (by decide) (by decide +kernel) (by decide +kernel)
        fun h => ?_
      cases h with
      | count _ hcount => exact hcount
      | sized hle _ _ _ => exact absurd hle (Nat.not_le.mpr hlength)
    · rename_i hlength
      split
      · rename_i f hf
        refine iff_of_false ?_ ?_
        · change ¬ Overflows (.error f)
          rw [overflows_error_iff hf]
          exact Fields.not_overflows_suffixes .volume suffixes
        · intro h
          cases h with
          | count _ hcount => exact not_count (by simp only [List.length_cons]; omega) hcount
          | sized _ hfound _ _ =>
              exact absurd (hf.symm.trans hfound) (by simp only [reduceCtorEq, not_false_eq_true])
      · rename_i found hfound
        -- The size is read last, after the filesystem that follows it.
        change Overflows (Fields.volumeFilesystem filesystem >>= fun _ =>
          Position.ofToken size >>= _) ↔ _
        rw [overflows_bind_iff, or_iff_right (Fields.not_overflows_volumeFilesystem filesystem)]
        constructor
        · rintro ⟨fs, hfs, h⟩
          rcases overflows_bind_iff.mp h with h | ⟨_, _, h⟩
          · exact .sized (Nat.le_of_not_lt hlength) hfound hfs
              (Position.overflows_ofToken_iff.mp h)
          · exact absurd h (not_overflows_ok _)
        · intro h
          cases h with
          | count _ hcount =>
              exact absurd hcount (not_count (by simp only [List.length_cons]; omega))
          | sized _ _ hfs hsize =>
              refine ⟨_, hfs, overflows_bind_iff.mpr (Or.inl ?_)⟩
              exact Position.overflows_ofToken_iff.mpr hsize
  · rename_i hfields
    refine overflows_wrongCount_iff_overlong (by decide) (by decide +kernel) (by decide +kernel)
      fun h => ?_
    cases h with
    | count _ hcount => exact hcount
    | sized _ _ _ _ => exact absurd rfl (hfields _ _ _ _ _)

/-- The reading of a token overflows exactly if its first fault is a number that is
    too long. -/
theorem overflows_read_iff {kind : Kind} {token : String} :
    Overflows (read kind token).operation ↔ Overlong kind (Text.fields ':' token) := by
  unfold read
  cases kind with
  | relabel => exact overflows_readRelabel_iff
  | delete => exact overflows_readDelete_iff
  | move => exact overflows_readMove_iff
  | reuse => exact overflows_readReuse_iff
  | create => exact overflows_readCreate_iff
  | logical => exact overflows_readLogical_iff

/-! ### Tokens -/

/-- The token that a failure records makes no difference. -/
theorem overflows_parse_iff {kind : Kind} {token : String} :
    Overflows (parse kind token) ↔ Overlong kind (Text.fields ':' token) := by
  rw [← overflows_read_iff]
  unfold parse
  cases (read kind token).operation with
  | ok op => exact iff_of_false (not_overflows_ok op) (not_overflows_ok op)
  | error f =>
      cases f with
      -- A problem records the token, and stays a problem.
      | problem r =>
          refine iff_of_false ?_ ?_
          all_goals
            rintro ⟨limit, h⟩
            exact absurd (Except.error.inj h) (by
              simp only [Failure.within, reduceCtorEq, not_false_eq_true])
      | _ => exact overflows_error_iff rfl

/-- A token is read, or refused with a problem of syntax that records its kind and
    itself as a whole, exactly if its first fault is not a number that is too long. If
    it is, the work ends with the failure of the conversion. -/
theorem parse_cases_iff (kind : Kind) (token : String) :
    (((∃ op, parse kind token = .ok op ∧ op.Asked kind) ∨
        ∃ p, parse kind token = .error (.problem ⟨.badSyntax p, some ⟨kind.name, token⟩⟩)) ↔
      ¬ Overlong kind (Text.fields ':' token)) ∧
    ((∃ limit, parse kind token = .error (.numeral limit)) ↔
      Overlong kind (Text.fields ':' token)) := by
  refine ⟨?_, overflows_parse_iff⟩
  rw [← overflows_parse_iff]
  constructor
  · rintro (⟨op, hop, _⟩ | ⟨p, hp⟩) ⟨limit, h⟩
    · exact absurd (hop.symm.trans h) (by simp only [reduceCtorEq, not_false_eq_true])
    · exact absurd (Except.error.inj (hp.symm.trans h)) (by
        simp only [reduceCtorEq, not_false_eq_true])
  · intro hread
    unfold parse at hread ⊢
    cases hop : (read kind token).operation with
    | ok op => exact Or.inl ⟨op, rfl, asked_of_read hop⟩
    | error f =>
        -- Reading fails with a problem of syntax or with a number, and with nothing else.
        rw [hop] at hread
        rcases failsWith_read kind token f hop with ⟨p⟩ | ⟨limit⟩
        · exact Or.inr ⟨p, rfl⟩
        · exact absurd (overflows_numeral limit) hread

end Operation

theorem Decimal.isNumeral_replicate {n : Nat} {c : Char} (hn : n ≠ 0) (hc : c.isDigit = true) :
    isNumeral (List.replicate n c) = true := by
  unfold isNumeral
  rw [Bool.and_eq_true, Bool.not_eq_true', List.isEmpty_eq_false_iff, List.all_eq_true]
  refine ⟨fun h => hn (by simpa using congrArg List.length h), fun x hx => ?_⟩
  rw [List.eq_of_mem_replicate hx]
  exact hc

/-- A partition that is to be moved to a number of mebibytes, however many digits it
    has. -/
theorem Operation.overlong_move_mebibytes {count : String}
    (hnumeral : Decimal.isNumeral count.toList = true)
    (hlong : Decimal.digitLimit < count.toList.length) :
    Overlong .move (Text.fields ':' ("sda:1:" ++ count ++ "MiB:none")) := by
  -- The text is too long to be taken apart by computing, so it is put together instead.
  have hfields : Text.fields ':' ("sda:1:" ++ count ++ "MiB:none") =
      ["sda", "1", count ++ "MiB", "none"] := by
    refine Text.fields_of_intercalate ?_ ?_ (List.cons_ne_nil _ _)
    · simp [List.intercalate]
    · have hsep : ':' ∉ (count ++ "MiB").toList := by
        rw [String.toList_append, List.mem_append, not_or]
        refine ⟨fun h => ?_, by decide⟩
        unfold Decimal.isNumeral at hnumeral
        rw [Bool.and_eq_true, List.all_eq_true] at hnumeral
        exact absurd (hnumeral.2 ':' h) (by decide)
      intro f hf
      simp only [List.mem_cons, List.not_mem_nil, or_false] at hf
      rcases hf with rfl | rfl | rfl | rfl
      · decide
      · decide
      · exact hsep
      · decide
  rw [hfields]
  refine .movedFirst (n := 1) rfl ⟨[], count.toList, ?_, Or.inl rfl, hnumeral, Or.inl hlong⟩
  rw [List.nil_append, String.toList_append]

/-- A partition is to be moved to a number of mebibytes of 4301 digits. The token is
    neither read nor refused for its syntax. -/
theorem Operation.mebibytes_escape_ofMany :
    let token := "sda:1:" ++ String.ofList (List.replicate 4301 '1') ++ "MiB:none"
    (∃ limit, parse .move token = .error (.numeral limit)) ∧
      ¬ ((∃ op, parse .move token = .ok op) ∨
        ∃ p origin, parse .move token = .error (.problem ⟨.badSyntax p, origin⟩)) := by
  have hnumeral : Decimal.isNumeral (String.ofList (List.replicate 4301 '1')).toList = true := by
    rw [String.toList_ofList]
    exact Decimal.isNumeral_replicate (by decide) (by decide)
  have hlong : Decimal.digitLimit < (String.ofList (List.replicate 4301 '1')).toList.length := by
    rw [String.toList_ofList, List.length_replicate]
    decide
  rcases overflows_parse_iff.mpr (overlong_move_mebibytes hnumeral hlong) with ⟨limit, hlimit⟩
  refine ⟨⟨limit, hlimit⟩, ?_⟩
  rintro (⟨op, hop⟩ | ⟨p, origin, hp⟩)
  · exact absurd (hop.symm.trans hlimit) (by simp only [reduceCtorEq, not_false_eq_true])
  · exact absurd (Except.error.inj (hp.symm.trans hlimit)) (by
      simp only [reduceCtorEq, not_false_eq_true])

end DiskPlan
