import DiskPlan.Proofs.DiskNames
import DiskPlan.Proofs.JsonTokens
import DiskPlan.Proofs.PartitionPaths

/-!
# Listed Devices

What is read from a listed device whose fields are of the kinds that they should be.

A reader of a listing takes many values that no tool prints, and falls back on others. If
the texts of a device are texts, its numbers are numbers in any of their spellings, and its
children are objects, none of this is needed: every reader has an answer, and the answer is
told by the listing alone. Then a disk has one partition for each child that is listed as
one, in the order of the children, and the other children are passed over.

The one thing that can still go wrong is the number of a partition. It stands at the end of
a path, and a row of digits can be too long to be read, so there must be no such row. It
does not matter where the row would stand, since the part of a path that a reader adds in
front does not end in a digit.

## Main definitions

* `Json.string?`: The text of a value.
* `DeviceListing.Reads`: A number as a listing can spell it.
* `DeviceListing.IsTyped`, `DeviceListing.HasTree`: A device, and a device with children,
  with fields of the right kinds.
* `DeviceListing.EndsInDigits`: The row of digits that a path ends in.
* `DeviceListing.Lists`, `DeviceListing.ListsNone`: A child that is listed as a partition, and
  one that is not.
* `Selects`: A choice from a list, in its order.

## Theorems

* `Decimal.loose?_text`: The text of a number is read as the number.
* `DeviceListing.endsInDigits_iff`: The digits at the end of a path.
* `DeviceListing.partition?_of_isTyped`: What is read from a child.
* `DeviceListing.disk_of_hasTree`: What is read from a disk.
-/

namespace DiskPlan

/-! ### Numbers in the loose form -/

/-- A list without members of a class has none to remove at its ends, so stripping keeps it. -/
theorem Text.strip_of_forall {α : Type} {p : α → Bool} {xs : List α}
    (h : ∀ x ∈ xs, p x = false) : Text.strip p xs = xs := by
  have hdrop : ∀ ys : List α, (∀ y ∈ ys, p y = false) → ys.dropWhile p = ys := by
    intro ys hys
    cases ys with
    | nil => rfl
    | cons y rest =>
        rw [List.dropWhile_cons_of_neg]
        rw [hys y List.mem_cons_self]
        exact Bool.false_ne_true
  unfold strip
  rw [hdrop xs h, hdrop _ fun y hy => h y (List.mem_reverse.mp hy), List.reverse_reverse]

namespace Decimal

theorem not_isPadding_of_isDigit {c : Char} (h : c.isDigit = true) :
    Text.isPadding c = false := by
  have hbounds : 0x0030 ≤ c.toNat ∧ c.toNat ≤ 0x0030 + 9 := Text.bounds_of_isDigit h
  -- A blank is far from the digits, wherever it is among the blanks.
  have hblank : Text.isBlank c = false := by
    unfold Text.isBlank Text.blankRanges
    rw [List.any_eq_false]
    simp only [List.forall_mem_cons, Bool.and_eq_true, decide_eq_true_eq]
    exact ⟨by omega, by omega, by omega, by omega, by omega, by omega, by omega, by omega,
      by omega, by omega, fun _ hr => absurd hr List.not_mem_nil⟩
  unfold Text.isPadding
  rw [hblank, Bool.false_and]

/-- The text of a number within the limit is read as the number. The reader accepts much more:
    space around it, digits of other scripts, and underscores between them. -/
theorem loose?_text {n : Int} (h : isWritable n = true) : loose? (text n) = some n := by
  have hdigit : ∀ {k : Nat} {c : Char}, c ∈ k.repr.toList → c.isDigit = true :=
    fun hc => Json.isDigit_of_mem_repr hc
  -- Digits of any sign are read alike, since none of them groups the others.
  have hbody : ∀ k : Nat, k.repr.toList.length ≤ digitLimit →
      (k.repr.toList.splitOn '_').all (fun g => !g.isEmpty && g.all Text.isDecimalDigit) = true ∧
        (k.repr.toList.splitOn '_').flatten = k.repr.toList := by
    intro k hk
    have hsplit : k.repr.toList.splitOn '_' = [k.repr.toList] :=
      List.splitOn_eq_singleton fun hmem => absurd (hdigit hmem) (by decide)
    rw [hsplit, List.flatten_singleton]
    refine ⟨?_, rfl⟩
    rw [List.all_cons, List.all_nil, Bool.and_true, Bool.and_eq_true, List.all_eq_true,
      List.isEmpty_eq_false_iff.mpr (toList_repr_ne_nil k)]
    exact ⟨rfl, fun c hc => isDecimalDigit_of_mem_repr hc⟩
  have hlength := (Json.length_repr_le_iff n).mpr h
  -- A number below zero has its sign in front, and the sign is read before the digits.
  cases n with
  | ofNat k =>
      have hstrip : Text.strip Text.isPadding (text (Int.ofNat k)).toList = k.repr.toList :=
        Text.strip_of_forall fun c hc => not_isPadding_of_isDigit (hdigit hc)
      have hshort : k.repr.toList.length ≤ digitLimit := hlength
      rcases hbody k hshort with ⟨hall, hflat⟩
      unfold loose?
      rw [hstrip]
      dsimp only
      -- A digit is no sign.
      split
      · rename_i hsign
        exact absurd (hdigit (hsign ▸ List.mem_cons_self)) (by decide)
      · rename_i hsign
        exact absurd (hdigit (hsign ▸ List.mem_cons_self)) (by decide)
      · rw [hall, hflat, decide_eq_true hshort, if_pos (Bool.and_self true), ofDecimalDigits_repr]
        rfl
  | negSucc k =>
      have hstrip : Text.strip Text.isPadding (text (Int.negSucc k)).toList =
          '-' :: (k + 1).repr.toList := by
        rw [text, String.toList_append]
        refine Text.strip_of_forall fun c hc => ?_
        rcases List.mem_cons.mp hc with rfl | hc
        · decide
        · exact not_isPadding_of_isDigit (hdigit hc)
      have hshort : (k + 1).repr.toList.length ≤ digitLimit := hlength
      rcases hbody (k + 1) hshort with ⟨hall, hflat⟩
      unfold loose?
      simp only [hstrip, hall, hflat, decide_eq_true hshort, Bool.and_self, if_true,
        ofDecimalDigits_repr]
      rfl

end Decimal

/-! ### Choices from a list -/

/-- A choice from a list, in its order: of each element either one thing is kept, or the element
    is passed over. So nothing is kept twice, and nothing comes from elsewhere. -/
inductive Selects {α β : Type} (keeps : α → β → Prop) (passes : α → Prop) :
    List α → List β → Prop
  | nil : Selects keeps passes [] []
  | keep {a : α} {b : β} {as : List α} {bs : List β} (hkeep : keeps a b)
      (hrest : Selects keeps passes as bs) : Selects keeps passes (a :: as) (b :: bs)
  | pass {a : α} {as : List α} {bs : List β} (hpass : passes a)
      (hrest : Selects keeps passes as bs) : Selects keeps passes (a :: as) bs

namespace Selects

variable {α β ε : Type} {keeps : α → β → Prop} {passes : α → Prop} {as : List α} {bs : List β}

theorem mono {keeps' : α → β → Prop} (h : Selects keeps passes as bs)
    (hkeeps : ∀ a b, keeps a b → keeps' a b) : Selects keeps' passes as bs := by
  induction h with
  | nil => exact .nil
  | keep hkeep _ ih => exact .keep (hkeeps _ _ hkeep) ih
  | pass hpass _ ih => exact .pass hpass ih

/-- What is kept is kept of an element, which is one of the list. -/
theorem exists_mem (h : Selects keeps passes as bs) : ∀ b ∈ bs, ∃ a ∈ as, keeps a b := by
  induction h with
  | nil => exact fun _ hb => absurd hb List.not_mem_nil
  | keep hkeep _ ih =>
      rw [List.forall_mem_cons]
      refine ⟨⟨_, List.mem_cons_self, hkeep⟩, fun b hb => ?_⟩
      rcases ih b hb with ⟨a, ha, hab⟩
      exact ⟨a, List.mem_cons_of_mem _ ha, hab⟩
  | pass _ _ ih =>
      intro b hb
      rcases ih b hb with ⟨a, ha, hab⟩
      exact ⟨a, List.mem_cons_of_mem _ ha, hab⟩

/-- Of each element something is kept, or it is passed over. -/
theorem keeps_or_passes (h : Selects keeps passes as bs) :
    ∀ a ∈ as, (∃ b, keeps a b) ∨ passes a := by
  induction h with
  | nil => exact fun _ ha => absurd ha List.not_mem_nil
  | keep hkeep _ ih => exact List.forall_mem_cons.mpr ⟨Or.inl ⟨_, hkeep⟩, ih⟩
  | pass hpass _ ih => exact List.forall_mem_cons.mpr ⟨Or.inr hpass, ih⟩

/-- Two choices from a list go together, place by place, if neither of them passes over what the
    other one keeps. Nothing has to be known of what they keep. -/
theorem forall₂ {γ : Type} {keeps' : α → γ → Prop} {passes' : α → Prop} {cs : List γ}
    (h : Selects keeps passes as bs) (h' : Selects keeps' passes' as cs)
    (hkeeps : ∀ a b, keeps a b → ¬ passes' a) (hkeeps' : ∀ a c, keeps' a c → ¬ passes a) :
    List.Forall₂ (fun b c => ∃ a, keeps a b ∧ keeps' a c) bs cs := by
  -- Along the first choice: the second one has to do the same at each element.
  induction h generalizing cs with
  | nil =>
      cases h'
      exact .nil
  | keep hkeep _ ih =>
      cases h' with
      | keep hkeep' hrest' => exact .cons ⟨_, hkeep, hkeep'⟩ (ih hrest')
      | pass hpass' _ => exact absurd hpass' (hkeeps _ _ hkeep)
  | pass hpass _ ih =>
      cases h' with
      | keep hkeep' _ => exact absurd hpass (hkeeps' _ _ hkeep')
      | pass _ hrest' => exact ih hrest'

/-- Answers that are kept or are none make up a choice, and no answer is a failure. -/
theorem of_mapM {f : α → Except ε (Option β)}
    (h : ∀ a ∈ as, (∃ b, f a = .ok (some b) ∧ keeps a b) ∨ (f a = .ok none ∧ passes a)) :
    ∃ found, as.mapM f = .ok found ∧ Selects keeps passes as (found.filterMap id) := by
  induction as with
  | nil => exact ⟨[], mapM_eq_ok_iff.mpr .nil, .nil⟩
  | cons a rest ih =>
      rw [List.forall_mem_cons] at h
      rcases ih h.2 with ⟨found, hfound, hselects⟩
      rcases h.1 with ⟨b, hb, hkeep⟩ | ⟨hnone, hpass⟩
      · exact ⟨some b :: found, mapM_eq_ok_iff.mpr (.cons hb (mapM_eq_ok_iff.mp hfound)),
          .keep hkeep hselects⟩
      · exact ⟨none :: found, mapM_eq_ok_iff.mpr (.cons hnone (mapM_eq_ok_iff.mp hfound)),
          .pass hpass hselects⟩

end Selects

/-! ### Devices -/

/-- The text of a value. -/
def Json.string? : Json → Option String
  | .text s => some s
  | .label l => some l.repaired
  | _ => none

/-- A text of which no row of decimal digits is longer than a bound. Decimal digits of every
    script count, since paths may have any of them. -/
def Text.HasDecimalRowsWithin (bound : Nat) (s : String) : Prop :=
  ∀ digits, digits <:+: s.toList → (∀ c ∈ digits, Text.isDecimalDigit c = true) →
    digits.length ≤ bound

namespace DeviceListing

/-- The fields of a device that are texts. -/
def textNames : List String := ["path", "name", "type", "pttype", "fstype", "model"]

/-- The fields of a device that are numbers. -/
def numberNames : List String := ["size", "start", "log-sec"]

/-- A number in a field, as a listing can spell it: a number, the text of one, or nothing at all
    for the number that is taken then. -/
inductive Reads (absent : Int) : Option Json → Int → Prop
  | missing : Reads absent none absent
  | null : Reads absent (some .null) absent
  | int (n : Int) : Reads absent (some (.int n)) n
  | text {s : String} {n : Int} (h : Decimal.loose? s = some n) : Reads absent (some (.text s)) n

/-- Whether a value is a number, the text of one, or nothing at all. -/
def spellsNumber : Json → Bool
  | .null | .int _ => true
  | .text s => (Decimal.loose? s).isSome
  | _ => false

/-- A device whose texts are texts, and without rows of digits that are too long. Nothing is
    asked of fields that are not there. -/
def IsTyped (fields : Json.Fields) : Prop :=
  ∀ name ∈ textNames, ∀ v, Json.get? name fields = some v →
    ∃ s, v.string? = some s ∧ Text.HasDecimalRowsWithin Decimal.digitLimit s

/-- A device with children, all of them of the right kinds. What the children have of children
    themselves is not looked at. -/
structure HasTree (fields : Json.Fields) (children : List Json.Fields) : Prop where
  own : IsTyped fields
  listed : Json.get? "children" fields = some (.list (children.map .object)) ∨
    (Json.get? "children" fields = none ∧ children = [])
  each : ∀ child ∈ children, IsTyped child

/-- The row of decimal digits that a path ends in, all of it. A line break may follow, as it is
    no part of what is looked at for the end. -/
def EndsInDigits (path : String) (digits : List Char) : Prop :=
  ∃ front back, path.toList = front ++ digits ++ back ∧ (back = [] ∨ back = ['\n']) ∧
    digits ≠ [] ∧ (∀ c ∈ digits, Text.isDecimalDigit c = true) ∧
      ∀ c, front.getLast? = some c → Text.isDecimalDigit c = false

/-- A child that is listed as a partition, or as nothing in particular, with a path that ends in
    a number. Without the number it would be no partition that can be told from others. -/
structure Lists (child : Json.Fields) (path : String) (digits : List Char) : Prop where
  kind : Json.get? "type" child = none ∨
    ∃ word ∈ ["part", "partition", ""], Json.get? "type" child = some (.text word)
  read : DeviceListing.path child = .ok path
  row : EndsInDigits path digits

/-- A child that is not listed as a partition. -/
def ListsNone (child : Json.Fields) : Prop :=
  ∀ path digits, ¬ Lists child path digits

/-- A partition that is what a child of a disk lists, with its start and its size. -/
structure IsListedBy (sectorSize : Int) (child : Json.Fields) (p : Partition) : Prop where
  number : ∃ digits, Lists child p.path digits ∧ p.number = Decimal.ofDecimalDigits digits
  first : Reads 0 (Json.get? "start" child) p.first
  last : ∃ size, Reads 0 (Json.get? "size" child) size ∧
    p.last = p.first + max (size.fdiv sectorSize) 1 - 1

variable {fields child : Json.Fields} {children : List Json.Fields} {name path : String}
  {digits : List Char}

theorem numberIn_of_reads {absent n : Int} (h : Reads absent (Json.get? name fields) n) :
    numberIn absent name fields = .ok n := by
  unfold numberIn
  -- The field is there with some value, or it is not.
  cases hget : Json.get? name fields with
  | none =>
      rw [hget] at h
      cases h
      rfl
  | some v =>
      rw [hget] at h
      cases h with
      | null => rfl
      | int => rfl
      | text hs =>
          rw [Option.getD_some, number, hs]
          rfl

/-- What spells a number is read as one, whatever number is taken in its absence. -/
theorem exists_reads {v : Option Json} (h : ∀ w ∈ v, spellsNumber w = true) (absent : Int) :
    ∃ n, Reads absent v n := by
  cases v with
  | none => exact ⟨_, .missing⟩
  | some w =>
      have hw := h w rfl
      cases w with
      | null => exact ⟨_, .null⟩
      | int n => exact ⟨n, .int n⟩
      | text s =>
          rcases Option.isSome_iff_exists.mp hw with ⟨n, hn⟩
          exact ⟨n, .text hn⟩
      | _ => exact absurd hw Bool.false_ne_true

/-! ### The end of a path -/

/-- The digits at the end of a path are the row that it ends in, if it ends in one. They are
    looked for from the end, so the row is the longest one. -/
theorem endsInDigits_iff :
    EndsInDigits path digits ↔ digits ≠ [] ∧ trailingDigits path = digits := by
  constructor
  · rintro ⟨front, back, hsplit, hback, hne, hdigits, hfront⟩
    have hbreak : withoutLineBreak path.toList = front ++ digits := by
      unfold withoutLineBreak
      rcases hback with rfl | rfl
      · -- The last character is a digit, which a line break is not.
        rw [hsplit, List.append_nil, if_neg]
        rw [List.getLast?_append_of_ne_nil _ hne]
        exact fun hlast => absurd (hdigits _ (List.mem_of_getLast? hlast)) (by decide)
      · rw [hsplit, if_pos List.getLast?_concat, List.dropLast_concat]
    unfold trailingDigits
    rw [hbreak]
    exact ⟨hne, reverse_takeWhile_reverse hdigits hfront⟩
  · rintro ⟨hne, rfl⟩
    have hbreak : ∃ back, path.toList = withoutLineBreak path.toList ++ back ∧
        (back = [] ∨ back = ['\n']) := by
      unfold withoutLineBreak
      split
      · rename_i hlast
        exact ⟨_, (List.dropLast_append_getLast? _ hlast).symm, Or.inr rfl⟩
      · exact ⟨[], (List.append_nil _).symm, Or.inl rfl⟩
    rcases hbreak with ⟨back, hsplit, hback⟩
    -- Whatever is in front of the row ends in something else.
    have hrow : withoutLineBreak path.toList =
        ((withoutLineBreak path.toList).reverse.dropWhile Text.isDecimalDigit).reverse ++
          trailingDigits path := by
      unfold trailingDigits
      rw [← List.reverse_append, List.takeWhile_append_dropWhile, List.reverse_reverse]
    refine ⟨_, back, hsplit.trans (congrArg (· ++ back) hrow), hback, hne, fun c hc => ?_,
      fun c hc => ?_⟩
    · exact List.mem_takeWhile_imp (List.mem_reverse.mp hc)
    · rw [List.getLast?_reverse] at hc
      have hstop := List.head?_dropWhile_not Text.isDecimalDigit
        (withoutLineBreak path.toList).reverse
      rw [hc] at hstop
      exact hstop

/-- A row of digits at the end of a path stands in the name that the path is made of, since what
    is put in front of a name has no digits. -/
theorem EndsInDigits.infix {name : String} (h : EndsInDigits (devicePath name) digits) :
    digits <:+: name.toList := by
  rcases h with ⟨front, back, hsplit, hback, _, hdigits, _⟩
  rcases devicePath_cases name with ⟨_, _, hsame⟩ | hlonger
  · rw [hsame] at hsplit
    exact ⟨front, back, hsplit.symm⟩
  · rw [hlonger, String.toList_append, List.append_assoc] at hsplit
    rcases List.append_eq_append_iff.mp hsplit with ⟨own, _, hname⟩ | ⟨own, hprefix, hrow⟩
    · exact ⟨own, back, by rw [hname, List.append_assoc]⟩
    · -- The slash that the path was given is neither a digit nor a line break.
      rcases List.eq_nil_or_concat' own with rfl | ⟨init, c, rfl⟩
      · exact ⟨[], back, hrow⟩
      · have hc : c = '/' := by
          have hlast := congrArg List.getLast? hprefix
          rw [← List.append_assoc, List.getLast?_concat] at hlast
          exact (Option.some.inj hlast).symm
        have hmem : '/' ∈ digits ++ back := by
          rw [hrow, ← hc]
          exact List.mem_append_left _ (List.mem_append_right _ List.mem_cons_self)
        rcases List.mem_append.mp hmem with hmem | hmem
        · exact absurd (hdigits _ hmem) (by decide)
        · rcases hback with rfl | rfl
          · exact absurd hmem List.not_mem_nil
          · exact absurd (List.mem_singleton.mp hmem) (by decide)

theorem trailingNumber?_of_endsInDigits (h : EndsInDigits path digits)
    (hlength : digits.length ≤ Decimal.digitLimit) :
    trailingNumber? path = some (.ok (Decimal.ofDecimalDigits digits)) := by
  rcases endsInDigits_iff.mp h with ⟨hne, hrow⟩
  unfold trailingNumber?
  dsimp only
  rw [hrow, List.isEmpty_eq_false_iff.mpr hne, if_neg Bool.false_ne_true, if_pos hlength]

theorem trailingNumber?_eq_none (h : ∀ digits, ¬ EndsInDigits path digits) :
    trailingNumber? path = none := by
  have hnil : trailingDigits path = [] := by
    by_contra hne
    exact h _ (endsInDigits_iff.mpr ⟨hne, rfl⟩)
  unfold trailingNumber?
  dsimp only
  rw [hnil]
  rfl

/-! ### What is read from a device -/

/-- Texts that are shorter than any row of digits that is too long are enough, and this can be
    checked by computing. -/
theorem isTyped_of_lengths (h : ∀ name ∈ textNames, ∀ v ∈ Json.get? name fields,
    ∃ s ∈ v.string?, s.toList.length ≤ Decimal.digitLimit) : IsTyped fields := by
  intro name hname v hv
  rcases h name hname v hv with ⟨s, hs, hlength⟩
  exact ⟨s, hs, fun _ hpiece _ => hpiece.length_le.trans hlength⟩

theorem IsTyped.exists_path (h : IsTyped fields) :
    ∃ name, DeviceListing.path fields = .ok (devicePath name) ∧
      Text.HasDecimalRowsWithin Decimal.digitLimit name := by
  -- The path is taken from one of two fields, both of which are texts.
  have hown : ∀ v, (Json.get? "path" fields).or (Json.get? "name" fields) = some v →
      ∃ s, v.string? = some s ∧ Text.HasDecimalRowsWithin Decimal.digitLimit s := by
    intro v hv
    rcases Option.or_eq_some_iff.mp hv with hpath | ⟨_, hname⟩
    · exact h "path" (by decide) v hpath
    · exact h "name" (by decide) v hname
  unfold DeviceListing.path
  split
  · exact ⟨"", rfl, fun _ hpiece _ => hpiece.length_le.trans (Nat.zero_le _)⟩
  · rename_i s hs
    rcases hown _ hs with ⟨_, hstring, hrows⟩
    obtain rfl := Option.some.inj hstring
    exact ⟨s, rfl, hrows⟩
  · rename_i l hl
    rcases hown _ hl with ⟨_, hstring, hrows⟩
    obtain rfl := Option.some.inj hstring
    exact ⟨l.repaired, rfl, hrows⟩
  · rename_i v htext hlabel hv
    rcases hown _ hv with ⟨_, hstring, _⟩
    cases v with
    | text s => exact absurd rfl (htext s)
    | label l => exact absurd rfl (hlabel l)
    | _ => exact absurd hstring (by simp only [Json.string?, reduceCtorEq, not_false_eq_true])

theorem IsTyped.exists_labelIn? (h : IsTyped fields) (hname : name ∈ textNames)
    (method : String) : ∃ l, DeviceListing.labelIn? method name fields = .ok l := by
  unfold DeviceListing.labelIn?
  cases hget : Json.get? name fields with
  | none => exact ⟨none, rfl⟩
  | some v =>
      rcases h name hname v hget with ⟨s, hstring, _⟩
      dsimp only
      split
      · exact ⟨none, rfl⟩
      · cases v with
        | text s => exact ⟨_, rfl⟩
        | label l => exact ⟨_, rfl⟩
        | _ => exact absurd hstring (by simp only [Json.string?, reduceCtorEq, not_false_eq_true])

theorem IsTyped.exists_tableKind (h : IsTyped fields) :
    ∃ kind, DeviceListing.tableKind ((Json.get? "pttype" fields).getD .null) = .ok kind := by
  cases hget : Json.get? "pttype" fields with
  | none => exact ⟨none, rfl⟩
  | some v =>
      rcases h "pttype" (by decide) v hget with ⟨s, hstring, _⟩
      unfold DeviceListing.tableKind
      rw [Option.getD_some]
      split
      · exact ⟨none, rfl⟩
      · cases v with
        | text s => exact ⟨_, rfl⟩
        | label l => exact ⟨_, rfl⟩
        | _ => exact absurd hstring (by simp only [Json.string?, reduceCtorEq, not_false_eq_true])

theorem isPartition_iff : isPartition fields = true ↔ Json.get? "type" fields = none ∨
    ∃ word ∈ ["part", "partition", ""], Json.get? "type" fields = some (.text word) := by
  unfold isPartition
  split
  · rename_i hnone
    exact iff_of_true rfl (Or.inl hnone)
  · rename_i word hword
    rw [hword, List.contains_iff_mem]
    simp only [reduceCtorEq, Option.some.injEq, Json.text.injEq, false_or, exists_eq_right']
  · rename_i v hother hv
    refine iff_of_false Bool.false_ne_true ?_
    rintro (hnone | ⟨word, _, hword⟩)
    · exact absurd (hnone.symm.trans hv) (by simp only [reduceCtorEq, not_false_eq_true])
    · exact hother word (Option.some.inj (hv.symm.trans hword))

/-- A child is read as the partition that it lists, or as none if it lists none. Then its numbers
    are not looked at, so nothing is asked of them. -/
theorem partition?_of_isTyped {sectorSize : Int} (h : IsTyped child) (hsectorSize : sectorSize ≠ 0)
    (hextent : (∃ path digits, Lists child path digits) →
      (∃ start, Reads 0 (Json.get? "start" child) start) ∧
        ∃ size, Reads 0 (Json.get? "size" child) size) :
    (∃ p, partition? (.object child) sectorSize = .ok (some p) ∧
      IsListedBy sectorSize child p) ∨
    (partition? (.object child) sectorSize = .ok none ∧ ListsNone child) := by
  rcases h.exists_path with ⟨name, hpath, hrows⟩
  -- It is not listed as a partition, it has no number, or it is one.
  by_cases hkind : isPartition child = true
  · by_cases hrow : ∃ digits, EndsInDigits (devicePath name) digits
    · rcases hrow with ⟨digits, hrow⟩
      have hlists : Lists child (devicePath name) digits :=
        ⟨isPartition_iff.mp hkind, hpath, hrow⟩
      rcases hextent ⟨_, _, hlists⟩ with ⟨⟨start, hstart⟩, size, hsize⟩
      rcases h.exists_labelIn? (by decide : "fstype" ∈ textNames) "lower" with ⟨word, hword⟩
      have hdigits : ∀ c ∈ digits, Text.isDecimalDigit c = true := by
        rcases hrow with ⟨_, _, _, _, _, hdigits, _⟩
        exact hdigits
      have hnumber := trailingNumber?_of_endsInDigits hrow (hrows digits hrow.infix hdigits)
      have hsectors : inSectors size sectorSize = .ok (size.fdiv sectorSize) :=
        if_neg hsectorSize
      have hp := partition?_of_answers hpath hkind hnumber (numberIn_of_reads hstart)
        (numberIn_of_reads hsize) hsectors hword
      exact Or.inl ⟨_, hp, ⟨digits, hlists, rfl⟩, hstart, size, hsize, rfl⟩
    · refine Or.inr ⟨?_, fun path digits hlists => ?_⟩
      · unfold partition?
        refine bind_eq_ok_iff.mpr ⟨child, rfl, bind_eq_ok_iff.mpr ⟨_, hpath, ?_⟩⟩
        rw [hkind, trailingNumber?_eq_none fun digits hdigits => hrow ⟨digits, hdigits⟩,
          Bool.not_true, if_neg Bool.false_ne_true]
        rfl
      · obtain rfl := Except.ok.inj (hpath.symm.trans hlists.read)
        exact hrow ⟨digits, hlists.row⟩
  · refine Or.inr ⟨?_, fun path digits hlists => hkind (isPartition_iff.mpr hlists.kind)⟩
    unfold partition?
    refine bind_eq_ok_iff.mpr ⟨child, rfl, bind_eq_ok_iff.mpr ⟨_, hpath, ?_⟩⟩
    rw [Bool.eq_false_iff.mpr hkind, Bool.not_false, if_pos rfl]
    rfl

/-- A disk is read with its sector size and with the partitions that its children list, in their
    order. Children that list none leave no gap and no failure. -/
theorem disk_of_hasTree {unit bytes : Int} (h : HasTree fields children)
    (hunit : Reads 512 (Json.get? "log-sec" fields) unit)
    (hbytes : Reads 0 (Json.get? "size" fields) bytes)
    (hextents : ∀ child ∈ children, (∃ path digits, Lists child path digits) →
      (∃ start, Reads 0 (Json.get? "start" child) start) ∧
        ∃ size, Reads 0 (Json.get? "size" child) size) :
    ∃ d, disk (.object fields) = .ok d ∧ d.sectorSize = (if unit = 0 then 512 else unit) ∧
      d.sectors = bytes.fdiv d.sectorSize ∧
      Selects (IsListedBy d.sectorSize) ListsNone children d.partitions := by
  rcases h.own.exists_path with ⟨name, hpath, _⟩
  rcases h.own.exists_labelIn? (by decide : "model" ∈ textNames) "strip" with ⟨model, hmodel⟩
  rcases h.own.exists_tableKind with ⟨kind, hkind⟩
  have hsectorSize : sectorSize fields = .ok (if unit = 0 then 512 else unit) :=
    bind_eq_ok_iff.mpr ⟨unit, numberIn_of_reads hunit, rfl⟩
  -- A sector size of zero gives way to the usual one, so it can be divided by.
  generalize hsame : (if unit = 0 then 512 else unit) = size at hsectorSize
  have hne : size ≠ 0 := by
    rw [← hsame]
    split
    · decide
    · assumption
  have hlisted : elements ((Json.get? "children" fields).getD (.list [])) =
      .ok (children.map .object) := by
    rcases h.listed with hget | ⟨hget, rfl⟩
    · rw [hget]
      rfl
    · rw [hget]
      rfl
  -- With a sector size that can be divided by, each child is read or passed over.
  rcases Selects.of_mapM (f := fun child => partition? (.object child) size)
    (fun child hchild => partition?_of_isTyped (h.each child hchild) hne (hextents child hchild))
    with ⟨found, hfound, hselects⟩
  have hpartitions : partitions fields size = .ok (found.filterMap id) := by
    refine bind_eq_ok_iff.mpr ⟨_, hlisted, bind_eq_ok_iff.mpr ⟨found, ?_, rfl⟩⟩
    rw [List.mapM_map]
    exact hfound
  exact ⟨_, disk_of_answers hpath hsectorSize (numberIn_of_reads hbytes) (if_neg hne) hmodel hkind
    hpartitions, rfl, rfl, hselects⟩

end DeviceListing

end DiskPlan
