import DiskPlan.Content
import DiskPlan.Proofs.Outcome
import Mathlib.Data.List.Induction
import Mathlib.Data.List.TakeWhile

/-!
# What Contents Spell

The grammar of the field that says what a partition is to hold.

Such a field is read from the front: what it begins with decides which of three forms it
has, and the rest is cut at commas. `Content.Spelled` says what the forms are, with one
case for each of them. No field has two forms, since no name of a filesystem begins like
one of the others.

Behind `enc=` stand credentials, any number of them and in any order. They are read one
after the other, each in the place of the one before it. What is left is again said by the
place where a credential stands: it counts if none of its sort follows.

## Main definitions

* `Credentials.IsLast`: The credential of a sort that counts.
* `Credentials.Spelled`: The credentials that fields spell.
* `Content.Spelled`: The contents that a field spells.

## Theorems

* `Text.cut_eq_some_iff`, `Text.cut_eq_none_iff`: Where a text is cut.
* `Text.fields_of_intercalate`: The fields of a text that is put together from them.
* `Credentials.parse_eq_ok_iff`: Fields are read as the credentials that they spell.
* `Content.parse_eq_ok_iff`: A field is read as the contents that it spells.
-/

namespace DiskPlan

/-! ### Cuts -/

namespace Text

variable {sep : Char} {s head rest : String}

/-- Two texts that begin with different characters are different. This is how the forms of a
    field are told apart, since each of them begins with a word of its own. -/
theorem append_ne_append {head' : String} (hne : head.toList ≠ []) (hne' : head'.toList ≠ [])
    (hhead : head.toList.head? ≠ head'.toList.head?) (rest rest' : String) :
    head ++ rest ≠ head' ++ rest' := by
  intro h
  have hfirst := congrArg (fun s : String => s.toList.head?) h
  rw [String.toList_append, String.toList_append, List.head?_append_of_ne_nil _ hne,
    List.head?_append_of_ne_nil _ hne'] at hfirst
  exact hhead hfirst

theorem after?_eq_none_iff : after? head s = none ↔ ∀ rest, s ≠ head ++ rest := by
  rw [Option.eq_none_iff_forall_ne_some]
  simp only [ne_eq, after?_eq_some_iff]

theorem after?_append_eq_none {head' : String} (hne : head.toList ≠ []) (hne' : head'.toList ≠ [])
    (hhead : head.toList.head? ≠ head'.toList.head?) (rest : String) :
    after? head (head' ++ rest) = none :=
  after?_eq_none_iff.mpr fun rest' h => append_ne_append hne hne' hhead rest' rest h.symm

/-- What is left from a separator on begins with it. -/
theorem eq_of_dropWhile_eq_cons {c : Char} {cs left : List Char}
    (h : cs.dropWhile (· != sep) = c :: left) : c = sep := by
  have hne : cs.dropWhile (· != sep) ≠ [] := by
    rw [h]
    exact List.cons_ne_nil c left
  have hstop := List.head_dropWhile_not (· != sep) hne
  simp only [h, List.head_cons, bne_eq_false_iff_eq] at hstop
  exact hstop

/-- A text is cut where the separator stands for the first time. What is before the cut has no
    separator in it, and what is behind it may have more. -/
theorem cut_eq_some_iff :
    cut sep s = (head, some rest) ↔
      s.toList = head.toList ++ sep :: rest.toList ∧ sep ∉ head.toList := by
  unfold cut
  constructor
  · intro h
    obtain ⟨hhead, hrest⟩ := Prod.mk.inj h
    have htake : head.toList = s.toList.takeWhile (· != sep) := by
      rw [← hhead, String.toList_ofList]
    split at hrest
    · exact absurd hrest (by simp)
    · rename_i c cs hdrop
      have hcs : rest.toList = cs := by
        rw [← Option.some.inj hrest, String.toList_ofList]
      obtain rfl : c = sep := eq_of_dropWhile_eq_cons hdrop
      -- Head and rest are put together again, and the head stops short of the first separator.
      refine ⟨?_, fun hmem => ?_⟩
      · rw [htake, hcs, ← hdrop, List.takeWhile_append_dropWhile]
      · rw [htake] at hmem
        exact absurd (List.all_eq_true.mp List.all_takeWhile _ hmem) (by simp)
  · rintro ⟨hs, hmem⟩
    have hhead : ∀ c ∈ head.toList, (c != sep) = true := by
      intro c hc
      exact bne_iff_ne.mpr fun heq => hmem (heq ▸ hc)
    rw [hs, List.takeWhile_append_of_pos hhead, List.dropWhile_append_of_pos hhead,
      List.takeWhile_cons_of_neg (by simp), List.dropWhile_cons_of_neg (by simp),
      List.append_nil, String.ofList_toList]
    simp

/-- A text without the separator is not cut. -/
theorem cut_eq_none_iff : cut sep s = (head, none) ↔ s = head ∧ sep ∉ s.toList := by
  unfold cut
  constructor
  · intro h
    obtain ⟨hhead, hrest⟩ := Prod.mk.inj h
    split at hrest
    · rename_i hdrop
      have htake : s.toList.takeWhile (· != sep) = s.toList := by
        rw [← List.append_nil (s.toList.takeWhile _), ← hdrop, List.takeWhile_append_dropWhile]
      rw [htake, String.ofList_toList] at hhead
      refine ⟨hhead, fun hmem => ?_⟩
      exact absurd (List.dropWhile_eq_nil_iff.mp hdrop _ hmem) (by simp)
    · exact absurd hrest (by simp)
  · rintro ⟨rfl, hmem⟩
    have hall : ∀ c ∈ s.toList, (c != sep) = true := by
      intro c hc
      exact bne_iff_ne.mpr fun heq => hmem (heq ▸ hc)
    rw [List.takeWhile_eq_self_iff.mpr hall, List.dropWhile_eq_nil_iff.mpr hall,
      String.ofList_toList]

/-- The fields of a text that is put together from them. There has to be one at least, since a
    text always has a field, and none of them may have the separator in it. -/
theorem fields_of_intercalate {fs : List String}
    (hs : s.toList = [sep].intercalate (fs.map String.toList))
    (hfs : ∀ f ∈ fs, sep ∉ f.toList) (hne : fs ≠ []) : fields sep s = fs := by
  have hsplit : s.toList.splitOn sep = fs.map String.toList := by
    rw [hs]
    refine List.splitOn_intercalate sep ?_ fun h => hne (List.map_eq_nil_iff.mp h)
    intro l hl
    rcases List.mem_map.mp hl with ⟨f, hf, rfl⟩
    exact hfs f hf
  unfold fields
  rw [hsplit, List.map_map]
  exact (List.map_congr_left fun f _ => String.ofList_toList).trans (List.map_id fs)

end Text

/-! ### Credentials -/

namespace Credentials

variable {fields : List String} {field sort value : String} {c c' : Credentials}

/-- A credential as a field: its sort and a value that is not empty. The value can be anything
    else, and in particular it may look like another credential. -/
def IsField (field : String) : Prop :=
  ∃ value, value ≠ "" ∧ (field = "pass=" ++ value ∨ field = "keyfile=" ++ value)

/-- The value that counts for a sort of credentials: none of the sort follows. What stands before
    it does not matter, and credentials of the other sort may follow. -/
def IsLast (sort value : String) (fields : List String) : Prop :=
  ∃ before after, fields = before ++ (sort ++ value) :: after ∧
    ∀ f ∈ after, ∀ other, f ≠ sort ++ other

/-- The credentials that fields spell. Every field has to be one, and for each sort the last one
    counts. -/
structure Spelled (fields : List String) (c : Credentials) : Prop where
  each : ∀ f ∈ fields, IsField f
  passphrase : ∀ value, c.passphrase = some value ↔ IsLast "pass=" value fields
  keyFile : ∀ value, c.keyFile = some value ↔ IsLast "keyfile=" value fields

theorem pass_ne_keyfile (value other : String) : "pass=" ++ value ≠ "keyfile=" ++ other :=
  Text.append_ne_append (by decide) (by decide) (by decide) value other

/-- A credential is added exactly if the field is one, and it replaces an earlier one of its
    sort. -/
theorem add_eq_ok_iff :
    c.add field = .ok c' ↔ ∃ value, value ≠ "" ∧
      ((field = "pass=" ++ value ∧ c' = { c with passphrase := some value }) ∨
        (field = "keyfile=" ++ value ∧ c' = { c with keyFile := some value })) := by
  unfold add
  constructor
  · intro h
    split at h
    · rename_i value hpass
      by_cases hempty : value = ""
      · rw [if_pos hempty] at h
        exact absurd h (by simp)
      · rw [if_neg hempty] at h
        exact ⟨value, hempty, Or.inl
          ⟨Text.after?_eq_some_iff.mp hpass, (Except.ok.inj h).symm⟩⟩
    · split at h
      · rename_i value hkeyFile
        by_cases hempty : value = ""
        · rw [if_pos hempty] at h
          exact absurd h (by simp)
        · rw [if_neg hempty] at h
          exact ⟨value, hempty, Or.inr
            ⟨Text.after?_eq_some_iff.mp hkeyFile, (Except.ok.inj h).symm⟩⟩
      · exact absurd h (by simp)
  · rintro ⟨value, hempty, ⟨rfl, rfl⟩ | ⟨rfl, rfl⟩⟩
    · rw [Text.after?_append]
      exact if_neg hempty
    · rw [Text.after?_append_eq_none (by decide) (by decide) (by decide), Text.after?_append]
      exact if_neg hempty

theorem isLast_concat_self : IsLast sort value (fields ++ [sort ++ value]) :=
  ⟨fields, [], rfl, fun _ hf => absurd hf List.not_mem_nil⟩

/-- A credential at the end counts for its sort. -/
theorem isLast_concat_iff {other : String} :
    IsLast sort value (fields ++ [sort ++ other]) ↔ value = other := by
  constructor
  · rintro ⟨before, after, hsplit, hafter⟩
    -- If anything follows the one that counts, its last is the field at the end.
    rcases List.eq_nil_or_concat' after with rfl | ⟨rest, f, rfl⟩
    · have hlast := (List.append_inj' hsplit rfl).2
      exact ((String.append_right_inj sort).mp (List.singleton_inj.mp hlast)).symm
    · rw [← List.cons_append, ← List.append_assoc] at hsplit
      have hlast := List.singleton_inj.mp (List.append_inj' hsplit rfl).2
      exact absurd hlast.symm (hafter f (by simp) other)
  · rintro rfl
    exact isLast_concat_self

/-- One of another sort at the end does not. The one that counts is looked for before it. -/
theorem isLast_concat_of_ne (hne : ∀ other, field ≠ sort ++ other) :
    IsLast sort value (fields ++ [field]) ↔ IsLast sort value fields := by
  constructor
  · rintro ⟨before, after, hsplit, hafter⟩
    -- The one that counts is not the field at the end, so there is something behind it.
    rcases List.eq_nil_or_concat' after with rfl | ⟨rest, f, rfl⟩
    · have hlast := List.singleton_inj.mp (List.append_inj' hsplit rfl).2
      exact absurd hlast (hne value)
    · rw [← List.cons_append, ← List.append_assoc] at hsplit
      refine ⟨before, rest, (List.append_inj' hsplit rfl).1, fun g hg => ?_⟩
      exact hafter g (List.mem_append_left _ hg)
  · rintro ⟨before, after, rfl, hafter⟩
    refine ⟨before, after ++ [field], by simp, List.forall_mem_append.mpr ⟨hafter, ?_⟩⟩
    exact List.forall_mem_singleton.mpr hne

theorem parse_concat (fields : List String) (field : String) :
    parse (fields ++ [field]) = (parse fields).bind fun c => c.add field := by
  unfold parse
  rw [List.foldlM_append]
  cases fields.foldlM add none with
  | error p => rfl
  | ok c => exact bind_pure (c.add field)

/-- Credentials that are read are those that count. Reading goes from the left and every
    credential replaces the one before it, so in the end each sort has its last value. -/
theorem spelled_of_parse (h : parse fields = .ok c) : Spelled fields c := by
  -- From the end, since the last field counts for its sort whatever stands before it.
  induction fields using List.reverseRecOn generalizing c with
  | nil =>
      obtain rfl : none = c := Except.ok.inj h
      have hlast : ∀ sort value, ¬ IsLast sort value [] := by
        rintro sort value ⟨before, after, hsplit, _⟩
        exact absurd hsplit (by simp)
      exact ⟨fun _ hf => absurd hf List.not_mem_nil, fun value => by simp [none, hlast],
        fun value => by simp [none, hlast]⟩
  | append_singleton fields field ih =>
      rw [parse_concat] at h
      rcases bind_eq_ok_iff.mp h with ⟨c₀, hrest, hadd⟩
      have hspelled := ih hrest
      rcases add_eq_ok_iff.mp hadd with ⟨value, hempty, ⟨rfl, rfl⟩ | ⟨rfl, rfl⟩⟩
      · refine ⟨?_, fun other => ?_, fun other => ?_⟩
        · exact List.forall_mem_append.mpr ⟨hspelled.each,
            List.forall_mem_singleton.mpr ⟨value, hempty, Or.inl rfl⟩⟩
        · rw [isLast_concat_iff, Option.some.injEq, eq_comm]
        · rw [isLast_concat_of_ne (pass_ne_keyfile value)]
          exact hspelled.keyFile other
      · refine ⟨?_, fun other => ?_, fun other => ?_⟩
        · exact List.forall_mem_append.mpr ⟨hspelled.each,
            List.forall_mem_singleton.mpr ⟨value, hempty, Or.inr rfl⟩⟩
        · rw [isLast_concat_of_ne fun other => (pass_ne_keyfile other value).symm]
          exact hspelled.passphrase other
        · rw [isLast_concat_iff, Option.some.injEq, eq_comm]

/-- Fields that are credentials can be read. No combination of them is refused. -/
theorem exists_parse_eq_ok (h : ∀ f ∈ fields, IsField f) : ∃ c, parse fields = .ok c := by
  induction fields using List.reverseRecOn with
  | nil => exact ⟨none, rfl⟩
  | append_singleton fields field ih =>
      rw [List.forall_mem_append, List.forall_mem_singleton] at h
      rcases ih h.1 with ⟨c, hc⟩
      have hadd : ∃ c', c.add field = .ok c' := by
        rcases h.2 with ⟨value, hempty, hpass | hkeyFile⟩
        · exact ⟨_, add_eq_ok_iff.mpr ⟨value, hempty, Or.inl ⟨hpass, rfl⟩⟩⟩
        · exact ⟨_, add_eq_ok_iff.mpr ⟨value, hempty, Or.inr ⟨hkeyFile, rfl⟩⟩⟩
      rcases hadd with ⟨c', hc'⟩
      rw [parse_concat, hc]
      exact ⟨c', hc'⟩

/-- Fields are read as the credentials that they spell, and as no others. -/
theorem parse_eq_ok_iff : parse fields = .ok c ↔ Spelled fields c := by
  refine ⟨spelled_of_parse, fun h => ?_⟩
  rcases exists_parse_eq_ok h.each with ⟨c', hc'⟩
  have hspelled := spelled_of_parse hc'
  -- What is said of each of the two says which values it can have.
  have hpass : c'.passphrase = c.passphrase :=
    Option.ext fun value => (hspelled.passphrase value).trans (h.passphrase value).symm
  have hkeyFile : c'.keyFile = c.keyFile :=
    Option.ext fun value => (hspelled.keyFile value).trans (h.keyFile value).symm
  rw [hc']
  cases c
  cases c'
  rw [Except.ok.injEq, mk.injEq]
  exact ⟨hpass, hkeyFile⟩

end Credentials

/-! ### Contents -/

namespace Content

variable {field : String} {c : Content}

/-- The contents that a field spells: a filesystem under its name, a share of a volume group
    behind `lvm=`, or one that is opened under a name of its own behind `enc=`. What stands
    behind the name of a group that is not to be opened is ignored. The relation has no order of
    checks in it, and no errors, which are for `Answered` to list. -/
inductive Spelled : String → Content → Prop
  | plain {fs : Filesystem} (hselectable : fs.isSelectable = true) : Spelled fs.name (.plain fs)
  | share {rest group : String} (hgroup : group ≠ "") (hcomma : ',' ∉ group.toList)
      (hrest : rest = group ∨ ∃ ignored, rest = group ++ "," ++ ignored) :
      Spelled ("lvm=" ++ rest) (.physicalVolume ⟨group, none⟩)
  | encrypted {rest device group : String} {fields : List String} {c : Credentials}
      (hrest : Text.fields ',' rest = device :: group :: fields) (hdevice : device ≠ "")
      (hgroup : group ≠ "") (hcredentials : Credentials.Spelled fields c) :
      Spelled ("enc=" ++ rest) (.physicalVolume ⟨group, c.encryption? device⟩)

/-- The text before the first comma is the one without commas that the text begins with. -/
theorem cut_comma_iff {rest group : String} :
    (Text.cut ',' rest).1 = group ↔
      ',' ∉ group.toList ∧ (rest = group ∨ ∃ ignored, rest = group ++ "," ++ ignored) := by
  constructor
  · intro h
    cases hcut : Text.cut ',' rest with
    | mk head tail =>
        obtain rfl : head = group := by rw [← h, hcut]
        cases tail with
        | none =>
            rcases Text.cut_eq_none_iff.mp hcut with ⟨rfl, hcomma⟩
            exact ⟨hcomma, Or.inl rfl⟩
        | some ignored =>
            rcases Text.cut_eq_some_iff.mp hcut with ⟨hsplit, hcomma⟩
            refine ⟨hcomma, Or.inr ⟨ignored, ?_⟩⟩
            rw [← String.toList_inj, String.toList_append, String.toList_append, hsplit,
              List.append_assoc]
            rfl
  · rintro ⟨hcomma, rfl | ⟨ignored, rfl⟩⟩
    · rw [Text.cut_eq_none_iff.mpr ⟨rfl, hcomma⟩]
    · have hsplit : (group ++ "," ++ ignored).toList = group.toList ++ ',' :: ignored.toList := by
        rw [String.toList_append, String.toList_append, List.append_assoc]
        rfl
      rw [Text.cut_eq_some_iff.mpr ⟨hsplit, hcomma⟩]

/-- Fields behind `enc=` are read exactly if there are two names that are not empty, and
    credentials. -/
theorem ofEncryptedFields_eq_ok_iff {token : String} {fields : List String} :
    ofEncryptedFields token fields = .ok c ↔ ∃ device group rest found,
      fields = device :: group :: rest ∧ device ≠ "" ∧ group ≠ "" ∧
        Credentials.Spelled rest found ∧
        c = .physicalVolume ⟨group, found.encryption? device⟩ := by
  constructor
  · intro h
    unfold ofEncryptedFields at h
    split at h
    · rename_i device rest
      split at h
      · exact absurd h (by simp)
      · rename_i hdevice
        split at h
        · exact absurd h (by simp)
        · rename_i group others
          split at h
          · exact absurd h (by simp)
          · rename_i hgroup
            rcases map_eq_ok_iff.mp h with ⟨found, hfound, rfl⟩
            exact ⟨device, group, others, found, rfl, hdevice, hgroup,
              Credentials.parse_eq_ok_iff.mp hfound, rfl⟩
    · exact absurd h (by simp)
  · rintro ⟨device, group, rest, found, rfl, hdevice, hgroup, hfound, rfl⟩
    unfold ofEncryptedFields
    dsimp only
    rw [if_neg hdevice, if_neg hgroup]
    exact map_eq_ok_iff.mpr ⟨found, Credentials.parse_eq_ok_iff.mpr hfound, rfl⟩

/-- A field is read as the contents that it spells. Each form is recognised by the word that it
    begins with, and no name of a filesystem begins with one of the words. -/
theorem parse_eq_ok_iff : parse field = .ok c ↔ Spelled field c := by
  constructor
  · intro h
    unfold parse at h
    split at h
    · rename_i rest hrest
      obtain rfl := Text.after?_eq_some_iff.mp hrest
      rcases ofEncryptedFields_eq_ok_iff.mp h with
        ⟨device, group, others, found, hfields, hdevice, hgroup, hfound, rfl⟩
      exact .encrypted hfields hdevice hgroup hfound
    · split at h
      · rename_i rest hrest
        obtain rfl := Text.after?_eq_some_iff.mp hrest
        dsimp only at h
        split at h
        · exact absurd h (by simp)
        · rename_i hgroup
          rw [← Except.ok.inj h]
          rcases cut_comma_iff.mp (Eq.refl (Text.cut ',' rest).1) with ⟨hcomma, hsplit⟩
          exact .share hgroup hcomma hsplit
      · rcases map_eq_ok_iff.mp h with ⟨fs, hfs, rfl⟩
        rcases namedFilesystem_eq_ok_iff.mp hfs with ⟨hselectable, rfl⟩
        exact .plain hselectable
  · intro h
    cases h with
    | @plain fs hselectable =>
        -- The name is not taken for another form.
        have hencrypted : Text.after? "enc=" fs.name = none := by cases fs <;> rfl
        have hshare : Text.after? "lvm=" fs.name = none := by cases fs <;> rfl
        unfold parse
        rw [hencrypted, hshare]
        exact map_eq_ok_iff.mpr
          ⟨fs, namedFilesystem_eq_ok_iff.mpr ⟨hselectable, rfl⟩, rfl⟩
    | share hgroup hcomma hsplit =>
        unfold parse
        rw [Text.after?_append_eq_none (by decide) (by decide) (by decide), Text.after?_append]
        dsimp only
        rw [cut_comma_iff.mpr ⟨hcomma, hsplit⟩, if_neg hgroup]
    | encrypted hfields hdevice hgroup hfound =>
        unfold parse
        rw [Text.after?_append]
        exact ofEncryptedFields_eq_ok_iff.mpr
          ⟨_, _, _, _, hfields, hdevice, hgroup, hfound, rfl⟩

end Content

end DiskPlan
