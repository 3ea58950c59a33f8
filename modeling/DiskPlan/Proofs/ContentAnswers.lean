import DiskPlan.Proofs.ContentGrammar

/-!
# What Contents Are Answered

The answer to any field that says what a partition is to hold, a refusal as well.

Which fields are accepted is said by `Content.Spelled`. A field that is not can be wrong in
several places at once, and then the first one counts: the name of the volume, the name of
the group, and the credentials in their order. `Content.Answered` says what the answer is,
with one case for each of them. It is stated for the field as it was written, since that is
what a refusal repeats, but for a credential, which is repeated alone.

Every field has an answer, and has one only, so the reader is determined by the cases.

## Main definitions

* `Credentials.Refused`: What is wrong with a field that is no credential.
* `Credentials.Encrypts`: The encryption that credentials make of a volume.
* `Content.Answered`: What a field is answered.

## Theorems

* `Credentials.parse_eq_error_iff`: The first field that is no credential is the one
  told of.
* `Content.answered_parse`, `Content.Answered.parse_eq`: Every field has its answer.
* `Content.parse_eq_iff_answered`: The reader of contents is determined by its answers.
-/

namespace DiskPlan

/-! ### Credentials -/

namespace Credentials

variable {fields : List String} {field device : String} {c : Credentials} {p : SyntaxProblem}

/-- What is wrong with a field that is no credential: it names a sort and has no value, or it
    names no sort. A field without any sort is told of as it stands, and of the others only the
    sort is told. -/
inductive Refused : String → SyntaxProblem → Prop
  | noPassphrase : Refused "pass=" (.emptyCredential "password")
  | noKeyFile : Refused "keyfile=" (.emptyCredential "keyfile")
  | noSort {field : String} (hpass : ∀ value, field ≠ "pass=" ++ value)
      (hkeyFile : ∀ value, field ≠ "keyfile=" ++ value) : Refused field (.invalidField field)

/-- A field is refused exactly if something is wrong with it, and with that. -/
theorem add_eq_error_iff : c.add field = .error p ↔ Refused field p := by
  unfold add
  constructor
  · intro h
    split at h
    · rename_i value hpass
      by_cases hempty : value = ""
      · subst hempty
        rw [if_pos rfl] at h
        obtain rfl := Except.error.inj h
        rw [Text.after?_eq_some_iff.mp hpass]
        exact .noPassphrase
      · rw [if_neg hempty] at h
        exact absurd h (by simp)
    · rename_i hpass
      split at h
      · rename_i value hkeyFile
        by_cases hempty : value = ""
        · subst hempty
          rw [if_pos rfl] at h
          obtain rfl := Except.error.inj h
          rw [Text.after?_eq_some_iff.mp hkeyFile]
          exact .noKeyFile
        · rw [if_neg hempty] at h
          exact absurd h (by simp)
      · rename_i hkeyFile
        obtain rfl := Except.error.inj h
        exact .noSort (Text.after?_eq_none_iff.mp hpass) (Text.after?_eq_none_iff.mp hkeyFile)
  · intro h
    cases h with
    | noPassphrase => rfl
    | noKeyFile => rfl
    | noSort hpass hkeyFile =>
        rw [Text.after?_eq_none_iff.mpr hpass, Text.after?_eq_none_iff.mpr hkeyFile]

/-- The first field that is no credential is the one told of. Those before it are read, and those
    after it are not looked at. -/
theorem parse_eq_error_iff :
    parse fields = .error p ↔ ∃ before field after, fields = before ++ field :: after ∧
      (∀ f ∈ before, IsField f) ∧ Refused field p := by
  unfold parse
  rw [foldlM_eq_error_iff]
  constructor
  · rintro ⟨before, field, after, c, hsplit, hbefore, hfield⟩
    exact ⟨before, field, after, hsplit, (spelled_of_parse hbefore).each,
      add_eq_error_iff.mp hfield⟩
  · rintro ⟨before, field, after, hsplit, hbefore, hfield⟩
    rcases exists_parse_eq_ok hbefore with ⟨c, hc⟩
    exact ⟨before, field, after, c, hsplit, hc, add_eq_error_iff.mpr hfield⟩

/-- A passphrase and a key file are both read, in either order. Each of them sets a place of its
    own, so the order cannot be seen afterwards. -/
theorem parse_pair {passphrase keyFile : String} (hpass : passphrase ≠ "")
    (hkeyFile : keyFile ≠ "") :
    parse ["pass=" ++ passphrase, "keyfile=" ++ keyFile] =
        .ok ⟨some passphrase, some keyFile⟩ ∧
      parse ["keyfile=" ++ keyFile, "pass=" ++ passphrase] =
        .ok ⟨some passphrase, some keyFile⟩ := by
  have haddPass : ∀ c : Credentials, c.add ("pass=" ++ passphrase) =
      .ok { c with passphrase := some passphrase } :=
    fun _ => add_eq_ok_iff.mpr ⟨passphrase, hpass, Or.inl ⟨rfl, rfl⟩⟩
  have haddKeyFile : ∀ c : Credentials, c.add ("keyfile=" ++ keyFile) =
      .ok { c with keyFile := some keyFile } :=
    fun _ => add_eq_ok_iff.mpr ⟨keyFile, hkeyFile, Or.inr ⟨rfl, rfl⟩⟩
  unfold parse
  simp only [List.foldlM_cons, List.foldlM_nil, haddPass, haddKeyFile]
  exact ⟨rfl, rfl⟩

/-- The encryption that credentials make of a volume which is opened under a name. Without any
    there is none: a name alone does not make a volume an encrypted one. -/
inductive Encrypts (device : String) : List String → Option Encryption → Prop
  | without : Encrypts device [] .none
  | given {fields : List String} {passphrase keyFile : Option String} (hne : fields ≠ [])
      (hpassphrase : ∀ value, passphrase = some value ↔ IsLast "pass=" value fields)
      (hkeyFile : ∀ value, keyFile = some value ↔ IsLast "keyfile=" value fields) :
      Encrypts device fields (some ⟨device, passphrase, keyFile⟩)

/-- Among fields that are credentials, one is the last of its sort. So if there are fields at
    all, there is an encryption. -/
theorem Spelled.isSome_or (h : Spelled fields c) (hne : fields ≠ []) :
    (c.passphrase.isNone && c.keyFile.isNone) = false := by
  -- The field at the end counts, whatever its sort is.
  rcases List.eq_nil_or_concat' fields with rfl | ⟨before, field, rfl⟩
  · exact absurd rfl hne
  · rcases h.each field (by simp) with ⟨value, _, rfl | rfl⟩
    · rw [(h.passphrase value).mpr isLast_concat_self]
      rfl
    · rw [(h.keyFile value).mpr isLast_concat_self, Option.isNone_some, Bool.and_false]

/-- The encryption of credentials that fields spell. What counts for each sort settles the
    credentials, and the fields are empty exactly if these are. -/
theorem Spelled.encrypts_iff (h : Spelled fields c) {encryption : Option Encryption} :
    Encrypts device fields encryption ↔ c.encryption? device = encryption := by
  constructor
  · intro hencrypts
    cases hencrypts with
    | without =>
        -- Without fields there is nothing that counts.
        obtain rfl : Credentials.none = c :=
          Except.ok.inj ((show parse [] = .ok Credentials.none from rfl).symm.trans
            (parse_eq_ok_iff.mpr h))
        rfl
    | given hne hpassphrase hkeyFile =>
        have hsame : Spelled fields ⟨_, _⟩ := ⟨h.each, hpassphrase, hkeyFile⟩
        obtain rfl := Except.ok.inj ((parse_eq_ok_iff.mpr h).symm.trans (parse_eq_ok_iff.mpr hsame))
        unfold encryption?
        rw [h.isSome_or hne, if_neg Bool.false_ne_true]
  · rintro rfl
    by_cases hne : fields = []
    · subst hne
      obtain rfl : Credentials.none = c :=
        Except.ok.inj ((show parse [] = .ok Credentials.none from rfl).symm.trans
          (parse_eq_ok_iff.mpr h))
      exact .without
    · unfold encryption?
      rw [h.isSome_or hne, if_neg Bool.false_ne_true]
      exact .given hne h.passphrase h.keyFile

end Credentials

/-! ### Contents -/

/-- What is no name of a selectable filesystem is refused as it stands. Names of filesystems that
    tokens cannot ask for are refused in the same way as texts that are no names. -/
theorem namedFilesystem_eq_error_iff {field : String} {p : SyntaxProblem} :
    namedFilesystem field = .error p ↔
      (∀ fs : Filesystem, fs.isSelectable = true → field ≠ fs.name) ∧
        p = .invalidFilesystem field := by
  cases hname : namedFilesystem field with
  | ok fs =>
      rcases namedFilesystem_eq_ok_iff.mp hname with ⟨hselectable, hfs⟩
      exact iff_of_false (by simp) fun h => h.1 fs hselectable hfs.symm
  | error p' =>
      have hunknown : ∀ fs : Filesystem, fs.isSelectable = true → field ≠ fs.name := by
        intro fs hselectable hfield
        rw [namedFilesystem_eq_ok_iff.mpr ⟨hselectable, hfield.symm⟩] at hname
        exact absurd hname (by simp)
      rw [and_iff_right hunknown, Except.error.injEq]
      unfold namedFilesystem at hname
      split at hname
      · exact absurd hname (by simp)
      · rw [← Except.error.inj hname, eq_comm]

namespace Content

variable {field : String} {answer : Except SyntaxProblem Content}

/-- What a field is answered. Behind `enc=` the fields between commas are looked at from the
    left, and behind `lvm=` the text up to the first comma. Any other field is the name of a
    filesystem or nothing. There is one constructor for each answer, and the hypotheses of two of
    them exclude each other unless they answer alike. -/
inductive Answered : String → Except SyntaxProblem Content → Prop
  | noDevice {rest : String} {fields : List String}
      (hfields : Text.fields ',' rest = "" :: fields) :
      Answered ("enc=" ++ rest) (.error (.missingPhysicalVolume ("enc=" ++ rest)))
  | noGroup {rest device : String} (hfields : Text.fields ',' rest = [device])
      (hdevice : device ≠ "") :
      Answered ("enc=" ++ rest) (.error (.missingVolumeGroup ("enc=" ++ rest)))
  | emptyGroup {rest device : String} {fields : List String}
      (hfields : Text.fields ',' rest = device :: "" :: fields) (hdevice : device ≠ "") :
      Answered ("enc=" ++ rest) (.error (.missingVolumeGroup ("enc=" ++ rest)))
  | noCredential {rest device group field : String} {before after : List String}
      {p : SyntaxProblem}
      (hfields : Text.fields ',' rest = device :: group :: (before ++ field :: after))
      (hdevice : device ≠ "") (hgroup : group ≠ "")
      (hbefore : ∀ f ∈ before, Credentials.IsField f) (hfield : Credentials.Refused field p) :
      Answered ("enc=" ++ rest) (.error p)
  | encrypted {rest device group : String} {fields : List String}
      {encryption : Option Encryption}
      (hfields : Text.fields ',' rest = device :: group :: fields)
      (hdevice : device ≠ "") (hgroup : group ≠ "")
      (heach : ∀ f ∈ fields, Credentials.IsField f)
      (hencryption : Credentials.Encrypts device fields encryption) :
      Answered ("enc=" ++ rest) (.ok (.physicalVolume ⟨group, encryption⟩))
  | noShare {rest : String} (hrest : rest = "" ∨ ∃ ignored, rest = "," ++ ignored) :
      Answered ("lvm=" ++ rest) (.error (.missingVolumeGroup ("lvm=" ++ rest)))
  | share {rest group : String} (hgroup : group ≠ "") (hcomma : ',' ∉ group.toList)
      (hrest : rest = group ∨ ∃ ignored, rest = group ++ "," ++ ignored) :
      Answered ("lvm=" ++ rest) (.ok (.physicalVolume ⟨group, none⟩))
  | plain {fs : Filesystem} (hselectable : fs.isSelectable = true) :
      Answered fs.name (.ok (.plain fs))
  | unknown {field : String} (hencrypted : ∀ rest, field ≠ "enc=" ++ rest)
      (hshare : ∀ rest, field ≠ "lvm=" ++ rest)
      (hname : ∀ fs : Filesystem, fs.isSelectable = true → field ≠ fs.name) :
      Answered field (.error (.invalidFilesystem field))

/-- Behind `enc=` every field has its answer. The cases are those of the reader, in its order:
    the name to open it under, the group, and then the credentials from the left. -/
theorem answered_ofEncryptedFields (rest : String) :
    Answered ("enc=" ++ rest) (ofEncryptedFields ("enc=" ++ rest) (Text.fields ',' rest)) := by
  cases hfields : Text.fields ',' rest with
  | nil => exact absurd hfields (Text.fields_ne_nil ',' rest)
  | cons device others =>
      unfold ofEncryptedFields
      dsimp only
      by_cases hdevice : device = ""
      · subst hdevice
        rw [if_pos rfl]
        exact .noDevice hfields
      rw [if_neg hdevice]
      cases others with
      | nil => exact .noGroup hfields hdevice
      | cons group fields =>
          dsimp only
          by_cases hgroup : group = ""
          · subst hgroup
            rw [if_pos rfl]
            exact .emptyGroup hfields hdevice
          rw [if_neg hgroup]
          cases hparse : Credentials.parse fields with
          | error p =>
              rcases Credentials.parse_eq_error_iff.mp hparse with
                ⟨before, f, after, rfl, hbefore, hf⟩
              exact .noCredential hfields hdevice hgroup hbefore hf
          | ok c =>
              -- All fields are credentials here, so the ones that count make the encryption.
              have hspelled := Credentials.parse_eq_ok_iff.mp hparse
              exact .encrypted hfields hdevice hgroup hspelled.each
                (hspelled.encrypts_iff.mpr rfl)

/-- Every field has its answer. Whether it begins with one of the two words is asked first, so a
    filesystem is only looked for under the whole text. -/
theorem answered_parse (field : String) : Answered field (parse field) := by
  unfold parse
  cases hencrypted : Text.after? "enc=" field with
  | some rest =>
      rw [Text.after?_eq_some_iff.mp hencrypted]
      exact answered_ofEncryptedFields rest
  | none =>
      cases hshare : Text.after? "lvm=" field with
      | some rest =>
          rw [Text.after?_eq_some_iff.mp hshare]
          dsimp only
          rcases cut_comma_iff.mp (Eq.refl (Text.cut ',' rest).1) with ⟨hcomma, hrest⟩
          by_cases hgroup : (Text.cut ',' rest).1 = ""
          · rw [if_pos hgroup]
            rw [hgroup, String.empty_append] at hrest
            exact .noShare hrest
          · rw [if_neg hgroup]
            exact .share hgroup hcomma hrest
      | none =>
          dsimp only
          cases hname : namedFilesystem field with
          | ok fs =>
              rcases namedFilesystem_eq_ok_iff.mp hname with ⟨hselectable, rfl⟩
              exact .plain hselectable
          | error p =>
              rcases namedFilesystem_eq_error_iff.mp hname with ⟨hunknown, rfl⟩
              exact .unknown (Text.after?_eq_none_iff.mp hencrypted)
                (Text.after?_eq_none_iff.mp hshare) hunknown

/-- What a field is answered is what its reader says. Together with `answered_parse` this makes
    the reader a function of the grammar, errors included. -/
theorem Answered.parse_eq (h : Answered field answer) : parse field = answer := by
  have hencrypted : ∀ rest, parse ("enc=" ++ rest) =
      ofEncryptedFields ("enc=" ++ rest) (Text.fields ',' rest) := by
    intro rest
    unfold parse
    rw [Text.after?_append]
  cases h with
  | noDevice hfields =>
      rw [hencrypted, hfields]
      rfl
  | noGroup hfields hdevice =>
      rw [hencrypted, hfields]
      exact if_neg hdevice
  | emptyGroup hfields hdevice =>
      rw [hencrypted, hfields]
      exact if_neg hdevice
  | @noCredential rest device group f before after p hfields hdevice hgroup hbefore hfield =>
      have hparse : Credentials.parse (before ++ f :: after) = .error p :=
        Credentials.parse_eq_error_iff.mpr ⟨before, f, after, rfl, hbefore, hfield⟩
      rw [hencrypted, hfields]
      unfold ofEncryptedFields
      dsimp only
      rw [if_neg hdevice, if_neg hgroup, hparse]
      rfl
  | encrypted hfields hdevice hgroup heach hencryption =>
      rcases Credentials.exists_parse_eq_ok heach with ⟨c, hc⟩
      have hspelled := Credentials.parse_eq_ok_iff.mp hc
      obtain rfl := hspelled.encrypts_iff.mp hencryption
      exact parse_eq_ok_iff.mpr (.encrypted hfields hdevice hgroup hspelled)
  | noShare hrest =>
      -- The group is the text before the first comma, and it is empty here.
      have hcut := cut_comma_iff.mpr ⟨List.not_mem_nil, hrest.imp_right
        fun ⟨ignored, h⟩ => ⟨ignored, h.trans (by rw [String.empty_append])⟩⟩
      unfold parse
      rw [Text.after?_append_eq_none (by decide) (by decide) (by decide), Text.after?_append]
      exact if_pos hcut
  | share hgroup hcomma hrest => exact parse_eq_ok_iff.mpr (.share hgroup hcomma hrest)
  | plain hselectable => exact parse_eq_ok_iff.mpr (.plain hselectable)
  | unknown hencrypted hshare hname =>
      unfold parse
      rw [Text.after?_eq_none_iff.mpr hencrypted, Text.after?_eq_none_iff.mpr hshare]
      exact congrArg (Except.map Content.plain) (namedFilesystem_eq_error_iff.mpr ⟨hname, rfl⟩)

/-- A field is accepted under no other name than those of the selectable filesystems, unless it
    begins like one of the other forms. Names are compared letter by letter, so no other spelling
    is accepted. -/
theorem exists_parse_eq_ok_iff (hencrypted : ∀ rest, field ≠ "enc=" ++ rest)
    (hshare : ∀ rest, field ≠ "lvm=" ++ rest) :
    (∃ c, parse field = .ok c) ↔ field ∈ ["btrfs", "exfat", "ext2", "ext3", "ext4", "f2fs",
      "fat16", "fat32", "ntfs", "swap", "xfs"] := by
  -- The names are spelled out in the statement, and this is where they come from.
  have hnames : ["btrfs", "exfat", "ext2", "ext3", "ext4", "f2fs", "fat16", "fat32", "ntfs",
      "swap", "xfs"] = (Filesystem.all.filter Filesystem.isSelectable).map Filesystem.name := by
    decide
  have hall : ∀ fs : Filesystem, fs ∈ Filesystem.all := by
    intro fs
    cases fs <;> decide
  rw [hnames]
  simp only [List.mem_map, List.mem_filter, hall, true_and]
  constructor
  · rintro ⟨c, hc⟩
    cases parse_eq_ok_iff.mp hc with
    | plain hselectable => exact ⟨_, hselectable, rfl⟩
    | share => exact absurd rfl (hshare _)
    | encrypted => exact absurd rfl (hencrypted _)
  · rintro ⟨fs, hselectable, rfl⟩
    exact ⟨_, parse_eq_ok_iff.mpr (.plain hselectable)⟩

/-- Names and credentials that are put together are taken apart again, whatever stands in them
    besides commas. A name may look like a credential: only its place says what it is. -/
theorem parse_encrypted {device group : String} {fields : List String} {c : Credentials}
    (hdevice : device ≠ "") (hgroup : group ≠ "")
    (hcomma : ∀ f ∈ device :: group :: fields, ',' ∉ f.toList)
    (hfields : Credentials.parse fields = .ok c) {rest : String}
    (hrest : rest.toList = [','].intercalate ((device :: group :: fields).map String.toList)) :
    parse ("enc=" ++ rest) = .ok (.physicalVolume ⟨group, c.encryption? device⟩) := by
  -- Commas stand between the parts and in none of them, so the parts are the fields.
  have hsplit : Text.fields ',' rest = device :: group :: fields :=
    Text.fields_of_intercalate hrest hcomma (List.cons_ne_nil _ _)
  exact parse_eq_ok_iff.mpr
    (.encrypted hsplit hdevice hgroup (Credentials.parse_eq_ok_iff.mp hfields))

/-- The reader of contents is determined by its answers. Behind neither of the two words it
    accepts eleven names, and a name, a group, a passphrase and a key file are read as they are,
    in either order of the last two. The first clause says all there is to know of the reader,
    and the other two are what a reader of the documentation would look for. -/
theorem parse_eq_iff_answered :
    (∀ field answer, parse field = answer ↔ Answered field answer) ∧
    (∀ field, (∀ rest, field ≠ "enc=" ++ rest) → (∀ rest, field ≠ "lvm=" ++ rest) →
      ((∃ c, parse field = .ok c) ↔ field ∈ ["btrfs", "exfat", "ext2", "ext3", "ext4", "f2fs",
        "fat16", "fat32", "ntfs", "swap", "xfs"])) ∧
    ∀ device group passphrase keyFile : String,
      (∀ s ∈ [device, group, passphrase, keyFile], s ≠ "" ∧ ',' ∉ s.toList) →
        parse ("enc=" ++ device ++ "," ++ group ++ ",pass=" ++ passphrase ++ ",keyfile=" ++
          keyFile) = .ok (.physicalVolume ⟨group, some ⟨device, some passphrase, some keyFile⟩⟩) ∧
        parse ("enc=" ++ device ++ "," ++ group ++ ",keyfile=" ++ keyFile ++ ",pass=" ++
          passphrase) = .ok (.physicalVolume ⟨group, some ⟨device, some passphrase, some keyFile⟩⟩)
    := by
  refine ⟨fun field answer => ⟨?_, Answered.parse_eq⟩, fun field => exists_parse_eq_ok_iff,
    fun device group passphrase keyFile hparts => ?_⟩
  · rintro rfl
    exact answered_parse field
  · simp only [List.forall_mem_cons, List.not_mem_nil, false_implies, implies_true,
      and_true] at hparts
    obtain ⟨⟨hdevice, hdevice'⟩, ⟨hgroup, hgroup'⟩, ⟨hpass, hpass'⟩, hkeyFile, hkeyFile'⟩ := hparts
    rcases Credentials.parse_pair hpass hkeyFile with ⟨hpair, hswapped⟩
    -- A credential is a word with a text behind it, so a comma in it would be one in the text.
    have hcomma : ∀ head s : String, ',' ∉ head.toList → ',' ∉ s.toList →
        ',' ∉ (head ++ s).toList := by
      intro head s hhead hs
      rw [String.toList_append, List.mem_append, not_or]
      exact ⟨hhead, hs⟩
    have hpass' := hcomma "pass=" passphrase (by decide) hpass'
    have hkeyFile' := hcomma "keyfile=" keyFile (by decide) hkeyFile'
    constructor
    · simp only [String.append_assoc]
      refine parse_encrypted hdevice hgroup ?_ hpair ?_
      · simp only [List.forall_mem_cons, List.not_mem_nil, false_implies, implies_true, and_true]
        exact ⟨hdevice', hgroup', hpass', hkeyFile'⟩
      · simp [List.intercalate]
    · simp only [String.append_assoc]
      refine parse_encrypted hdevice hgroup ?_ hswapped ?_
      · simp only [List.forall_mem_cons, List.not_mem_nil, false_implies, implies_true, and_true]
        exact ⟨hdevice', hgroup', hkeyFile', hpass'⟩
      · simp [List.intercalate]

/-- Parts that look like other parts, and the name of a filesystem in another spelling. -/
theorem parse_eq_iff_answered_ofWords :
    (∀ s ∈ ["pass=", "enc=", "=keyfile=", "/k"], s ≠ "" ∧ ',' ∉ s.toList) ∧
      (∀ rest, "EXT4" ≠ "enc=" ++ rest) ∧ (∀ rest, "EXT4" ≠ "lvm=" ++ rest) ∧
      parse "enc=pass=,enc=,pass==keyfile=,keyfile=/k" =
        .ok (.physicalVolume ⟨"enc=", some ⟨"pass=", some "=keyfile=", some "/k"⟩⟩) ∧
      parse "enc=pass=,enc=,keyfile=/k,pass==keyfile=" =
        .ok (.physicalVolume ⟨"enc=", some ⟨"pass=", some "=keyfile=", some "/k"⟩⟩) ∧
      parse "enc=v,g,pass=a,keyfile=,b" = .error (.emptyCredential "keyfile") ∧
      ¬ ∃ c, parse "EXT4" = .ok c := by
  have hparts : ∀ s ∈ ["pass=", "enc=", "=keyfile=", "/k"], s ≠ "" ∧ ',' ∉ s.toList := by decide
  have hencrypted : ∀ rest, "EXT4" ≠ "enc=" ++ rest := Text.after?_eq_none_iff.mp rfl
  have hshare : ∀ rest, "EXT4" ≠ "lvm=" ++ rest := Text.after?_eq_none_iff.mp rfl
  rcases parse_eq_iff_answered with ⟨hanswered, hnames, hpairs⟩
  rcases hpairs "pass=" "enc=" "=keyfile=" "/k" hparts with ⟨hpair, hswapped⟩
  have hrefused : Credentials.Refused "keyfile=" (.emptyCredential "keyfile") := .noKeyFile
  refine ⟨hparts, hencrypted, hshare, hpair, hswapped, ?_, ?_⟩
  · -- The first fault is told, and not the last field, which is no credential either.
    refine (hanswered _ _).mpr (@Answered.noCredential "v,g,pass=a,keyfile=,b" "v" "g" "keyfile="
      ["pass=a"] ["b"] _ (by decide) (by decide) (by decide) ?_ hrefused)
    exact List.forall_mem_singleton.mpr ⟨"a", by decide, Or.inl rfl⟩
  · rw [hnames "EXT4" hencrypted hshare]
    decide

end Content

end DiskPlan
