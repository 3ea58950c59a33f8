import DiskPlan.Proofs.FieldGrammar

/-!
# What Tokens Spell

The grammar of tokens, and what a token that follows it asks for.

The readers of the six kinds go through their fields in an order of their own, and the
first fault decides how a token is refused. Whether it is refused does not depend on
that order. `Operation.Spelled` therefore has one case for each kind, with what each
field has to be side by side, and the operation put together from what the fields stand
for. `Operation.parse_eq_ok_iff_spelled` says that this is the language that is read, for
tokens without a row of digits that is too long to be a number.

Suffix fields are spelled out from a list of keys and values. The list may give a key
more than once, so what the fields say is not the list, but the value that counts for
each key.

## Main definitions

* `Operation.Spelled`: The operation that the fields of a token spell.
* `Operation.digitBound`: How long a row of digits may be.

## Theorems

* `Operation.readRelabel_eq_ok_iff` and its siblings: One equivalence for each kind.
* `Operation.spelled_of_readCreate`: What is read as a creation, however long its numbers.
* `Operation.parse_eq_ok_iff_spelled`: A token is read exactly if it follows the grammar,
  as what it spells.
-/

namespace DiskPlan

namespace Operation

/-- The operation that the fields of a token of a kind spell. -/
inductive Spelled : Kind → List String → Operation → Prop
  | relabel {disk : String} {table : TableKind} :
      Spelled .relabel [disk, table.name] (.onDisk disk (.relabel table))
  | delete {disk : String} {fields : List String} {numbers : List Nat}
      (hnumbers : List.Forall₂ Fields.SpellsNumber fields numbers) :
      Spelled .delete (disk :: fields) (.onDisk disk (.delete numbers))
  | move {disk number first last : String} {n : Nat} {p q : Option Position}
      (hnumber : Fields.SpellsNumber number n) (hfirst : Position.SpelledOrNone first p)
      (hlast : Position.SpelledOrNone last q) :
      Spelled .move [disk, number, first, last] (.onDisk disk (.move n p q))
  | reuse {disk number content : String} {n : Nat} {c : Option Content}
      {found : List (SuffixKey × String)} {suffix : Suffix}
      (hnumber : Fields.SpellsNumber number n) (hcontent : Fields.SaysContent content c)
      (hlength : found.length ≤ 2) (hsaid : Suffix.Says found suffix)
      (hmounts : Suffix.MountsKey found) :
      Spelled .reuse (disk :: number :: content :: found.map Suffix.spelling)
        (.onDisk disk (.reuse n c suffix))
  | create {disk first last content : String} {r : Role} {p q : Position} {c : Content}
      {found : List (SuffixKey × String)} {suffix : Suffix}
      (hfirst : Position.Spelled first p) (hlast : Position.Spelled last q)
      (hcontent : Content.parse content = .ok c) (hlength : found.length ≤ 2)
      (hsaid : Suffix.Says found suffix) (hmounts : Suffix.MountsKey found) :
      Spelled .create
        (disk :: r.name :: first :: last :: content :: found.map Suffix.spelling)
        (.onDisk disk (.create r p q c suffix))
  | logical {group name size : String} {p : Position} {fs : Filesystem}
      {found : List (SuffixKey × String)} {suffix : Suffix}
      (hsize : Position.Spelled size p) (hselectable : fs.isSelectable = true)
      (hlength : found.length ≤ 2) (hfound : ∀ f ∈ found, f.1 ≠ .keyId ∧ f.2 ≠ "")
      (hsaid : Suffix.Says found suffix) :
      Spelled .logical (group :: name :: size :: fs.name :: found.map Suffix.spelling)
        (.onGroup group ⟨name, p, fs, suffix.mount, suffix.flags⟩)

section Readers

variable {fields : List String} {op : Operation}

/-- The wrong number of fields is never accepted. This closes the branches of all readers that
    the other lemmas have nothing to say about. -/
theorem wrongCount_ne_ok (kind : Kind) (minimum : Int) (maximum : Option Int) :
    (Reading.wrongCount kind minimum maximum fields).operation ≠ .ok op := by
  unfold Reading.wrongCount Reading.flagless
  simp

/-- A token for a table names the disk and one of the kinds of tables. -/
theorem readRelabel_eq_ok_iff :
    (readRelabel fields).operation = .ok op ↔ Spelled .relabel fields op := by
  constructor
  · intro h
    unfold readRelabel at h
    split at h
    · rcases bind_eq_ok_iff.mp h with ⟨table, htable, h⟩
      -- The name of a kind of table is read as that kind alone, so the field is that name.
      obtain rfl := Except.ok.inj h
      obtain rfl := Fields.tableKind_eq_ok_iff.mp htable
      exact .relabel
    · exact absurd h (wrongCount_ne_ok _ _ _)
  · intro h
    cases h with
    | relabel => exact bind_eq_ok_iff.mpr ⟨_, Fields.tableKind_eq_ok_iff.mpr rfl, rfl⟩

/-- A token for deletions names the disk and numbers, none of which is too long. -/
theorem readDelete_eq_ok_iff (hnumber : ∀ f ∈ fields, ¬ Fields.IsOverlong f) :
    (readDelete fields).operation = .ok op ↔ Spelled .delete fields op := by
  constructor
  · intro h
    unfold readDelete at h
    split at h
    · rcases bind_eq_ok_iff.mp h with ⟨numbers, hnumbers, h⟩
      obtain rfl := Except.ok.inj h
      rw [List.forall_mem_cons] at hnumber
      exact .delete ((Fields.partitionNumbers_eq_ok_iff hnumber.2).mp hnumbers)
    · exact absurd h (wrongCount_ne_ok _ _ _)
  · intro h
    cases h with
    | delete hnumbers =>
        rw [List.forall_mem_cons] at hnumber
        exact bind_eq_ok_iff.mpr
          ⟨_, (Fields.partitionNumbers_eq_ok_iff hnumber.2).mpr hnumbers, rfl⟩

/-- A token for a move names the disk, the partition and two positions, each of which may be
    none. -/
theorem readMove_eq_ok_iff (hnumber : ∀ f ∈ fields, ¬ Fields.IsOverlong f)
    (hposition : ∀ f ∈ fields, ¬ Position.IsOverlong f) :
    (readMove fields).operation = .ok op ↔ Spelled .move fields op := by
  constructor
  · intro h
    unfold readMove at h
    -- The fields are read in turn, and here all of them have been read.
    split at h
    · rcases bind_eq_ok_iff.mp h with ⟨n, hn, h⟩
      rcases bind_eq_ok_iff.mp h with ⟨p, hp, h⟩
      rcases bind_eq_ok_iff.mp h with ⟨q, hq, h⟩
      obtain rfl := Except.ok.inj h
      exact .move ((Fields.partitionNumber_eq_ok_iff (hnumber _ (by simp))).mp hn)
        ((Fields.optionalPosition_eq_ok_iff (hposition _ (by simp))).mp hp)
        ((Fields.optionalPosition_eq_ok_iff (hposition _ (by simp))).mp hq)
    · exact absurd h (wrongCount_ne_ok _ _ _)
  · intro h
    cases h with
    | move hn hp hq =>
        refine bind_eq_ok_iff.mpr
          ⟨_, (Fields.partitionNumber_eq_ok_iff (hnumber _ (by simp))).mpr hn, ?_⟩
        refine bind_eq_ok_iff.mpr
          ⟨_, (Fields.optionalPosition_eq_ok_iff (hposition _ (by simp))).mpr hp, ?_⟩
        exact bind_eq_ok_iff.mpr
          ⟨_, (Fields.optionalPosition_eq_ok_iff (hposition _ (by simp))).mpr hq, rfl⟩

/-- Every suffix field is allowed where all keys and values are. -/
theorem suffixes_any_eq_ok_iff {suffixes : List String} {found : List (SuffixKey × String)} :
    Fields.suffixes .any suffixes = .ok found ↔ suffixes = found.map Suffix.spelling := by
  rw [Fields.suffixes_eq_ok_iff, and_iff_left]
  intro f _
  refine ⟨?_, fun h => absurd h (by decide)⟩
  cases f.1 <;> decide

/-- A token for a partition that is kept names it and its contents, with two suffix fields at
    most. -/
theorem readReuse_eq_ok_iff (hnumber : ∀ f ∈ fields, ¬ Fields.IsOverlong f) :
    (readReuse fields).operation = .ok op ↔ Spelled .reuse fields op := by
  constructor
  · intro h
    unfold readReuse at h
    split at h
    · split at h
      · exact absurd h (wrongCount_ne_ok _ _ _)
      · rename_i hlength
        split at h
        · exact absurd h (by simp [Reading.flagless])
        · rename_i found hfound
          -- In what order the fields are read does not matter once all of them are.
          rcases bind_eq_ok_iff.mp h with ⟨suffix, hsuffix, h⟩
          rcases bind_eq_ok_iff.mp h with ⟨n, hn, h⟩
          rcases bind_eq_ok_iff.mp h with ⟨c, hc, h⟩
          obtain rfl := Except.ok.inj h
          obtain rfl := suffixes_any_eq_ok_iff.mp hfound
          rcases Fields.mountedSuffix_eq_ok_iff.mp hsuffix with ⟨hsaid, hmounts⟩
          rw [List.length_map] at hlength
          exact .reuse ((Fields.partitionNumber_eq_ok_iff (hnumber _ (by simp))).mp hn)
            (Fields.optionalContent_eq_ok_iff.mp hc) (Nat.le_of_not_lt hlength) hsaid hmounts
    · exact absurd h (wrongCount_ne_ok _ _ _)
  · intro h
    cases h with
    | reuse hn hc hlength hsaid hmounts =>
        unfold readReuse
        dsimp only
        -- The number of suffix fields is checked before any of them is read.
        rw [if_neg (by rw [List.length_map]; omega), suffixes_any_eq_ok_iff.mpr rfl]
        refine bind_eq_ok_iff.mpr
          ⟨_, Fields.mountedSuffix_eq_ok_iff.mpr ⟨hsaid, hmounts⟩, ?_⟩
        refine bind_eq_ok_iff.mpr
          ⟨_, (Fields.partitionNumber_eq_ok_iff (hnumber _ (by simp))).mpr hn, ?_⟩
        exact bind_eq_ok_iff.mpr ⟨_, Fields.optionalContent_eq_ok_iff.mpr hc, rfl⟩

/-- What is read of the fields in front of the suffix is what they spell. -/
theorem spelled_of_createHead {role first last content : String}
    {head : Role × Position × Position × Content}
    (h : createHead role first last content = .ok head) :
    role = head.1.name ∧ Position.Spelled first head.2.1 ∧ Position.Spelled last head.2.2.1 ∧
      Content.parse content = .ok head.2.2.2 := by
  unfold createHead at h
  rcases bind_eq_ok_iff.mp h with ⟨r, hr, h⟩
  rcases bind_eq_ok_iff.mp h with ⟨p, hp, h⟩
  rcases bind_eq_ok_iff.mp h with ⟨q, hq, h⟩
  rcases bind_eq_ok_iff.mp h with ⟨c, hc, h⟩
  obtain rfl := Except.ok.inj h
  exact ⟨Fields.role_eq_ok_iff.mp hr, Position.spelled_of_ofToken hp,
    Position.spelled_of_ofToken hq, Fields.content_eq_ok_iff.mp hc⟩

/-- The fields in front of the suffix are read exactly if they spell something. Only the
    positions can be too long for that. -/
theorem createHead_eq_ok_iff {role first last content : String}
    {head : Role × Position × Position × Content} (hfirst : ¬ Position.IsOverlong first)
    (hlast : ¬ Position.IsOverlong last) :
    createHead role first last content = .ok head ↔ role = head.1.name ∧
      Position.Spelled first head.2.1 ∧ Position.Spelled last head.2.2.1 ∧
      Content.parse content = .ok head.2.2.2 := by
  refine ⟨spelled_of_createHead, ?_⟩
  rintro ⟨hr, hp, hq, hc⟩
  unfold createHead
  refine bind_eq_ok_iff.mpr ⟨_, Fields.role_eq_ok_iff.mpr hr, ?_⟩
  refine bind_eq_ok_iff.mpr ⟨_, (Position.ofToken_eq_ok_iff hfirst).mpr hp, ?_⟩
  refine bind_eq_ok_iff.mpr ⟨_, (Position.ofToken_eq_ok_iff hlast).mpr hq, ?_⟩
  exact bind_eq_ok_iff.mpr ⟨_, Fields.content_eq_ok_iff.mpr hc, rfl⟩

/-- A token that is read as the creation of a partition spells it. Nothing has to be asked of its
    numbers for this direction, which is why it stands on its own. -/
theorem spelled_of_readCreate (h : (readCreate fields).operation = .ok op) :
    Spelled .create fields op := by
  unfold readCreate at h
  split at h
  · split at h
    · exact absurd h (wrongCount_ne_ok _ _ _)
    · rename_i hlength
      split at h
      · exact absurd h (by simp [Reading.flagless])
      · rename_i r p q c hhead
        split at h
        · exact absurd h (by simp [Reading.flagless])
        · rename_i found hfound
          rcases bind_eq_ok_iff.mp h with ⟨suffix, hsuffix, h⟩
          obtain rfl := Except.ok.inj h
          obtain rfl := suffixes_any_eq_ok_iff.mp hfound
          obtain ⟨rfl, hfirst, hlast, hcontent⟩ := spelled_of_createHead hhead
          rcases Fields.mountedSuffix_eq_ok_iff.mp hsuffix with ⟨hsaid, hmounts⟩
          rw [List.length_map] at hlength
          exact .create hfirst hlast hcontent (Nat.le_of_not_lt hlength) hsaid hmounts
  · exact absurd h (wrongCount_ne_ok _ _ _)

/-- A token for a new partition names the disk, the role, two positions and the contents. -/
theorem readCreate_eq_ok_iff (hposition : ∀ f ∈ fields, ¬ Position.IsOverlong f) :
    (readCreate fields).operation = .ok op ↔ Spelled .create fields op := by
  refine ⟨spelled_of_readCreate, fun h => ?_⟩
  cases h with
  | @create disk first last content r p q c found suffix hfirst hlast hcontent hlength hsaid
      hmounts =>
      have hhead : createHead r.name first last content = .ok (r, p, q, c) := by
        rw [createHead_eq_ok_iff (hposition _ (by simp)) (hposition _ (by simp))]
        exact ⟨rfl, hfirst, hlast, hcontent⟩
      unfold readCreate
      dsimp only
      rw [if_neg (by rw [List.length_map]; omega), hhead]
      dsimp only
      rw [suffixes_any_eq_ok_iff.mpr rfl]
      exact bind_eq_ok_iff.mpr
        ⟨_, Fields.mountedSuffix_eq_ok_iff.mpr ⟨hsaid, hmounts⟩, rfl⟩

/-- The suffix fields of a logical volume have no keys and no empty values. -/
theorem allows_volume_iff {f : SuffixKey × String} :
    SuffixGrammar.volume.Allows f ↔ f.1 ≠ .keyId ∧ f.2 ≠ "" := by
  have hkey : f.1 ∈ SuffixGrammar.volume.keys ↔ f.1 ≠ .keyId := by
    cases f.1 <;> decide
  have hvalue : (SuffixGrammar.volume.allowsEmpty = false → f.2 ≠ "") ↔ f.2 ≠ "" :=
    ⟨fun h => h rfl, fun h _ => h⟩
  unfold SuffixGrammar.Allows
  rw [hkey, hvalue]

/-- A token for a logical volume names the group, the volume, its size and a file system that can
    be selected. -/
theorem readLogical_eq_ok_iff (hposition : ∀ f ∈ fields, ¬ Position.IsOverlong f) :
    (readLogical fields).operation = .ok op ↔ Spelled .logical fields op := by
  constructor
  · intro h
    unfold readLogical at h
    split at h
    · split at h
      · exact absurd h (wrongCount_ne_ok _ _ _)
      · rename_i hlength
        split at h
        · exact absurd h (by simp [Reading.flagless])
        · rename_i found hfound
          rcases bind_eq_ok_iff.mp h with ⟨fs, hfs, h⟩
          rcases bind_eq_ok_iff.mp h with ⟨p, hp, h⟩
          obtain rfl := Except.ok.inj h
          rcases Fields.suffixes_eq_ok_iff.mp hfound with ⟨rfl, hallows⟩
          rcases Fields.volumeFilesystem_eq_ok_iff.mp hfs with ⟨hselectable, rfl⟩
          -- What the suffix fields say needs no check, since none of them is a key.
          rw [List.length_map] at hlength
          exact .logical ((Position.ofToken_eq_ok_iff (hposition _ (by simp))).mp hp) hselectable
            (Nat.le_of_not_lt hlength) (fun f hf => allows_volume_iff.mp (hallows f hf))
            (Suffix.says_ofFields _)
    · exact absurd h (wrongCount_ne_ok _ _ _)
  · intro h
    cases h with
    | logical hsize hselectable hlength hfound hsaid =>
        have hsuffixes := Fields.suffixes_eq_ok_iff.mpr
          ⟨rfl, fun f hf => allows_volume_iff.mpr (hfound f hf)⟩
        obtain rfl := Suffix.says_iff.mp hsaid
        unfold readLogical
        dsimp only
        rw [if_neg (by rw [List.length_map]; omega), hsuffixes]
        refine bind_eq_ok_iff.mpr
          ⟨_, Fields.volumeFilesystem_eq_ok_iff.mpr ⟨hselectable, rfl⟩, ?_⟩
        exact bind_eq_ok_iff.mpr
          ⟨_, (Position.ofToken_eq_ok_iff (hposition _ (by simp))).mpr hsize, rfl⟩

end Readers

/-- How long a row of digits may be for every number of a token to be read, also after it
    has been converted. -/
def digitBound : Nat := 4000

/-- A token is read exactly if it follows the grammar of its kind, and then as what it
    spells. -/
theorem parse_eq_ok_iff_spelled (kind : Kind) {token : String}
    (h : Text.HasRowsWithin digitBound token) (op : Operation) :
    parse kind token = .ok op ↔ Spelled kind (Text.fields ':' token) op := by
  -- A field is a piece of its token, so no number in it is too long.
  have hnumber : ∀ f ∈ Text.fields ':' token, ¬ Fields.IsOverlong f :=
    fun _ hf => Fields.not_isOverlong h (by decide) hf
  have hposition : ∀ f ∈ Text.fields ':' token, ¬ Position.IsOverlong f :=
    fun _ hf => Position.not_isOverlong h (by decide) hf
  unfold parse read
  rw [mapError_eq_ok_iff]
  cases kind with
  | relabel => exact readRelabel_eq_ok_iff
  | delete => exact readDelete_eq_ok_iff hnumber
  | move => exact readMove_eq_ok_iff hnumber hposition
  | reuse => exact readReuse_eq_ok_iff hnumber
  | create => exact readCreate_eq_ok_iff hposition
  | logical => exact readLogical_eq_ok_iff hposition

/-- A mount point is given twice, the second time with an equals sign in it. The second one
    counts, and what follows the name of the group is ignored. -/
theorem parse_create_ofRepeated :
    let token := "sda:primary:-2048:+3MiB:lvm=vg,x:mount=/old:mount=/a=b"
    let op : Operation := .onDisk "sda" (.create .primary (.sectorFromEnd 2048) (.megabyte 3)
      (.physicalVolume ⟨"vg", none⟩) ⟨some (.parse "/a=b"), none, none⟩)
    Text.HasRowsWithin digitBound token ∧ Spelled .create (Text.fields ':' token) op ∧
      parse .create token = .ok op := by
  intro token op
  have hrows : Text.HasRowsWithin digitBound token :=
    Text.hasRowsWithin_of_length_le (by decide)
  let found : List (SuffixKey × String) := [(.mount, "/old"), (.mount, "/a=b")]
  have hfields : Text.fields ':' token =
      "sda" :: Role.primary.name :: "-2048" :: "+3MiB" :: "lvm=vg,x" ::
        found.map Suffix.spelling := by
    decide +kernel
  have hfirst : Position.Spelled "-2048" (.sectorFromEnd 2048) := .plain (by decide +kernel)
  have hlast : Position.Spelled "+3MiB" (.megabyte 3) :=
    @Position.Spelled.mebibytes "+3MiB" ['+'] ['3'] (by decide) (by decide) (by decide)
      (List.forall_mem_singleton.mpr (by decide))
  have hsaid : Suffix.Says found ⟨some (.parse "/a=b"), none, none⟩ :=
    Suffix.says_iff.mpr (by decide +kernel)
  have hmounts : Suffix.MountsKey found := Suffix.requireMount_ofFields_iff.mp (by decide +kernel)
  have hspelled : Spelled .create (Text.fields ':' token) op := by
    rw [hfields]
    exact .create hfirst hlast (by decide +kernel) (by decide) hsaid hmounts
  exact ⟨hrows, hspelled, (parse_eq_ok_iff_spelled .create hrows op).mpr hspelled⟩

end Operation

end DiskPlan
