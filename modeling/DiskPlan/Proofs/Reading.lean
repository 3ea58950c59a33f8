import DiskPlan.Operation
import DiskPlan.Proofs.ContentGrammar
import DiskPlan.Proofs.Outcome

/-!
# What Tokens Can Ask For

The operations that tokens of a kind stand for, without the grammar.

An operation as such can hold anything: a partition reused as a physical volume
under a plain name, a key without a mount point. No token says so. A fact about
every token is therefore a fact about the operations that tokens can ask for, and
`Asked` lists those by kind, each with what the grammar promises of its parts.
`asked_of_read` is the one place where the readers of the six kinds are opened.

## Main definitions

* `Content.Asked`, `Suffix.Asked`: Contents and suffix fields of some token.
* `Operation.Asked`: The operations that tokens of a kind stand for.

## Theorems

* `Content.isSelectable_of_asked`: A filesystem asked for by name is selectable.
* `Content.target_eq_lvm_iff`: Only a physical volume is formatted as one.
* `Operation.asked_of_read`: A token asks for an operation of its kind.
-/

namespace DiskPlan

namespace Content

/-- Contents that some field asks for. What is not written in any field, such as a plain
    filesystem that is a physical volume, is no contents of an operation. -/
def Asked (c : Content) : Prop :=
  ∃ field, Content.parse field = .ok c

/-- A filesystem asked for by name is selectable. The two other forms of the field
    lead to physical volumes alone. -/
theorem isSelectable_of_asked {fs : Filesystem} (h : (Content.plain fs).Asked) :
    fs.isSelectable = true := by
  rcases h with ⟨field, h⟩
  cases parse_eq_ok_iff.mp h with
  | plain hselectable => exact hselectable

/-- Only a physical volume is formatted as one, so the format of a partition tells whether it is
    a member of a group. -/
theorem target_eq_lvm_iff {c : Content} (h : c.Asked) :
    -- A plain filesystem of that kind cannot be selected by name.
    c.target = .lvm ↔ ∃ m, c = .physicalVolume m := by
  cases c with
  | plain fs =>
      constructor
      · intro hfs
        have hsel : Filesystem.lvm.isSelectable = true := by
          rw [← show fs = .lvm from hfs]
          exact isSelectable_of_asked h
        exact absurd hsel Bool.false_ne_true
      · rintro ⟨m, hm⟩
        exact absurd hm (by simp only [reduceCtorEq, not_false_eq_true])
  | physicalVolume m => exact ⟨fun _ => ⟨m, rfl⟩, fun _ => rfl⟩

end Content

/-- What some list of suffix fields says, a key only with a mount point. The list does not
    matter, since what it says is what an operation keeps of it. -/
def Suffix.Asked (s : Suffix) : Prop :=
  ∃ fields, Fields.mountedSuffix fields = .ok s

/-- The word for contents that are kept leads to none, so whatever contents there are come from a
    field. -/
theorem asked_of_optionalContent {field : String} {content : Option Content}
    (h : Fields.optionalContent field = .ok content) : ∀ c ∈ content, c.Asked := by
  unfold Fields.optionalContent at h
  split at h
  · obtain rfl : none = content := Except.ok.inj h
    exact fun c hc => absurd hc (Option.not_mem_none c)
  · rcases map_eq_ok_iff.mp h with ⟨found, hfound, rfl⟩
    intro c hc
    obtain rfl : found = c := Option.mem_some_iff.mp hc
    exact ⟨field, mapError_eq_ok_iff.mp hfound⟩

namespace Operation

/-- The operations that tokens of a kind stand for, with what the grammar promises of their
    parts. Numbers, positions and sizes may be any, since the grammar does not bound them. -/
inductive Asked : Kind → Operation → Prop
  | relabel (disk : String) (table : TableKind) : Asked .relabel (.onDisk disk (.relabel table))
  | delete (disk : String) (numbers : List Nat) : Asked .delete (.onDisk disk (.delete numbers))
  | move (disk : String) (number : Nat) (first last : Option Position) :
      Asked .move (.onDisk disk (.move number first last))
  | reuse (disk : String) (number : Nat) {content : Option Content} {suffix : Suffix}
      (hcontent : ∀ c ∈ content, c.Asked) (hsuffix : suffix.Asked) :
      Asked .reuse (.onDisk disk (.reuse number content suffix))
  | create (disk : String) (role : Role) (first last : Position) {content : Content}
      {suffix : Suffix} (hcontent : content.Asked) (hsuffix : suffix.Asked) :
      Asked .create (.onDisk disk (.create role first last content suffix))
  | logical (group : String) (volume : NewVolume) : Asked .logical (.onGroup group volume)

theorem asked_of_readRelabel {fields : List String} {op : Operation}
    (h : (readRelabel fields).operation = .ok op) : op.Asked .relabel := by
  unfold readRelabel at h
  split at h
  · rcases bind_eq_ok_iff.mp h with ⟨table, _, h⟩
    obtain rfl := Except.ok.inj h
    exact .relabel _ table
  · exact absurd h (by simp [Reading.wrongCount, Reading.flagless])

theorem asked_of_readDelete {fields : List String} {op : Operation}
    (h : (readDelete fields).operation = .ok op) : op.Asked .delete := by
  unfold readDelete at h
  split at h
  · rcases bind_eq_ok_iff.mp h with ⟨numbers, _, h⟩
    obtain rfl := Except.ok.inj h
    exact .delete _ numbers
  · exact absurd h (by simp [Reading.wrongCount, Reading.flagless])

theorem asked_of_readMove {fields : List String} {op : Operation}
    (h : (readMove fields).operation = .ok op) : op.Asked .move := by
  unfold readMove at h
  split at h
  · rcases bind_eq_ok_iff.mp h with ⟨number, _, h⟩
    rcases bind_eq_ok_iff.mp h with ⟨first, _, h⟩
    rcases bind_eq_ok_iff.mp h with ⟨last, _, h⟩
    obtain rfl := Except.ok.inj h
    exact .move _ number first last
  · exact absurd h (by simp [Reading.wrongCount, Reading.flagless])

theorem asked_of_readReuse {fields : List String} {op : Operation}
    (h : (readReuse fields).operation = .ok op) : op.Asked .reuse := by
  unfold readReuse at h
  split at h
  · -- The suffixes are cut off and read before the fields in front of them are read.
    split at h
    · exact absurd h (by simp [Reading.wrongCount, Reading.flagless])
    · split at h
      · exact absurd h (by simp [Reading.flagless])
      · rename_i found _
        rcases bind_eq_ok_iff.mp h with ⟨suffix, hsuffix, h⟩
        rcases bind_eq_ok_iff.mp h with ⟨number, _, h⟩
        rcases bind_eq_ok_iff.mp h with ⟨content, hcontent, h⟩
        obtain rfl := Except.ok.inj h
        exact .reuse _ number (asked_of_optionalContent hcontent) ⟨found, hsuffix⟩
  · exact absurd h (by simp [Reading.wrongCount, Reading.flagless])

/-- Of the head of a create token only the contents are bound by the grammar. -/
theorem asked_of_createHead {role first last content : String}
    {head : Role × Position × Position × Content}
    (h : createHead role first last content = .ok head) : head.2.2.2.Asked := by
  unfold createHead at h
  rcases bind_eq_ok_iff.mp h with ⟨role', _, h⟩
  rcases bind_eq_ok_iff.mp h with ⟨first', _, h⟩
  rcases bind_eq_ok_iff.mp h with ⟨last', _, h⟩
  rcases bind_eq_ok_iff.mp h with ⟨content', hcontent, h⟩
  obtain rfl := Except.ok.inj h
  exact ⟨content, mapError_eq_ok_iff.mp hcontent⟩

theorem asked_of_readCreate {fields : List String} {op : Operation}
    (h : (readCreate fields).operation = .ok op) : op.Asked .create := by
  unfold readCreate at h
  split at h
  · split at h
    · exact absurd h (by simp [Reading.wrongCount, Reading.flagless])
    · split at h
      · exact absurd h (by simp [Reading.flagless])
      · rename_i head hhead
        split at h
        · exact absurd h (by simp [Reading.flagless])
        · rename_i found _
          rcases bind_eq_ok_iff.mp h with ⟨suffix, hsuffix, h⟩
          obtain rfl := Except.ok.inj h
          exact .create _ _ _ _ (asked_of_createHead hhead) ⟨found, hsuffix⟩
  · exact absurd h (by simp [Reading.wrongCount, Reading.flagless])

theorem asked_of_readLogical {fields : List String} {op : Operation}
    (h : (readLogical fields).operation = .ok op) : op.Asked .logical := by
  unfold readLogical at h
  split at h
  · split at h
    · exact absurd h (by simp [Reading.wrongCount, Reading.flagless])
    · split at h
      · exact absurd h (by simp [Reading.flagless])
      · rcases bind_eq_ok_iff.mp h with ⟨filesystem, _, h⟩
        rcases bind_eq_ok_iff.mp h with ⟨size, _, h⟩
        obtain rfl := Except.ok.inj h
        exact .logical _ _
  · exact absurd h (by simp [Reading.wrongCount, Reading.flagless])

/-- A token asks for an operation of its kind. So a stage that is made of tokens of one kind is
    made of operations of that kind, with parts that the grammar promises. -/
theorem asked_of_read {kind : Kind} {token : String} {op : Operation}
    (h : (read kind token).operation = .ok op) : op.Asked kind := by
  -- Each kind has a grammar of its own.
  cases kind with
  | relabel => exact asked_of_readRelabel h
  | delete => exact asked_of_readDelete h
  | move => exact asked_of_readMove h
  | reuse => exact asked_of_readReuse h
  | create => exact asked_of_readCreate h
  | logical => exact asked_of_readLogical h

end Operation

end DiskPlan
