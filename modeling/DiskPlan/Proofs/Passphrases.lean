import DiskPlan.Proofs.Masking
import DiskPlan.Proofs.Refusal
import Mathlib.Data.List.Forall2

/-!
# Passphrases in Tokens

Two tokens that differ in passphrases alone, and how they are read.

A passphrase is given in the field of a token that names the contents of a partition,
after `pass=`, as one of the credentials behind the name and the group of an encrypted
volume. Two such fields are read in parallel. Both of them are contents, the same but
for the passphrase, or both are refused, by problems of the same kind. The problems
themselves need not be the same: most of them quote the whole field.

## Main definitions

* `AnswersAlike`: Two answers that succeed or fail together.
* `Credentials.FieldsAlike`, `Content.FieldsAlike`: Two fields that differ in
  passphrases alone.
* `Kind.TokensAlike`: Two tokens that differ in passphrases alone.
* `Failure.Alike`: Two failures that differ in what is told of a token.
* `Reading.Alike`: Two readings that say the same but for passphrases.

## Theorems

* `AnswersAlike.bind`: Two chains run in parallel.
* `Content.parse_alike`: Contents that differ in passphrases are read in parallel.
* `Operation.read_alike`: So are tokens.
-/

namespace DiskPlan

/-! ### Two answers -/

/-- Two answers that are related successes or related failures. -/
inductive AnswersAlike {ε α : Type} (R : ε → ε → Prop) (S : α → α → Prop) :
    Except ε α → Except ε α → Prop
  | ok {a a' : α} (h : S a a') : AnswersAlike R S (.ok a) (.ok a')
  | error {e e' : ε} (h : R e e') : AnswersAlike R S (.error e) (.error e')

section AnswersAlike

variable {ε ε' α β : Type} {R : ε → ε → Prop} {R' : ε' → ε' → Prop} {S : α → α → Prop}
  {S' : β → β → Prop} {x x' : Except ε α}

theorem answersAlike_rfl (hR : ∀ e, R e e) (hS : ∀ a, S a a) (x : Except ε α) :
    AnswersAlike R S x x := by
  cases x with
  | error e => exact .error (hR e)
  | ok a => exact .ok (hS a)

/-- Two chains whose first links answer alike answer alike, if their second links do so on
    related values. A failure of the first link ends both of them. -/
theorem AnswersAlike.bind {f f' : α → Except ε β} (h : AnswersAlike R S x x')
    (hf : ∀ a a', S a a' → AnswersAlike R S' (f a) (f' a')) :
    AnswersAlike R S' (x >>= f) (x' >>= f') := by
  cases h with
  | ok ha => exact hf _ _ ha
  | error he => exact .error he

/-- Two chains that begin alike, each with the same first link. -/
theorem AnswersAlike.bind_left {f f' : α → Except ε β} (hR : ∀ e, R e e) (x : Except ε α)
    (hf : ∀ a, AnswersAlike R S' (f a) (f' a)) : AnswersAlike R S' (x >>= f) (x >>= f') := by
  cases x with
  | error e => exact .error (hR e)
  | ok a => exact hf a

theorem AnswersAlike.map {f f' : α → β} (h : AnswersAlike R S x x')
    (hf : ∀ a a', S a a' → S' (f a) (f' a')) : AnswersAlike R S' (x.map f) (x'.map f') := by
  cases h with
  | ok ha => exact .ok (hf _ _ ha)
  | error he => exact .error he

theorem AnswersAlike.mapError {f : ε → ε'} (h : AnswersAlike R S x x')
    (hf : ∀ e e', R e e' → R' (f e) (f e')) : AnswersAlike R' S (x.mapError f) (x'.mapError f) := by
  cases h with
  | ok ha => exact .ok ha
  -- A chain of two readers and a conversion is related link by link, so each reader below needs
  -- one lemma of this kind and is never looked into again.
  | error he => exact .error (hf _ _ he)

end AnswersAlike

/-! ### Fields -/

/-- Two fields with a credential that are the same, or both of them passphrases. -/
inductive Credentials.FieldsAlike : String → String → Prop
  | same (field : String) : FieldsAlike field field
  | passphrase {s s' : String} (h : s ≠ "") (h' : s' ≠ "") :
      FieldsAlike ("pass=" ++ s) ("pass=" ++ s')

/-- Two fields with the contents of a partition that ask for the same encrypted volume,
    with credentials that are the same but for passphrases. -/
inductive Content.FieldsAlike : String → String → Prop
  | encrypted {rest rest' device group : String} {credentials credentials' : List String}
      (h : Text.fields ',' rest = device :: group :: credentials)
      (h' : Text.fields ',' rest' = device :: group :: credentials')
      (hcredentials : List.Forall₂ Credentials.FieldsAlike credentials credentials') :
      FieldsAlike ("enc=" ++ rest) ("enc=" ++ rest')

/-- Two problems of one kind, which spell out the same numbers. -/
def SyntaxProblem.Alike (p p' : SyntaxProblem) : Prop :=
  p.name = p'.name ∧ p.numbers = p'.numbers

theorem SyntaxProblem.alike_rfl (p : SyntaxProblem) : p.Alike p := ⟨rfl, rfl⟩

/-- Credentials with their passphrase masked. -/
def Credentials.masked (c : Credentials) : Credentials :=
  { c with passphrase := c.passphrase.map fun _ => mask }

theorem Credentials.encryption?_masked (c : Credentials) (device : String) :
    c.masked.encryption? device = (c.encryption? device).map Encryption.masked := by
  rcases c with ⟨_ | passphrase, _ | keyFile⟩ <;> rfl

/-- One more credential keeps two sets of credentials the same but for passphrases. The
    credentials so far may already differ, so it is not enough that the fields are alike. -/
theorem Credentials.add_alike {c c' : Credentials} {field field' : String}
    (hc : c.masked = c'.masked) (hfield : FieldsAlike field field') :
    AnswersAlike SyntaxProblem.Alike (fun c c' : Credentials => c.masked = c'.masked)
      (c.add field) (c'.add field') := by
  have hparts := Credentials.mk.inj hc
  cases hfield with
  | same =>
      -- Whichever credential is given, the other one stays what it was. One that was given before
      -- is replaced, so the passphrases of the two sides may even meet here again.
      unfold add
      split
      · split
        · exact .error (SyntaxProblem.alike_rfl _)
        · exact .ok (congrArg (Credentials.mk (some mask)) hparts.2)
      · split
        · split
          · exact .error (SyntaxProblem.alike_rfl _)
          · exact .ok (congrArg (fun passphrase => Credentials.mk passphrase _) hparts.1)
        · exact .error (SyntaxProblem.alike_rfl _)
  | passphrase h h' =>
      unfold add
      -- Neither passphrase is empty, so both fields are taken.
      rw [Text.after?_append, Text.after?_append]
      dsimp only
      rw [if_neg h, if_neg h']
      exact .ok (congrArg (Credentials.mk (some mask)) hparts.2)

/-- Lists of credentials that are alike field by field are read in parallel. The induction is on
    the fields and takes any two starting points, since the first field may already set them
    apart. -/
theorem Credentials.foldlM_alike {fields fields' : List String}
    (h : List.Forall₂ FieldsAlike fields fields') {c c' : Credentials} (hc : c.masked = c'.masked) :
    AnswersAlike SyntaxProblem.Alike (fun c c' : Credentials => c.masked = c'.masked)
      (fields.foldlM add c) (fields'.foldlM add c') := by
  induction h generalizing c c' with
  | nil => exact .ok hc
  | cons hfield _ ih =>
      rw [List.foldlM_cons, List.foldlM_cons]
      exact (add_alike hc hfield).bind fun _ _ hadded => ih hadded

/-- Contents that differ in passphrases alone are read in parallel. The device and the group are
    the same on both sides, so both are refused for one of these or neither is; only the
    credentials have to be compared. -/
theorem Content.parse_alike {field field' : String} (h : FieldsAlike field field') :
    AnswersAlike SyntaxProblem.Alike (fun c c' : Content => c.masked = c'.masked)
      (parse field) (parse field') := by
  cases h with
  | @encrypted rest rest' device group credentials credentials' h h' hcredentials =>
      have hparsed := Credentials.foldlM_alike hcredentials (Eq.refl Credentials.none.masked)
      unfold parse
      rw [Text.after?_append, Text.after?_append]
      dsimp only
      rw [h, h']
      unfold ofEncryptedFields
      dsimp only
      split
      · exact .error ⟨rfl, rfl⟩
      · split
        · exact .error ⟨rfl, rfl⟩
        · -- Whether there is an encryption at all does not depend on the passphrase, but on
          -- whether one was given.
          refine hparsed.map fun c c' hc => ?_
          have hencryption : (c.encryption? device).map Encryption.masked =
              (c'.encryption? device).map Encryption.masked := by
            rw [← c.encryption?_masked, hc, c'.encryption?_masked]
          exact congrArg (fun e => physicalVolume ⟨group, e⟩) hencryption

/-- A field with an encrypted volume is not the word `reuse`. -/
theorem Content.FieldsAlike.ne_reuse {field field' : String} (h : FieldsAlike field field') :
    field ≠ "reuse" ∧ field' ≠ "reuse" := by
  -- The word is decided, the field is not, so the field is not compared with it letter by letter.
  have hne : ∀ rest, "enc=" ++ rest ≠ "reuse" := by
    intro rest hsame
    have hafter := Text.after?_append "enc=" rest
    rw [hsame] at hafter
    have hother : Text.after? "enc=" "reuse" = none := by decide
    rw [hother] at hafter
    exact absurd hafter (by simp only [reduceCtorEq, not_false_eq_true])
  cases h with
  | encrypted => exact ⟨hne _, hne _⟩

/-! ### Failures -/

/-- Two failures that are the same, or both faults of syntax of one kind. The second case is
    needed because most problems quote the field, with the passphrase in it. -/
inductive Failure.Alike : Failure → Failure → Prop
  | same (f : Failure) : Alike f f
  | badSyntax {p p' : SyntaxProblem} (h : p.name = p'.name) :
      Alike (.problem ⟨.badSyntax p, none⟩) (.problem ⟨.badSyntax p', none⟩)

theorem SyntaxProblem.Alike.ofSyntax {p p' : SyntaxProblem} (h : p.Alike p') :
    (Failure.ofSyntax p).Alike (.ofSyntax p') := by
  -- Whether a failure can be told depends on its numbers, and these are the same.
  have hnumbers : (Problem.badSyntax p).numbers = (Problem.badSyntax p').numbers := h.2
  unfold Failure.ofSyntax Failure.ofProblem
  simp only [hnumbers]
  split
  · exact .badSyntax h.1
  · exact .same _

namespace Fields

theorem content_alike {field field' : String} (h : Content.FieldsAlike field field') :
    AnswersAlike Failure.Alike (fun c c' : Content => c.masked = c'.masked)
      (content field) (content field') :=
  (Content.parse_alike h).mapError fun _ _ hp => hp.ofSyntax

theorem optionalContent_alike {field field' : String} (h : Content.FieldsAlike field field') :
    AnswersAlike Failure.Alike
      (fun c c' : Option Content => c.map Content.masked = c'.map Content.masked)
      (optionalContent field) (optionalContent field') := by
  unfold optionalContent
  rw [if_neg h.ne_reuse.1, if_neg h.ne_reuse.2]
  exact (content_alike h).map fun _ _ hc => congrArg some hc

/-- A logical volume cannot be encrypted, whatever the passphrase, so both fields are refused.
    What is left to compare is a file system, and that is the same on both sides. -/
theorem volumeFilesystem_alike {field field' : String} (h : Content.FieldsAlike field field') :
    AnswersAlike Failure.Alike Eq (volumeFilesystem field) (volumeFilesystem field') := by
  have hparsed := Content.parse_alike h
  unfold volumeFilesystem
  generalize Content.parse field = x at hparsed
  generalize Content.parse field' = x' at hparsed
  cases hparsed with
  | error hp => exact .error hp.ofSyntax
  | @ok c c' hc =>
      rcases c with fs | m <;> rcases c' with fs' | m'
      · exact .ok (Content.plain.inj hc)
      · exact absurd hc (by simp only [Content.masked, reduceCtorEq, not_false_eq_true])
      · exact absurd hc (by simp only [Content.masked, reduceCtorEq, not_false_eq_true])
      · exact .error (SyntaxProblem.Alike.ofSyntax ⟨rfl, rfl⟩)

end Fields

/-! ### Tokens -/

/-- Where the contents of a partition stand among the fields of a token. -/
def Kind.contentField? : Kind → Option Nat
  | .reuse => some 2
  | .create => some 4
  | .logical => some 3
  | _ => none

/-- Two tokens of a kind that differ in passphrases alone. -/
inductive Kind.TokensAlike (kind : Kind) : String → String → Prop
  | same (token : String) : TokensAlike kind token token
  | content {token token' field field' : String} {before after : List String}
      (hplace : kind.contentField? = some before.length)
      (h : Text.fields ':' token = before ++ field :: after)
      (h' : Text.fields ':' token' = before ++ field' :: after)
      (hfield : Content.FieldsAlike field field') : TokensAlike kind token token'

/-- Two readings that say the same but for passphrases. -/
structure Reading.Alike (r r' : Reading) : Prop where
  ignoredFlags : r.ignoredFlags = r'.ignoredFlags
  operation : AnswersAlike Failure.Alike (fun op op' : Operation => op.masked = op'.masked)
    r.operation r'.operation

theorem Reading.alike_rfl (r : Reading) : r.Alike r :=
  ⟨rfl, answersAlike_rfl .same (fun op => Eq.refl op.masked) r.operation⟩

namespace Operation

variable {field field' : String}

theorem readReuse_alike (h : Content.FieldsAlike field field') (disk number : String)
    (suffixes : List String) :
    (readReuse (disk :: number :: field :: suffixes)).Alike
      (readReuse (disk :: number :: field' :: suffixes)) := by
  unfold readReuse
  dsimp only
  split
  · exact Reading.alike_rfl _
  · split
    · exact Reading.alike_rfl _
    · rename_i found _
      refine ⟨rfl, ?_⟩
      refine AnswersAlike.bind_left .same _ fun suffix => ?_
      refine AnswersAlike.bind_left .same _ fun number => ?_
      refine (Fields.optionalContent_alike h).bind fun c c' hc => .ok ?_
      exact congrArg (fun c => onDisk disk (.reuse number c suffix)) hc

/-- The fields that stand before the suffixes of a new partition are read in parallel. The
    contents come last among them, so whatever fails before fails on both sides alike. -/
theorem createHead_alike (h : Content.FieldsAlike field field') (role first last : String) :
    AnswersAlike Failure.Alike
      (fun head head' : Role × Position × Position × Content =>
        (head.1, head.2.1, head.2.2.1, head.2.2.2.masked) =
          (head'.1, head'.2.1, head'.2.2.1, head'.2.2.2.masked))
      (createHead role first last field) (createHead role first last field') := by
  unfold createHead
  refine AnswersAlike.bind_left .same _ fun role => ?_
  refine AnswersAlike.bind_left .same _ fun first => ?_
  refine AnswersAlike.bind_left .same _ fun last => ?_
  exact (Fields.content_alike h).bind fun c c' hc =>
    .ok (congrArg (fun c => (role, first, last, c)) hc)

theorem readCreate_alike (h : Content.FieldsAlike field field') (disk role first last : String)
    (suffixes : List String) :
    (readCreate (disk :: role :: first :: last :: field :: suffixes)).Alike
      (readCreate (disk :: role :: first :: last :: field' :: suffixes)) := by
  have hhead := createHead_alike h role first last
  unfold readCreate
  dsimp only
  split
  · exact Reading.alike_rfl _
  · -- The reader looks at both heads at once, so they are taken apart together, and everything but
    -- the contents is made equal before the suffixes are read.
    generalize createHead role first last field = x at hhead
    generalize createHead role first last field' = x' at hhead
    cases hhead with
    | error he => exact ⟨rfl, .error he⟩
    | @ok head head' hsame =>
        rcases head with ⟨role, first, last, c⟩
        rcases head' with ⟨role', first', last', c'⟩
        simp only [Prod.mk.injEq] at hsame
        rcases hsame with ⟨rfl, rfl, rfl, hc⟩
        dsimp only
        split
        · exact Reading.alike_rfl _
        · refine ⟨rfl, AnswersAlike.bind_left .same _ fun suffix => .ok ?_⟩
          exact congrArg (fun c => onDisk disk (.create role first last c suffix)) hc

theorem readLogical_alike (h : Content.FieldsAlike field field') (group name size : String)
    (suffixes : List String) :
    (readLogical (group :: name :: size :: field :: suffixes)).Alike
      (readLogical (group :: name :: size :: field' :: suffixes)) := by
  unfold readLogical
  dsimp only
  split
  · exact Reading.alike_rfl _
  · split
    · exact Reading.alike_rfl _
    · refine ⟨rfl, (Fields.volumeFilesystem_alike h).bind fun filesystem _ hsame => ?_⟩
      rw [← hsame]
      exact AnswersAlike.bind_left .same _ fun size => .ok rfl

/-- Tokens that differ in passphrases alone say the same but for passphrases. The only kinds of
    tokens with contents are those that reuse or create a partition and those that create a
    volume; all others have nowhere to put a passphrase. -/
theorem read_alike {kind : Kind} {token token' : String} (h : kind.TokensAlike token token') :
    (read kind token).Alike (read kind token') := by
  cases h with
  | same => exact Reading.alike_rfl _
  | @content _ field field' before after hplace h h' hfield =>
      unfold read
      rw [h, h']
      -- What stands in front of the contents is told by their place.
      cases kind with
      | reuse =>
          have htwo := (Option.some.inj hplace).symm
          rcases List.length_eq_two.mp htwo with ⟨disk, number, rfl⟩
          exact readReuse_alike hfield disk number after
      | create =>
          have hfour := (Option.some.inj hplace).symm
          rcases List.length_eq_four.mp hfour with ⟨disk, role, first, last, rfl⟩
          exact readCreate_alike hfield disk role first last after
      | logical =>
          have hthree := (Option.some.inj hplace).symm
          rcases List.length_eq_three.mp hthree with ⟨group, name, size, rfl⟩
          exact readLogical_alike hfield group name size after
      | _ =>
          exact absurd hplace (by simp only [Kind.contentField?, reduceCtorEq, not_false_eq_true])

end Operation

end DiskPlan
