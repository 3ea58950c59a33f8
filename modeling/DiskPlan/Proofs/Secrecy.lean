import DiskPlan.Proofs.Passphrases
import DiskPlan.Proofs.VolumeGroups

/-!
# Secrecy of Passphrases

Two plans that are asked for in the same way but for passphrases.

The two plans are made side by side. As long as nothing fails, the topologies are the
same once passphrases are masked, and the logs are the same as they are. So whoever
reads a plan that succeeded, in any of the forms in which it is shown, or the log of
how it was made, learns nothing of a passphrase.

A failure is told less carefully. It names the token that it arose from, whole, and
some of the messages quote the field with the contents. The two plans fail at the same
place with failures of the same kind, and all that the log tells before is the same.
The last event differs exactly if the failure records a token, and the token is one
in which the passphrases differ.

## Main definitions

* `Requests.Alike`: Two plans that are asked for in the same way but for passphrases.
* `Failure.SameButToken`: Two failures that are the same up to a token.
* `Outcome.Twins`: Two outcomes that are the same but for passphrases.

## Theorems

* `Outcome.Twins.andThen`: Two chains side by side.
* `applyToken_twins`, `applyTokens_twins`: Tokens that differ in passphrases.
* `configure_twins`: Plans that differ in passphrases.
* `configure_alike`: What succeeds keeps its passphrases to itself.
* `configure_log_of_error`: What fails tells the token that it fails for.
-/

namespace DiskPlan

/-- Two plans that are asked for in the same way but for passphrases. -/
structure Requests.Alike (r r' : Requests) : Prop where
  disks : r.disks = r'.disks
  tokens : ∀ kind, List.Forall₂ kind.TokensAlike (r.tokens kind) (r'.tokens kind)

/-! ### Failures of tokens -/

/-- Two failures of lists of tokens of a kind that are the same, or that record the
    tokens at one place of the lists, which are not the same. -/
def Failure.SameButToken (kind : Kind) (tokens tokens' : List String) (f f' : Failure) : Prop :=
  f = f' ∨ ∃ p ∈ tokens.zip tokens', p.1 ≠ p.2 ∧ f.name = f'.name ∧
    f.origin? = some ⟨kind.name, p.1⟩ ∧ f'.origin? = some ⟨kind.name, p.2⟩

/-- Two failures that are alike are the same up to the token once each records its own. A failure
    of syntax quotes the passphrase, but its name is the same, and with the token it records the
    two are told apart anyway. -/
theorem Failure.Alike.within {kind : Kind} {token token' : String} {f f' : Failure}
    (h : f.Alike f') (hbare : f.IsBare) (htoken : token ≠ token') :
    SameButToken kind [token] [token'] (f.within ⟨kind.name, token⟩)
      (f'.within ⟨kind.name, token'⟩) := by
  have hpair : (token, token') ∈ [token].zip [token'] := List.mem_singleton_self _
  cases h with
  | same =>
      -- A failure that is not about the token does not record it.
      cases habout : f.isAboutToken with
      | false =>
          rw [within_of_not_isAboutToken habout, within_of_not_isAboutToken habout]
          exact Or.inl rfl
      | true =>
          refine Or.inr ⟨_, hpair, htoken, ?_, ?_, ?_⟩
          · rw [name_within, name_within]
          · rw [origin?_within hbare, if_pos habout]
          · rw [origin?_within hbare, if_pos habout]
  | badSyntax hname => exact Or.inr ⟨_, hpair, htoken, hname, rfl, rfl⟩

/-- Failures that are the same up to a token have the same name. -/
theorem Failure.SameButToken.name {kind : Kind} {tokens tokens' : List String} {f f' : Failure}
    (h : SameButToken kind tokens tokens' f f') : f.name = f'.name := by
  rcases h with rfl | ⟨_, _, _, hname, _⟩
  · rfl
  · exact hname

/-! ### Two outcomes -/

namespace Outcome

/-- Two outcomes that are the same but for passphrases, and for what is told of a
    failure, in the answer and behind the other events of the log. -/
inductive Twins (R : Failure → Failure → Prop) (Told : (Failure → List Event) → Prop) :
    Outcome Topology Unit → Outcome Topology Unit → Prop
  | done {t t' : Topology} (log : List Event) (hstate : t.masked = t'.masked) :
      Twins R Told ⟨t, log, .ok ()⟩ ⟨t', log, .ok ()⟩
  | failed {t t' : Topology} {f f' : Failure} {ending : Failure → List Event} (log : List Event)
      (hstate : t.masked = t'.masked) (htold : Told ending) (hfailure : R f f') :
      Twins R Told ⟨t, log ++ ending f, .error f⟩ ⟨t', log ++ ending f', .error f'⟩

/-- The end of a log that does not tell of the failure. -/
def Untold (ending : Failure → List Event) : Prop :=
  ending = fun _ => []

/-- The end of a log that tells of the failure as the failure of a stage. -/
def ToldByStage (ending : Failure → List Event) : Prop :=
  ∃ stage, ending = fun f => [.stageFailed stage f]

variable {R R' : Failure → Failure → Prop} {Told : (Failure → List Event) → Prop}
  {o o' : Outcome Topology Unit}

/-- Twins stay twins when less is asked of their failures. -/
theorem Twins.mono (h : Twins R Told o o') (hR : ∀ f f', R f f' → R' f f') :
    Twins R' Told o o' := by
  cases h with
  | done log hstate => exact .done log hstate
  | failed log hstate htold hfailure => exact .failed log hstate htold (hR _ _ hfailure)

/-- Two outcomes that fail without a word of it in the log. What is behind the other events of
    the log is nothing at all here. -/
theorem Twins.failed_untold {t t' : Topology} {f f' : Failure} (log : List Event)
    (hstate : t.masked = t'.masked) (hfailure : R f f') :
    Twins R Untold ⟨t, log, .error f⟩ ⟨t', log, .error f'⟩ := by
  have hending : Untold fun _ => [] := rfl
  have htwins : Twins R Untold ⟨t, log ++ [], .error f⟩ ⟨t', log ++ [], .error f'⟩ :=
    .failed log hstate hending hfailure
  rw [List.append_nil] at htwins
  exact htwins

/-- Outcomes that are the same once passphrases are masked. Masking leaves the log and the answer
    alone, so these are the same as they are. -/
theorem twins_of_image_eq (hR : ∀ f, R f f)
    (h : o.image Topology.masked id = o'.image Topology.masked id) : Twins R Untold o o' := by
  rcases o with ⟨t, log, answer⟩
  rcases o' with ⟨t', log', answer'⟩
  rcases Outcome.mk.inj h with ⟨hstate, hlog, hanswer⟩
  dsimp only at hstate hlog hanswer
  subst hlog
  cases answer with
  | ok a =>
      cases answer' with
      | ok a' => exact .done log hstate
      | error f' =>
          exact absurd hanswer (by simp only [Except.map, reduceCtorEq, not_false_eq_true])
  | error f =>
      cases answer' with
      | ok a' => exact absurd hanswer (by simp only [Except.map, reduceCtorEq, not_false_eq_true])
      | error f' =>
          obtain rfl : f = f' := Except.error.inj hanswer
          exact .failed_untold log hstate (hR f)

/-- The same events in front of both logs keep the outcomes twins. -/
theorem Twins.logging (h : Twins R Told o o') (events : List Event) :
    Twins R Told (o.logging events) (o'.logging events) := by
  cases h with
  | done log hstate => exact .done (events ++ log) hstate
  | failed log hstate htold hfailure =>
      unfold Outcome.logging
      rw [← List.append_assoc, ← List.append_assoc]
      exact .failed (events ++ log) hstate htold hfailure

/-- Two chains side by side, the second links of which start from topologies that are the same
    but for passphrases. If the first links fail, the second ones are not reached on either side. -/
theorem Twins.andThen {next next' : Topology → Unit → Outcome Topology Unit}
    (h : Twins R Told o o')
    (hnext : ∀ {t t' : Topology}, t.masked = t'.masked → Twins R Told (next t ()) (next' t' ())) :
    Twins R Told (o.andThen next) (o'.andThen next') := by
  cases h with
  | done log hstate => exact (hnext hstate).logging log
  | failed log hstate htold hfailure => exact .failed log hstate htold hfailure

/-- A stage tells of the failure of what is done in it. -/
theorem Twins.bracket (h : Twins R Untold o o') (stage : Stage) :
    Twins R ToldByStage (o.bracket stage) (o'.bracket stage) := by
  cases h with
  | done log hstate => exact .done _ hstate
  | failed log hstate htold hfailure =>
      -- What is done in a stage has not told of its failure yet, so the stage is the first that
      -- does.
      rw [htold]
      unfold Outcome.bracket
      dsimp only
      rw [List.append_nil]
      have hended : ToldByStage fun f => [.stageFailed stage f] := ⟨stage, rfl⟩
      exact .failed (.stageStarted stage :: log) hstate hended hfailure

/-- What is done for two tokens records them. Neither the state nor the log is touched, and of
    the failures it has to be known that nothing is recorded in them yet. -/
theorem Twins.within {P : Failure → Prop} {origin origin' : Origin} (h : Twins R Untold o o')
    (hP : FailsWith P o.answer)
    (hR : ∀ f f', P f → R f f' → R' (f.within origin) (f'.within origin')) :
    Twins R' Untold (o.within origin) (o'.within origin') := by
  cases h with
  | done log hstate => exact .done log hstate
  | @failed _ _ f f' _ log hstate htold hfailure =>
      rw [htold]
      exact .failed_untold (log ++ []) hstate (hR f f' (hP f rfl) hfailure)

end Outcome

open Outcome

/-! ### Tokens -/

/-- Operations that are the same but for passphrases do the same but for passphrases, since an
    operation never looks at one. -/
theorem Operation.run_twins {op op' : Operation} (hop : op.masked = op'.masked)
    {t t' : Topology} (ht : t.masked = t'.masked) : Twins Eq Untold (op.run t) (op'.run t') := by
  refine twins_of_image_eq Eq.refl ?_
  rw [← op.run_masked, hop, ht, op'.run_masked]

/-- Readings that say the same but for passphrases, carried out side by side. -/
theorem Reading.run_twins {R : Failure → Failure → Prop} (hR : ∀ f, R f f) {r r' : Reading}
    (hflags : r.ignoredFlags = r'.ignoredFlags)
    (h : AnswersAlike R (fun op op' : Operation => op.masked = op'.masked) r.operation r'.operation)
    (kind : Kind) {t t' : Topology} (ht : t.masked = t'.masked) :
    Twins R Untold (r.run kind t) (r'.run kind t') := by
  rcases r with ⟨ignored, x⟩
  rcases r' with ⟨ignored', x'⟩
  dsimp only at hflags h
  unfold run
  dsimp only
  rw [hflags]
  refine Twins.logging ?_ _
  cases h with
  | error hf => exact .failed_untold [] ht hf
  | @ok op op' hop =>
      -- What is logged of an operation leaves the passphrase out, so the events are the same.
      have hwords : op.describe = op'.describe := by
        rw [← op.describe_masked, hop, op'.describe_masked]
      have hrun : Twins R Untold (op.run t) (op'.run t') := by
        refine (Operation.run_twins hop ht).mono ?_
        rintro f _ rfl
        exact hR f
      unfold Outcome.andThen Outcome.ofExcept
      dsimp only
      rw [hwords]
      exact hrun.logging [.operationApplied kind.name op'.describe]

/-- Tokens that differ in passphrases do the same but for passphrases. -/
theorem applyToken_twins {kind : Kind} {token token' : String} (h : kind.TokensAlike token token')
    {t t' : Topology} (ht : t.masked = t'.masked) :
    Twins (Failure.SameButToken kind [token] [token']) Untold (applyToken kind token t)
      (applyToken kind token' t') := by
  have hbare := Reading.failsWith_run kind token t
  have hread := Operation.read_alike h
  by_cases htoken : token = token'
  · -- A token that is the same in both plans fails in the same way, so it tells nothing.
    subst htoken
    have hsame : AnswersAlike Eq (fun op op' : Operation => op.masked = op'.masked)
        (Operation.read kind token).operation (Operation.read kind token).operation :=
      answersAlike_rfl Eq.refl (fun op => Eq.refl op.masked) _
    refine (Reading.run_twins Eq.refl rfl hsame kind ht).within hbare ?_
    rintro f _ _ rfl
    exact Or.inl rfl
  · refine (Reading.run_twins .same hread.ignoredFlags hread.operation kind ht).within hbare ?_
    exact fun f f' hf hsame => hsame.within hf htoken

/-- Lists of tokens that differ in passphrases do the same but for passphrases. The induction is
    on the pairs of tokens, from any two topologies that differ in passphrases. -/
theorem applyTokens_twins {kind : Kind} {tokens tokens' : List String}
    (h : List.Forall₂ kind.TokensAlike tokens tokens') {t t' : Topology}
    (ht : t.masked = t'.masked) :
    Twins (Failure.SameButToken kind tokens tokens') Untold (applyTokens kind tokens t)
      (applyTokens kind tokens' t') := by
  induction h generalizing t t' with
  | nil => exact .done [] ht
  | @cons token token' rest rest' htoken _ ih =>
      rw [applyTokens, applyTokens]
      refine Twins.andThen ?_ fun ht' => ?_
      · -- A failure of the first token is one of the whole list, with its token at the first
        -- place.
        refine (applyToken_twins htoken ht).mono fun f f' hsame => ?_
        rcases hsame with hsame | ⟨p, hp, hother⟩
        · exact Or.inl hsame
        · rw [List.mem_singleton.mp hp] at hother
          exact Or.inr ⟨_, List.mem_cons_self, hother⟩
      · -- A failure of the others has its token one place further on.
        refine (ih ht').mono fun f f' hsame => ?_
        rcases hsame with hsame | ⟨p, hp, hother⟩
        · exact Or.inl hsame
        · exact Or.inr ⟨p, List.mem_cons_of_mem _ hp, hother⟩

/-! ### Plans -/

/-- Two failures of plans that are the same up to a token. -/
def Requests.SameButToken (r r' : Requests) (f f' : Failure) : Prop :=
  ∃ kind : Kind, Failure.SameButToken kind (r.tokens kind) (r'.tokens kind) f f'

section Plans

variable {r r' : Requests} {t t' : Topology}

/-- A stage does the same but for passphrases. It is left out on both sides or on neither, and
    what it logs of itself is the number of its tokens. -/
theorem stage_twins (h : r.Alike r') (kind : Kind) (ht : t.masked = t'.masked) :
    Twins (r.SameButToken r') ToldByStage (r.stage kind t) (r'.stage kind t') := by
  have hlength := (h.tokens kind).length_eq
  have hstage : r.operations kind = r'.operations kind := by
    unfold Requests.operations
    rw [hlength]
  have hempty : (r.tokens kind).isEmpty = (r'.tokens kind).isEmpty := by
    rw [Bool.eq_iff_iff, List.isEmpty_iff_length_eq_zero, hlength,
      List.isEmpty_iff_length_eq_zero]
  unfold Requests.stage
  rw [hempty, hstage]
  split
  · exact .done [] ht
  · refine Twins.bracket ?_ _
    exact (applyTokens_twins (h.tokens kind) ht).mono fun f f' hsame => ⟨kind, hsame⟩

/-- So do several stages in a row. -/
theorem stages_twins (h : r.Alike r') (kinds : List Kind) (ht : t.masked = t'.masked) :
    Twins (r.SameButToken r') ToldByStage (r.stages kinds t) (r'.stages kinds t') := by
  induction kinds generalizing t t' with
  | nil => exact .done [] ht
  | cons kind rest ih => exact (stage_twins h kind ht).andThen fun ht' => ih ht'

/-- What is logged at the end of a plan are the number of disks and the names of groups, and
    these have nothing to do with passphrases. -/
theorem configured_eq (ht : t.masked = t'.masked) : configured t = configured t' := by
  have hmasked : ∀ t : Topology, configured t.masked = configured t := by
    intro t
    unfold configured sortedGroupNames Topology.masked
    rw [List.length_map, List.map_map]
    rfl
  rw [← hmasked, ht, hmasked]

/-- Plans that are asked for in the same way but for passphrases are the same but for
    passphrases, and so are their logs but for what is told of a failure. -/
theorem configure_twins (probe : Probe) (h : r.Alike r') :
    Twins (r.SameButToken r') ToldByStage (configure probe r) (configure probe r') := by
  -- Where there is no token to record, the failures of the two plans are the same.
  have hrefl : ∀ f, r.SameButToken r' f f := fun f => ⟨.relabel, Or.inl rfl⟩
  have hregistration : r.registration = r'.registration := by
    unfold Requests.registration
    rw [h.disks]
  unfold configure
  rw [hregistration, h.disks]
  -- The four parts of a plan follow each other. The disks and the groups are made alike on both
  -- sides, and the stages of tokens are twins.
  refine ((twins_of_image_eq hrefl rfl).bracket _).andThen fun ht => ?_
  refine (stages_twins h diskKinds ht).andThen fun ht => ?_
  refine Twins.andThen ?_ fun ht => ?_
  · refine (twins_of_image_eq hrefl ?_).bracket groupStage
    rw [← Topology.initializeGroups_masked, ht, Topology.initializeGroups_masked]
  · refine (stage_twins h .logical ht).andThen fun ht => ?_
    rw [configured_eq ht]
    exact .done _ ht

/-- Of two plans that are asked for in the same way but for passphrases, both succeed
    or both fail. If they succeed, all that is shown of them is the same, and so are
    their logs. If they fail, they fail in the same way. -/
theorem configure_alike (probe : Probe) (h : r.Alike r') :
    ((configure probe r).answer = .ok () ↔ (configure probe r').answer = .ok ()) ∧
    ((configure probe r).answer = .ok () →
      (configure probe r).state.toJson = (configure probe r').state.toJson ∧
      (configure probe r).state.rows = (configure probe r').state.rows ∧
      (configure probe r).log = (configure probe r').log) ∧
    (∀ f f', (configure probe r).answer = .error f → (configure probe r').answer = .error f' →
      f.name = f'.name) := by
  -- All that is used of the two plans is that they are twins.
  have htwins := configure_twins probe h
  generalize configure probe r = o at htwins
  generalize configure probe r' = o' at htwins
  cases htwins with
  | @done t t' log hstate =>
      refine ⟨Iff.rfl, fun _ => ⟨?_, ?_, rfl⟩, fun f f' hf => ?_⟩
      · -- What is shown of a topology is the same once passphrases are masked.
        rw [← t.toJson_masked, hstate, t'.toJson_masked]
      · rw [← t.rows_masked, hstate, t'.rows_masked]
      · exact absurd hf (by simp only [reduceCtorEq, not_false_eq_true])
  | failed log hstate htold hfailure =>
      refine ⟨?_, fun hok => ?_, fun f f' hf hf' => ?_⟩
      · simp only [reduceCtorEq]
      · exact absurd hok (by simp only [reduceCtorEq, not_false_eq_true])
      · rcases hfailure with ⟨kind, hsame⟩
        rw [← Except.error.inj hf, ← Except.error.inj hf']
        exact hsame.name

/-- Two tokens that encrypt a partition, with one passphrase and with another. -/
theorem tokensAlike_ofTwo :
    Kind.reuse.TokensAlike "sda:1:enc=crypt,root,pass=secret"
      "sda:1:enc=crypt,root,pass=hidden" := by
  have hcredentials : List.Forall₂ Credentials.FieldsAlike ["pass=" ++ "secret"]
      ["pass=" ++ "hidden"] := .cons (.passphrase (by decide) (by decide)) .nil
  have hparts : Text.fields ',' "crypt,root,pass=secret" =
      "crypt" :: "root" :: ["pass=" ++ "secret"] := by decide +kernel
  have hparts' : Text.fields ',' "crypt,root,pass=hidden" =
      "crypt" :: "root" :: ["pass=" ++ "hidden"] := by decide +kernel
  have hfields : Text.fields ':' "sda:1:enc=crypt,root,pass=secret" =
      ["sda", "1"] ++ ("enc=" ++ "crypt,root,pass=secret") :: [] := by decide +kernel
  have hfields' : Text.fields ':' "sda:1:enc=crypt,root,pass=hidden" =
      ["sda", "1"] ++ ("enc=" ++ "crypt,root,pass=hidden") :: [] := by decide +kernel
  exact .content rfl hfields hfields' (.encrypted hparts hparts' hcredentials)

/-- The plan for two disks with another passphrase. -/
theorem configure_alike_ofTwo :
    let r : Requests :=
      { Requests.ofTwo with reuses := ["sda:1:ext4", "sda:1:enc=crypt,root,pass=hidden"] }
    Requests.ofTwo.Alike r ∧
      (configure (.static Disk.ofTwo) r).answer = .ok () ∧
        (configure (.static Disk.ofTwo) .ofTwo).state.toJson =
          (configure (.static Disk.ofTwo) r).state.toJson ∧
          (configure (.static Disk.ofTwo) .ofTwo).log = (configure (.static Disk.ofTwo) r).log := by
  intro r
  have halike : Requests.ofTwo.Alike r := by
    refine ⟨rfl, fun kind => ?_⟩
    cases kind with
    | reuse => exact .cons (.same _) (.cons tokensAlike_ofTwo .nil)
    | _ => exact List.forall₂_same.mpr fun token _ => .same token
  have hplan : (configure (.static Disk.ofTwo) .ofTwo).answer = .ok () := by decide +kernel
  have hsame := configure_alike (.static Disk.ofTwo) halike
  exact ⟨halike, hsame.1.mp hplan, (hsame.2.1 hplan).1, (hsame.2.1 hplan).2.2⟩

/-- The token that is recorded with a failure is told by the log as it is. -/
theorem token_eq_of_record_eq {stage : Stage} {f f' : Failure} {o o' : Origin}
    (ho : f.origin? = some o) (ho' : f'.origin? = some o')
    (h : (Event.stageFailed stage f).record = (Event.stageFailed stage f').record) :
    o.token = o'.token := by
  -- Neither the names of the record nor those of passphrases take the field away.
  have hfields : ∀ (f : Failure) (o : Origin), f.origin? = some o →
      (Event.stageFailed stage f).record.fields =
        ("stage", .text stage.title) :: ("error_type", .text f.name) ::
          ("error", .ofText? f.message?) :: ("operation", .text o.kind) ::
            ("token", .text o.token) :: redact (withoutOwnNames stage.context) := by
    intro f o ho
    change redact (withoutOwnNames
      (("stage", .text stage.title) :: (Event.failureFields f ++ stage.context))) = _
    unfold Event.failureFields
    rw [ho]
    rfl
  -- The two records are compared field by field, down to the one with the token.
  have hsame := congrArg Record.fields h
  rw [hfields f o ho, hfields f' o' ho'] at hsame
  simp only [List.cons.injEq, Prod.mk.injEq, Json.text.injEq, true_and] at hsame
  exact hsame.2.2.2.1

/-- A plan that fails ends its log with the failure of a stage, and so does one that is
    asked for in the same way but for passphrases, after the same events. The failures
    are the same, or each of them records a token of its own plan, the two of which are
    not the same; and the logs are told apart exactly by the tokens recorded. -/
theorem configure_log_of_error (probe : Probe) (h : r.Alike r') {f : Failure}
    (hfails : (configure probe r).answer = .error f) :
    ∃ f' stage events, (configure probe r').answer = .error f' ∧
      (configure probe r).log = events ++ [.stageFailed stage f] ∧
      (configure probe r').log = events ++ [.stageFailed stage f'] ∧
      r.SameButToken r' f f' ∧
      ((configure probe r).log.map Event.record = (configure probe r').log.map Event.record ↔
        f.origin? = f'.origin?) := by
  have htwins := configure_twins probe h
  generalize configure probe r = o at htwins hfails
  generalize configure probe r' = o' at htwins
  cases htwins with
  | done => exact absurd hfails (by simp only [reduceCtorEq, not_false_eq_true])
  -- A failed plan ends with a failed stage, so its last event tells of the failure.
  | @failed _ _ g f' _ events _ htold hfailure =>
      rcases htold with ⟨stage, rfl⟩
      obtain rfl := Except.error.inj hfails
      refine ⟨f', stage, events, rfl, rfl, rfl, hfailure, ?_⟩
      dsimp only
      rw [List.map_append, List.map_append, List.append_cancel_left_eq, List.map_singleton,
        List.map_singleton, List.singleton_inj]
      rcases hfailure with ⟨kind, rfl | ⟨p, _, htoken, _, horigin, horigin'⟩⟩
      · -- Only the last events can differ, and they do in the tokens that they tell.
        exact iff_of_true rfl rfl
      · refine iff_of_false (fun hrecord => ?_) (fun hsame => ?_)
        · exact htoken (token_eq_of_record_eq horigin horigin' hrecord)
        · rw [horigin, horigin'] at hsame
          exact htoken (congrArg Origin.token (Option.some.inj hsame))

end Plans

/-- A plan that leaves out the disk of the only partition that it asks something of. -/
def Requests.incomplete (token : String) : Requests where
  disks := ["sdb"]
  tables := []
  deletes := []
  moves := []
  reuses := [token]
  creates := []
  logicals := []

theorem Requests.incomplete_alike :
    (incomplete "sda:1:enc=crypt,root,pass=secret").Alike
      (incomplete "sda:1:enc=crypt,root,pass=hidden") := by
  refine ⟨rfl, fun kind => ?_⟩
  cases kind with
  | reuse => exact .cons tokensAlike_ofTwo .nil
  | _ => exact .nil

theorem configure_log_of_error_ofTwo :
    let r : Requests := .incomplete "sda:1:enc=crypt,root,pass=secret"
    let r' : Requests := .incomplete "sda:1:enc=crypt,root,pass=hidden"
    let f : Failure := .problem ⟨.lookup (.diskNotFound "sda"),
      some ⟨"reuse", "sda:1:enc=crypt,root,pass=secret"⟩⟩
    r.Alike r' ∧ (configure (.static Disk.ofTwo) r).answer = .error f ∧
      ∃ f' stage events, (configure (.static Disk.ofTwo) r').answer = .error f' ∧
        (configure (.static Disk.ofTwo) r).log = events ++ [.stageFailed stage f] ∧
        (configure (.static Disk.ofTwo) r').log = events ++ [.stageFailed stage f'] ∧
        f'.name = "DiskNotFound" := by
  intro r r' f
  have hfails : (configure (.static Disk.ofTwo) r).answer = .error f := by decide +kernel
  rcases configure_log_of_error (.static Disk.ofTwo) Requests.incomplete_alike hfails with
    ⟨f', stage, events, hfails', hlog, hlog', ⟨kind, hsame⟩, _⟩
  exact ⟨Requests.incomplete_alike, hfails, f', stage, events, hfails', hlog, hlog',
    hsame.name.symm⟩

/-- The fields of a record that are texts. -/
def Record.texts (r : Record) : List (String × String) :=
  r.fields.filterMap fun f =>
    match f.2 with
    | .text s => some (f.1, s)
    | _ => none

/-- The log of a plan that fails tells the passphrase, so another passphrase makes
    another log. -/
theorem passphrase_told_ofTwo :
    let r : Requests := .incomplete "sda:1:enc=crypt,root,pass=secret"
    let r' : Requests := .incomplete "sda:1:enc=crypt,root,pass=hidden"
    r.Alike r' ∧
      (configure (.static Disk.ofTwo) r).answer = .error (.problem ⟨.lookup (.diskNotFound "sda"),
        some ⟨"reuse", "sda:1:enc=crypt,root,pass=secret"⟩⟩) ∧
      (∃ e ∈ (configure (.static Disk.ofTwo) r).log,
        ("token", "sda:1:enc=crypt,root,pass=secret") ∈ e.record.texts) ∧
      (configure (.static Disk.ofTwo) r).log.map Event.record ≠
        (configure (.static Disk.ofTwo) r').log.map Event.record := by
  intro r r'
  refine ⟨Requests.incomplete_alike, by decide +kernel, by decide +kernel, fun hsame => ?_⟩
  have htexts := congrArg (List.map Record.texts) hsame
  exact absurd htexts (by decide +kernel)

end DiskPlan
