import DiskPlan.Proofs.ResolvedPaths
import DiskPlan.Proofs.StoredPlans

/-!
# Settings That Are Saved

Settings that have been loaded are saved and loaded again.

A file may spell a setting in many ways, or leave it out. What is loaded does not remember
how it was spelled, and saving writes every setting in one spelling, so the text of a file
is lost. What is kept are the settings: the spelling that is written is read as the value
that it was written for. For that a value has to pass the checks of its own reader, and
nothing that was read fails them.

The directory of the log is the one setting that depends on where it is read. It is
resolved, so it is read back exactly if resolving it again leaves it as it is. A directory
that was given has been resolved before. The usual one has not: it is in the home as the
home is told, so the home has to be resolved by itself.

## Main definitions

* `LogSettings.IsStorable`, `ProbeSettings.IsStorable`, `Settings.IsStorable`: What a file
  needs of settings.

## Theorems

* `LogSettings.directoryOfText_eq_value_iff`, `LogSettings.directoryOfText_text_iff`: Which
  directories are read, and which are read back.
* `Settings.isStorable_of_load`: Settings that are loaded can be in a file.
* `Settings.load_save`: Settings that can be in a file are read back.
* `Settings.load_save_of_load`: Loaded settings are saved and loaded again.
-/

namespace DiskPlan

variable {env : Surroundings}

/-! ### The log -/

namespace LogSettings

/-- A directory is read if it can be resolved and no null character stands in it. -/
theorem directoryOfText_eq_value_iff {s : String} {d : Path} :
    directoryOfText env s = .value d ↔
      (Path.parse s).resolve? env.homeOf? env.workingDirectory = some d ∧
        Path.holdsNull s = false := by
  unfold directoryOfText
  dsimp only
  -- A text that cannot be resolved and one with a null character are refused in different words,
  -- but both are refused.
  cases hresolve : (Path.parse s).resolve? env.homeOf? env.workingDirectory with
  | none =>
      dsimp only
      refine iff_of_false ?_ fun h => absurd h.1 (Option.some_ne_none d).symm
      split <;> simp [nullRefused, Checked.expected]
  | some directory =>
      dsimp only
      by_cases hnull : Path.holdsNull s = true
      · rw [if_pos hnull]
        refine iff_of_false (by simp [nullRefused, Checked.expected]) fun h => ?_
        exact Bool.false_ne_true (h.2.symm.trans hnull)
      · rw [if_neg hnull, Checked.value.injEq, Option.some.injEq]
        exact (and_iff_left (Bool.not_eq_true _ ▸ hnull)).symm

/-- A directory is read back exactly if it is resolved and a file can have its name. -/
theorem directoryOfText_text_iff {d : Path} :
    directoryOfText env d.text = .value d ↔ d.IsResolved ∧ d.IsNamed := by
  rw [directoryOfText_eq_value_iff, Path.parse_text]
  constructor
  · rintro ⟨hresolve, hnull⟩
    -- It is its own answer, and answers are resolved.
    refine ⟨Path.isResolved_of_resolve? hresolve, ?_⟩
    have hnamed := Path.isNamed_parse hnull
    rwa [Path.parse_text] at hnamed
  · rintro ⟨hresolved, hnamed⟩
    exact ⟨Path.resolve?_of_isResolved hresolved, Path.holdsNull_text hnamed⟩

/-- A directory that is given is resolved, and a file can have its name. -/
theorem isResolved_of_directoryOfText (henv : env.IsSound) {s : String} {d : Path}
    (h : directoryOfText env s = .value d) : d.IsResolved ∧ d.IsNamed := by
  rcases directoryOfText_eq_value_iff.mp h with ⟨hresolve, hnull⟩
  refine ⟨Path.isResolved_of_resolve? hresolve, ?_⟩
  exact Path.isNamed_of_resolve? (Path.isNamed_parse hnull) henv.homeOf? henv.workingDirectory
    hresolve

/-- The usual directory is resolved if the home is. It is the home with two names behind it, and
    nothing in these can be taken back. -/
theorem isResolved_usualDirectory (henv : env.IsSound) :
    (usualDirectory env).IsResolved ∧ (usualDirectory env).IsNamed := by
  have hparts : (usualDirectory env).parts = env.home.parts ++ [".diskspec", "logs"] := by
    change env.home.parts ++ (Path.parse ".diskspec/logs").parts = _
    rw [show (Path.parse ".diskspec/logs").parts = [".diskspec", "logs"] by decide +kernel]
  refine ⟨⟨henv.home_isResolved.root, ?_⟩, ?_⟩
  · rw [hparts, List.mem_append, not_or]
    exact ⟨henv.home_isResolved.parts, by decide⟩
  · unfold Path.IsNamed
    rw [hparts]
    exact List.forall_mem_append.mpr ⟨henv.home_isNamed, by decide⟩

/-- What a file needs of the settings of the log. -/
structure IsStorable (s : LogSettings) : Prop where
  level : s.level ∈ levels
  directory_isResolved : s.directory.IsResolved
  directory_isNamed : s.directory.IsNamed

/-- The settings of the log are read if all of them are. What is left out counts as the usual
    setting, so each of the five has an answer of its own. -/
theorem ofJson_eq_value_iff {v : Json} {s : LogSettings} :
    ofJson env v = .value s ↔
      ∃ fields, v = .object fields ∧
        Checked.fieldOr "level" (usual env).level (Checked.oneOf levels) fields =
          .value s.level ∧
        Checked.fieldOr "file_enabled" (usual env).toFile Checked.boolean fields =
          .value s.toFile ∧
        Checked.fieldOr "console_enabled" (usual env).toConsole Checked.boolean fields =
          .value s.toConsole ∧
        Checked.fieldOr "json_format" (usual env).asJson Checked.boolean fields =
          .value s.asJson ∧
        Checked.fieldOr "log_directory" (usual env).directory (directoryOfJson env) fields =
          .value s.directory := by
  unfold ofJson
  rw [Checked.refine_object_eq_value_iff]
  refine exists_congr fun fields => and_congr_right fun _ => ?_
  constructor
  · -- The readers stand in a row, and the last of them is taken off first.
    intro h
    rcases Checked.seq_eq_value_iff.mp h with ⟨_, _, h₄, hdirectory, rfl⟩
    rcases Checked.seq_eq_value_iff.mp h₄ with ⟨_, _, h₃, hjson, rfl⟩
    rcases Checked.seq_eq_value_iff.mp h₃ with ⟨_, _, h₂, hconsole, rfl⟩
    rcases Checked.seq_eq_value_iff.mp h₂ with ⟨_, _, h₁, hfile, rfl⟩
    rcases Checked.map_eq_value_iff.mp h₁ with ⟨_, hlevel, rfl⟩
    exact ⟨hlevel, hfile, hconsole, hjson, hdirectory⟩
  · rintro ⟨hlevel, hfile, hconsole, hjson, hdirectory⟩
    rw [hlevel, hfile, hconsole, hjson, hdirectory]
    rfl

/-- The usual settings of the log can be in a file. -/
theorem isStorable_usual (henv : env.IsSound) : (usual env).IsStorable := by
  rcases isResolved_usualDirectory henv with ⟨hresolved, hnamed⟩
  exact ⟨show "INFO" ∈ levels by decide, hresolved, hnamed⟩

/-- Settings of the log that are read can be in a file. -/
theorem isStorable_of_ofJson (henv : env.IsSound) {v : Json} {s : LogSettings}
    (h : ofJson env v = .value s) : s.IsStorable := by
  have husual := isStorable_usual henv
  rcases ofJson_eq_value_iff.mp h with ⟨fields, rfl, hlevel, _, _, _, hdirectory⟩
  -- Truth values are always good; the others are the usual ones or have been read.
  have hlevel : s.level ∈ levels := by
    rcases Checked.fieldOr_eq_value_iff.mp hlevel with ⟨_, hsame⟩ | ⟨v, _, hread⟩
    · rw [← hsame]
      exact husual.level
    · -- A level is read only if it is one of the levels, in the spelling that they have.
      unfold Checked.oneOf at hread
      split at hread
      · split at hread
        · rename_i hmem
          rw [← Checked.value.inj hread]
          exact List.contains_iff_mem.mp hmem
        · exact absurd hread (by simp [Checked.expected])
      · exact absurd hread (by simp [Checked.expected])
      · exact absurd hread (by simp [Checked.expected])
  have hdirectory : s.directory.IsResolved ∧ s.directory.IsNamed := by
    rcases Checked.fieldOr_eq_value_iff.mp hdirectory with ⟨_, hsame⟩ | ⟨v, _, hread⟩
    · rw [← hsame]
      exact ⟨husual.directory_isResolved, husual.directory_isNamed⟩
    · -- A directory may be spelled with characters that no text holds, and is resolved all the
      -- same.
      unfold directoryOfJson at hread
      split at hread
      · exact isResolved_of_directoryOfText henv hread
      · exact isResolved_of_directoryOfText henv hread
      · exact absurd hread (by simp)
  exact ⟨hlevel, hdirectory.1, hdirectory.2⟩

/-- What is written of the log is read, in whatever surroundings. Each setting is written, so
    nothing is taken from the usual ones of the surroundings. -/
theorem ofJson_toJson {s : LogSettings} (h : s.IsStorable) :
    ofJson env s.toJson = .value s := by
  have hlevel : Checked.oneOf levels (.text s.level) = .value s.level :=
    if_pos (List.contains_iff_mem.mpr h.level)
  have hdirectory : directoryOfJson env (.text s.directory.text) = .value s.directory :=
    directoryOfText_text_iff.mpr ⟨h.directory_isResolved, h.directory_isNamed⟩
  refine ofJson_eq_value_iff.mpr ⟨_, rfl, ?_, ?_, ?_, ?_, ?_⟩
  · exact Checked.fieldOr_eq_value_iff.mpr (Or.inr ⟨_, rfl, hlevel⟩)
  · exact Checked.fieldOr_eq_value_iff.mpr (Or.inr ⟨_, rfl, rfl⟩)
  · exact Checked.fieldOr_eq_value_iff.mpr (Or.inr ⟨_, rfl, rfl⟩)
  · exact Checked.fieldOr_eq_value_iff.mpr (Or.inr ⟨_, rfl, rfl⟩)
  · exact Checked.fieldOr_eq_value_iff.mpr (Or.inr ⟨_, rfl, hdirectory⟩)

/-- The settings of the log can be spelled, as there are no numbers among them. -/
theorem isSpelled_toJson (s : LogSettings) (depth : Nat) :
    Json.IsSpelled False (depth + 1) s.toJson := by
  refine .object ?_ (show ["level", "file_enabled", "console_enabled", "json_format",
    "log_directory"].Nodup by decide)
  simp only [List.forall_mem_cons]
  exact ⟨.text _, .bool _, .bool _, .bool _, .text _, fun _ hf => absurd hf List.not_mem_nil⟩

end LogSettings

/-! ### Looking disks up -/

namespace ProbeSettings

/-- What a file needs of the way to look disks up. -/
structure IsStorable (s : ProbeSettings) : Prop where
  command : s.command.IsSpelled
  atLeast : 1 ≤ s.timeoutSeconds
  atMost : s.timeoutSeconds ≤ 600

/-- A time limit is a whole number from one to six hundred. -/
theorem timeout_eq_value_iff {v : Json} {n : Int} :
    ofJson.timeout v = .value n ↔ Checked.integer v = .value n ∧ 1 ≤ n ∧ n ≤ 600 := by
  unfold ofJson.timeout
  rw [Checked.ensure_eq_value_iff, Checked.ensure_eq_value_iff, decide_eq_true_eq,
    decide_eq_true_eq, and_assoc]

/-- The way to look disks up is read if both its settings are. -/
theorem ofJson_eq_value_iff {v : Json} {s : ProbeSettings} :
    ofJson v = .value s ↔
      ∃ fields, v = .object fields ∧
        Checked.fieldOr "lsblk" usual.command Checked.label fields = .value s.command ∧
        Checked.fieldOr "timeout_seconds" usual.timeoutSeconds ofJson.timeout fields =
          .value s.timeoutSeconds := by
  unfold ofJson
  rw [Checked.refine_object_eq_value_iff]
  refine exists_congr fun fields => and_congr_right fun _ => ?_
  constructor
  · intro h
    rcases Checked.seq_eq_value_iff.mp h with ⟨_, _, h₁, htimeout, rfl⟩
    rcases Checked.map_eq_value_iff.mp h₁ with ⟨_, hcommand, rfl⟩
    exact ⟨hcommand, htimeout⟩
  · rintro ⟨hcommand, htimeout⟩
    rw [hcommand, htimeout]
    rfl

/-- The usual way to look disks up can be in a file. -/
theorem isStorable_usual : usual.IsStorable :=
  ⟨Json.isSpelled_ofString _, by decide, by decide⟩

/-- A way to look disks up that is read can be in a file. The command is a label, and it can be
    spelled because it stood in a text. -/
theorem isStorable_of_ofJson {v : Json} (hv : v.IsRead) {s : ProbeSettings}
    (h : ofJson v = .value s) : s.IsStorable := by
  rcases ofJson_eq_value_iff.mp h with ⟨fields, rfl, hcommand, htimeout⟩
  have hcommand : s.command.IsSpelled := by
    rcases Checked.fieldOr_eq_value_iff.mp hcommand with ⟨_, hsame⟩ | ⟨v, hget, hread⟩
    · rw [← hsame]
      exact isStorable_usual.command
    · exact Checked.isSpelled_of_label (hv.of_get? hget) hread
  have htimeout : 1 ≤ s.timeoutSeconds ∧ s.timeoutSeconds ≤ 600 := by
    rcases Checked.fieldOr_eq_value_iff.mp htimeout with ⟨_, hsame⟩ | ⟨v, _, hread⟩
    · rw [← hsame]
      decide
    · exact (timeout_eq_value_iff.mp hread).2
  exact ⟨hcommand, htimeout.1, htimeout.2⟩

/-- What is written of the way to look disks up is read. -/
theorem ofJson_toJson {s : ProbeSettings} (h : s.IsStorable) : ofJson s.toJson = .value s := by
  refine ofJson_eq_value_iff.mpr ⟨_, rfl, ?_, ?_⟩
  · exact Checked.fieldOr_eq_value_iff.mpr (Or.inr ⟨_, rfl, Checked.label_ofLabel s.command⟩)
  · refine Checked.fieldOr_eq_value_iff.mpr (Or.inr ⟨_, rfl, ?_⟩)
    exact timeout_eq_value_iff.mpr ⟨rfl, h.atLeast, h.atMost⟩

/-- The way to look disks up can be spelled, as its time limit has three digits at most. -/
theorem isSpelled_toJson {s : ProbeSettings} (h : s.IsStorable) (depth : Nat) :
    Json.IsSpelled False (depth + 1) s.toJson := by
  have htimeout : Decimal.isWritable s.timeoutSeconds = true := by
    have hone := h.atLeast
    have hmost := h.atMost
    exact Decimal.isWritable_of_natAbs_lt (k := 3) (by omega) (by decide)
  refine .object ?_ (show ["lsblk", "timeout_seconds"].Nodup by decide)
  simp only [List.forall_mem_cons]
  exact ⟨Json.isSpelled_ofLabel h.command _ _, .int htimeout,
    fun _ hf => absurd hf List.not_mem_nil⟩

end ProbeSettings

/-! ### All settings -/

namespace Settings

/-- What a file needs of settings. -/
structure IsStorable (s : Settings) : Prop where
  log : s.log.IsStorable
  probe : s.probe.IsStorable

/-- Settings are read if all of them are. -/
theorem ofJson_eq_value_iff {v : Json} {s : Settings} :
    ofJson env v = .value s ↔
      ∃ fields, v = .object fields ∧
        Checked.fieldOr "logging" (usual env).log (LogSettings.ofJson env) fields =
          .value s.log ∧
        Checked.fieldOr "probe" (usual env).probe ProbeSettings.ofJson fields =
          .value s.probe ∧
        Checked.fieldOr "installer" (usual env).testOnly testOnlyOfJson fields =
          .value s.testOnly := by
  unfold ofJson
  rw [Checked.refine_object_eq_value_iff]
  refine exists_congr fun fields => and_congr_right fun _ => ?_
  constructor
  · intro h
    rcases Checked.seq_eq_value_iff.mp h with ⟨_, _, h₂, htest, rfl⟩
    rcases Checked.seq_eq_value_iff.mp h₂ with ⟨_, _, h₁, hprobe, rfl⟩
    rcases Checked.map_eq_value_iff.mp h₁ with ⟨_, hlog, rfl⟩
    exact ⟨hlog, hprobe, htest⟩
  · rintro ⟨hlog, hprobe, htest⟩
    rw [hlog, hprobe, htest]
    rfl

variable {s : Settings}

/-- Settings of a file are read from its text, if it is one of JSON. -/
theorem load_eq_ok_iff {contents : String} :
    load env (some contents) = .ok s ↔
      ∃ v, Json.parse contents = .ok v ∧ ofJson env v = .value s := by
  unfold load
  dsimp only
  cases Json.parse contents with
  -- A text that is no JSON is refused before any setting is looked at.
  | error _ => simp only [reduceCtorEq, false_and, exists_false]
  | ok v => simp only [Checked.result_eq_ok_iff, Except.ok.injEq, exists_eq_left']

/-- Settings that are loaded can be in a file, the usual ones too. -/
theorem isStorable_of_load (henv : env.IsSound) {file : Option String}
    (h : load env file = .ok s) : s.IsStorable := by
  have husual : (usual env).IsStorable :=
    ⟨LogSettings.isStorable_usual henv, ProbeSettings.isStorable_usual⟩
  cases file with
  | none =>
      -- Without a file the settings are the usual ones.
      obtain rfl := Except.ok.inj h
      exact husual
  | some contents =>
      rcases load_eq_ok_iff.mp h with ⟨v, hparse, hvalue⟩
      have hv : v.IsRead := ⟨_, Json.isSpelled_of_parse hparse⟩
      -- Only what stands in the file has been read, so a part may be the usual one.
      rcases ofJson_eq_value_iff.mp hvalue with ⟨fields, rfl, hlog, hprobe, _⟩
      -- Only what stands in the file has been read, so a part may be the usual one.
      have hlog : s.log.IsStorable := by
        rcases Checked.fieldOr_eq_value_iff.mp hlog with ⟨_, hsame⟩ | ⟨v, _, hread⟩
        · rw [← hsame]
          exact husual.log
        · exact LogSettings.isStorable_of_ofJson henv hread
      have hprobe : s.probe.IsStorable := by
        rcases Checked.fieldOr_eq_value_iff.mp hprobe with ⟨_, hsame⟩ | ⟨v, hget, hread⟩
        · rw [← hsame]
          exact husual.probe
        · exact ProbeSettings.isStorable_of_ofJson (hv.of_get? hget) hread
      exact ⟨hlog, hprobe⟩

/-- What is written of settings is read. -/
theorem ofJson_toJson (h : s.IsStorable) : ofJson env s.toJson = .value s := by
  have htest : testOnlyOfJson (.object [("test_mode", .bool s.testOnly)]) =
      .value s.testOnly := rfl
  refine ofJson_eq_value_iff.mpr ⟨_, rfl, ?_, ?_, ?_⟩
  · exact Checked.fieldOr_eq_value_iff.mpr (Or.inr ⟨_, rfl, LogSettings.ofJson_toJson h.log⟩)
  · exact Checked.fieldOr_eq_value_iff.mpr
      (Or.inr ⟨_, rfl, ProbeSettings.ofJson_toJson h.probe⟩)
  · exact Checked.fieldOr_eq_value_iff.mpr (Or.inr ⟨_, rfl, htest⟩)

/-- The text of a settings file is read as what was written. -/
-- Each part is an object in the object of all settings, so one level of nesting is taken up.
theorem parse_save (h : s.IsStorable) : Json.parse s.save = .ok s.toJson := by
  have hlog := s.log.isSpelled_toJson (Json.depthLimit - 2)
  have hprobe := ProbeSettings.isSpelled_toJson h.probe (Json.depthLimit - 2)
  have htest : Json.IsSpelled False (Json.depthLimit - 1)
      (.object [("test_mode", .bool s.testOnly)]) :=
    .object (List.forall_mem_singleton.mpr (.bool _)) (List.nodup_singleton _)
  refine Json.parse_indented (.object ?_
    (show ["logging", "probe", "installer"].Nodup by decide))
  simp only [List.forall_mem_cons]
  exact ⟨hlog, hprobe, htest, fun _ hf => absurd hf List.not_mem_nil⟩

/-- Settings that can be in a file are read back, in whatever surroundings. The surroundings
    matter for what is left out and for what is still to be resolved, and there is nothing of
    either. -/
theorem load_save (h : s.IsStorable) : load env (some s.save) = .ok s :=
  load_eq_ok_iff.mpr ⟨s.toJson, parse_save h, ofJson_toJson h⟩

/-- Whatever file settings are loaded from, they are saved as a file that is loaded as
    these settings, and so saved as the same text again. -/
theorem load_save_of_load (henv : env.IsSound) {file : Option String}
    (h : load env file = .ok s) :
    load env (some s.save) = .ok s ∧ (load env (some s.save)).map save = .ok s.save := by
  -- The settings have been loaded, so a file can hold them, whatever was in the other file.
  have hload : load env (some s.save) = .ok s := load_save (isStorable_of_load henv h)
  refine ⟨hload, ?_⟩
  rw [hload]
  rfl

/-- A directory that leads out of the home again, a truth value in mixed case and a number in
    quotes with what does not change its value. -/
theorem load_save_of_load_ofHome :
    let env : Surroundings := ⟨.parse "/home/tester", fun _ => none, .parse "/"⟩
    let contents := "\x7b\"logging\": \x7b\"file_enabled\": \"oN\", " ++
      "\"log_directory\": \"~/../a//b/\"\x7d, " ++
      "\"probe\": \x7b\"timeout_seconds\": \"+0_90.0\"\x7d\x7d"
    let s : Settings := ⟨⟨"INFO", true, true, false, .parse "/home/a/b"⟩, ⟨.ofString "lsblk", 90⟩,
      false⟩
    env.IsSound ∧ load env (some contents) = .ok s ∧ load env (some s.save) = .ok s ∧
      (load env (some s.save)).map save = .ok s.save := by
  intro env contents s
  have henv : env.IsSound :=
    { home_isResolved := ⟨by decide +kernel, by decide +kernel⟩
      home_isNamed := by
        unfold Path.IsNamed
        decide +kernel
      userHome := fun _ _ h => absurd h (Option.some_ne_none _).symm
      workingDirectory := by
        unfold Path.IsNamed
        decide +kernel }
  have hload : load env (some contents) = .ok s := by decide +kernel
  exact ⟨henv, hload, load_save_of_load henv hload⟩

end Settings

end DiskPlan
