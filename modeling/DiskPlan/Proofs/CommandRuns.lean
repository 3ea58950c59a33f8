import DiskPlan.Program
import DiskPlan.Proofs.Installations
import DiskPlan.Proofs.LayoutValues
import DiskPlan.Proofs.PlannedDisks

/-!
# How a Command Ends

What a run of the command shows, and how it ends.

A command that is valid goes through five stretches of work: its log is opened, its layout is
read, its plan is made, the plan is shown, and the installation runs. Each of them can fail, and
the failures are told apart in one way only. A problem becomes a line on the error output and a
status, any other failure leaves the command as it is. No failure to open a log or to read a
layout is a problem, so the command reports none of them. `Escapes` lists what leaves a command,
and `IsReported` how all other runs end.

With JSON output the standard output is settled before the installation begins. The display of
progress is then disabled, and if a disabled display writes nothing, nothing is added. What is
shown is a function of the layout and the requests, so two commands that agree on these show the
same. Only a log that cannot be opened comes before all that: nothing is shown then.

## Main definitions

* `Checked.HaltsWith`: A reader that halts with certain failures only.
* `Failure.IsOfLayout`: The failures to read a layout.
* `Program.Accepts`: A command whose options, settings and parameters are valid.
* `Program.installation`: The installation of a plan.
* `Program.PlanEscapes`, `Program.LayoutEscapes`, `Program.Escapes`: The failures that leave a
  command.
* `Program.IsReported`: How a run ends that no failure leaves.
* `Program.EndsBy`: A run that is left by certain failures only.
* `Program.jsonOutput`: What a command with JSON output shows of a plan.

## Theorems

* `Layout.parse_failsWith`: No failure to read a layout is a problem.
* `run_of_accepts`, `runPlan_eq`: A run, from one stretch of work to the next.
* `concluded_ending`, `concluded_output`: What an installation adds to a run.
* `run_endsBy`: Exactly the failures to open the log, to read the layout, to make the plan and to
  show it leave a command.
* `run_output_of_json`: With JSON output the standard output is the plan and nothing else.
-/

namespace DiskPlan

/-! ### Readers that halt -/

namespace Checked

variable {α β : Type} {P : Failure → Prop}

/-- A reader that, if it halts, does so with a failure of which something is true. Issues are
    collected and halting is not, so the two are kept apart: only what halts can be something
    else than a failure of validation. -/
def HaltsWith (P : Failure → Prop) (c : Checked α) : Prop :=
  ∀ f, c = .halted f → P f

theorem haltsWith_value (a : α) : HaltsWith P (value a) :=
  fun _ h => absurd h (by simp only [reduceCtorEq, not_false_eq_true])

theorem haltsWith_issues (list : List Issue) : HaltsWith P (issues list : Checked α) :=
  fun _ h => absurd h (by simp only [reduceCtorEq, not_false_eq_true])

theorem haltsWith_halted {f : Failure} (h : P f) : HaltsWith P (halted f : Checked α) := by
  intro f' hf'
  rw [halted.injEq] at hf'
  rw [← hf']
  exact h

theorem haltsWith_expected (e : Expectation) : HaltsWith P (expected e : Checked α) :=
  haltsWith_issues _

variable {c : Checked α}

theorem HaltsWith.map (h : HaltsWith P c) (f : α → β) : HaltsWith P (f <$> c) := by
  cases c with
  | value a => exact haltsWith_value (f a)
  | issues list => exact haltsWith_issues list
  | halted e => exact haltsWith_halted (h e rfl)

theorem HaltsWith.seq {f : Checked (α → β)} (hf : HaltsWith P f) (hc : HaltsWith P c) :
    -- Both readers are run even if the first has issues, and whichever halts first counts.
    HaltsWith P (f <*> c) := by
  cases f with
  | halted e => exact haltsWith_halted (hf e rfl)
  | issues list =>
      cases c with
      | value _ | issues _ => exact haltsWith_issues _
      | halted e => exact haltsWith_halted (hc e rfl)
  | value g =>
      cases c with
      | value a => exact haltsWith_value (g a)
      | issues list => exact haltsWith_issues list
      | halted e => exact haltsWith_halted (hc e rfl)

theorem HaltsWith.under (h : HaltsWith P c) (k : Key) : HaltsWith P (c.under k) := by
  cases c with
  | value a => exact haltsWith_value a
  | issues list => exact haltsWith_issues _
  | halted e => exact haltsWith_halted (h e rfl)

/-- A condition that is not met is an issue, so checking it adds nothing to what can halt. -/
theorem HaltsWith.ensure (h : HaltsWith P c) (condition : α → Bool) (e : Expectation) :
    HaltsWith P (c.ensure condition e) := by
  cases c with
  | value a =>
      change HaltsWith P (if condition a then value a else expected e)
      split
      · exact haltsWith_value a
      · exact haltsWith_expected e
  | issues list => exact haltsWith_issues list
  | halted f => exact haltsWith_halted (h f rfl)

theorem HaltsWith.refine (h : HaltsWith P c) {next : α → Checked β}
    (hnext : ∀ a, HaltsWith P (next a)) : HaltsWith P (c.refine next) := by
  cases c with
  | value a => exact hnext a
  | issues list => exact haltsWith_issues list
  | halted e => exact haltsWith_halted (h e rfl)

theorem haltsWith_object (v : Json) : HaltsWith P (object v) := by
  cases v with
  | object fields => exact haltsWith_value fields
  | null | bool _ | int _ | real _ | text _ | label _ | list _ => exact haltsWith_expected _

variable {read : Json → Checked α}

theorem haltsWith_field (hread : ∀ v, HaltsWith P (read v)) (name : String)
    (fields : Json.Fields) : HaltsWith P (field name read fields) := by
  unfold field
  split
  · exact (hread _).under _
  · exact (haltsWith_expected _).under _

theorem haltsWith_fieldOr (hread : ∀ v, HaltsWith P (read v)) (name : String) (absent : α)
    (fields : Json.Fields) : HaltsWith P (fieldOr name absent read fields) := by
  unfold fieldOr
  split
  · exact (hread _).under _
  · exact haltsWith_value absent

/-- What is missing or null is read as none, without running the reader. -/
theorem haltsWith_optional (hread : ∀ v, HaltsWith P (read v)) (v : Json) :
    HaltsWith P (optional read v) := by
  unfold optional
  split
  · exact haltsWith_value none
  · exact (hread _).map some

-- Over the items, for whatever place the first of them has.
theorem haltsWith_itemsFrom (hread : ∀ v, HaltsWith P (read v)) (vs : List Json) :
    ∀ i, HaltsWith P (itemsFrom read i vs) := by
  induction vs with
  | nil => exact fun _ => haltsWith_value []
  | cons v rest ih => exact fun i => (((hread v).under _).map _).seq (ih (i + 1))

theorem haltsWith_items (hread : ∀ v, HaltsWith P (read v)) (v : Json) :
    HaltsWith P (items read v) := by
  unfold items
  split
  · exact haltsWith_itemsFrom hread _ 0
  · exact haltsWith_expected _

theorem haltsWith_integer (v : Json) : HaltsWith P (integer v) := by
  unfold integer integerText
  repeat' split
  all_goals first | exact haltsWith_value _ | exact haltsWith_expected _

theorem haltsWith_label (v : Json) : HaltsWith P (label v) := by
  unfold label
  split
  all_goals first | exact haltsWith_value _ | exact haltsWith_expected _

theorem haltsWith_named (ofName? : String → Option α) (v : Json) :
    HaltsWith P (named ofName? v) := by
  unfold named
  repeat' split
  all_goals first | exact haltsWith_value _ | exact haltsWith_expected _

/-- A reading fails with issues or with what halts it. This is where the issues of all fields
    become one failure. -/
theorem HaltsWith.result (h : HaltsWith P c) (hissues : ∀ list, P (.ofIssues list)) :
    FailsWith P c.result := by
  cases c with
  | value a => exact failsWith_ok a
  | issues list => exact failsWith_error (hissues list)
  | halted e => exact failsWith_error (h e rfl)

end Checked

/-! ### Layouts that are not read -/

/-- The failures to read a layout: its text is not JSON or beyond a limit, a value is not
    valid, or a filesystem is not a text. -/
inductive Failure.IsOfLayout : Failure → Prop
  | malformed (report : String) : IsOfLayout (@Failure.malformed report)
  | tooDeep (isObject : Bool) : IsOfLayout (@Failure.tooDeep isObject)
  | numeral (limit : Decimal.DigitLimit) : IsOfLayout (.numeral limit)
  | invalid (issues : List Issue) : IsOfLayout (.ofIssues issues)
  | unusable (v : Json) : IsOfLayout (.misfit (.lacks v "lower"))

open Checked in
theorem PartitionLayout.ofJson_haltsWith (v : Json) :
    HaltsWith Failure.IsOfLayout (PartitionLayout.ofJson v) := by
  have hfilesystem : ∀ v, HaltsWith Failure.IsOfLayout (filesystemOfJson v) := by
    -- A filesystem is the only field that can halt the reading: a value that is no text has no
    -- lower case.
    intro v
    cases v with
    | null | text _ | label _ => exact haltsWith_value _
    | bool _ | int _ | real _ | list _ | object _ => exact haltsWith_halted (.unusable _)
  have hsector : ∀ v, HaltsWith Failure.IsOfLayout (ofJson.sector v) :=
    fun v => (haltsWith_integer v).ensure _ _
  -- The fields in the order of the model, each of them read by a reader that does not halt.
  refine ((haltsWith_object v).refine fun fields => ?_).ensure _ _
  refine (((((((haltsWith_field (fun v => (haltsWith_integer v).ensure _ _) _ fields).map _).seq
    (haltsWith_field hsector _ fields)).seq (haltsWith_field hsector _ fields)).seq
    (haltsWith_fieldOr (haltsWith_named _) _ _ fields)).seq
    (haltsWith_fieldOr hfilesystem _ _ fields)).seq
    (haltsWith_fieldOr (haltsWith_optional haltsWith_label) _ _ fields)).seq ?_
  exact haltsWith_fieldOr (haltsWith_items (haltsWith_named _)) _ _ fields

open Checked in
theorem DiskLayout.ofJson_haltsWith (v : Json) :
    HaltsWith Failure.IsOfLayout (DiskLayout.ofJson v) := by
  refine (haltsWith_object v).refine fun fields => ?_
  refine ((((((haltsWith_field (fun v => (haltsWith_label v).map _) _ fields).map _).seq
    (haltsWith_field (fun v => (haltsWith_integer v).ensure _ _) _ fields)).seq
    (haltsWith_fieldOr (fun v => (haltsWith_integer v).ensure _ _) _ _ fields)).seq
    (haltsWith_fieldOr haltsWith_label _ _ fields)).seq
    (haltsWith_fieldOr (haltsWith_optional (haltsWith_named _)) _ _ fields)).seq ?_
  exact haltsWith_fieldOr (haltsWith_items PartitionLayout.ofJson_haltsWith) _ _ fields

namespace Layout

/-- No failure to read a layout is a problem, so none of them is reported as an invalid
    configuration: whoever runs the command sees the failure itself. -/
theorem parse_failsWith (contents : String) : FailsWith Failure.IsOfLayout (parse contents) := by
  unfold parse
  cases Json.parse contents with
  | error e =>
      refine failsWith_error ?_
      cases e with
      | malformed flaw left => exact .malformed _
      | numeral limit => exact .numeral limit
      | tooDeep isObject => exact .tooDeep isObject
  -- What is JSON is read as a value, and then only its fields can go wrong.
  | ok v =>
      refine Checked.HaltsWith.result ?_ .invalid
      refine (Checked.haltsWith_object v).refine fun fields => ?_
      exact Checked.haltsWith_fieldOr (Checked.haltsWith_items DiskLayout.ofJson_haltsWith) _ _
        fields

/-- What is read of a layout is loaded, and what is not read fails the loading. -/
theorem load_answer (path contents : String) :
    (load path contents).answer = (parse contents).map fun layouts => .static (built layouts) := by
  cases h : parse contents with
  | ok layouts => exact load_of_parse path h
  | error f =>
      unfold load
      rw [h]
      rfl

end Layout

/-! ### Runs -/

/-- A display with a line for each status of an installation, unless it is disabled. -/
def Display.ofLines : Display where
  table := fun title _ => title
  progress := fun disabled statuses =>
    if disabled then "" else String.join (statuses.map fun status => status.step.title ++ "\n")
  help := ""

/-- A machine with a layout in a file, and with steps of the installation that fail. There is no
    tool on it that lists disks, so it is the layout or nothing. -/
def World.ofLayout (contents : String) (fault : Step → Option StepProblem) : World where
  surroundings := ⟨.parse "/root", fun _ => none, .parse "/"⟩
  file? := fun path => if path = "layout.json" then some contents else none
  system := "Linux"
  execute := fun _ => .unavailable "no such command"
  fault := fault
  display := .ofLines

/-- A command that removes a partition and has its plan shown as JSON. -/
def Command.ofGap (testOnly quiet : Bool) : Command where
  squashfs := "fs"
  hostname := "host"
  keyboard := "us"
  lang := "C"
  remove := "list"
  requests := ⟨["sda"], [], ["sda:3"], [], [], [], []⟩
  layout := some "layout.json"
  config := none
  testOnly := testOnly
  asJson := true
  quiet := quiet

namespace Program

/-- A command whose options, settings and parameters are valid. -/
structure Accepts (w : World) (args : List String) (c : Command) (s : Settings)
    (config : InstallConfig) : Prop where
  parsed : CommandLine.parse (fun path => (w.file? path).isSome) args = .command c
  settings : Program.settings w c = .ok s
  config : installConfig c = .value config

/-- The installation of a plan. -/
def installation (w : World) (c : Command) (s : Settings) (config : InstallConfig)
    (t : Topology) : Installation where
  topology := t
  config := config
  testOnly := c.testOnly || s.testOnly
  cancels := fun _ => false
  fault := w.fault

/-- The failures to make the plan of a command that are no problems, and those to show it. A
    problem is reported, so it does not leave the command. -/
inductive PlanEscapes (d : Display) (c : Command) (p : Probe) : Failure → Prop
  | configured {f : Failure} (hf : ∀ r, f ≠ .problem r)
      (h : (configure p c.requests).answer = .error f) : PlanEscapes d c p f
  | shown {f : Failure} (hplan : (configure p c.requests).answer = .ok ())
      (h : planText d c (configure p c.requests).state = .error f) : PlanEscapes d c p f

/-- The failures that leave a command with a layout, once its log is open. All that keep the
    layout from being read are among them. -/
inductive LayoutEscapes (d : Display) (c : Command) (contents : String) : Failure → Prop
  | layout {f : Failure} (hf : f.IsOfLayout) (h : Layout.parse contents = .error f) :
      LayoutEscapes d c contents f
  | plan {f : Failure} {layouts : List DiskLayout} (hlayouts : Layout.parse contents = .ok layouts)
      (h : PlanEscapes d c (.static (Layout.built layouts)) f) : LayoutEscapes d c contents f

/-- The failures that leave a command with a layout. A log that cannot be opened comes before
    everything else. -/
inductive Escapes (w : World) (s : Settings) (c : Command) (contents : String) : Failure → Prop
  | log {r : Refusal} (h : logRefusal? w s = some r) :
      Escapes w s c contents (.misfit (.refused r))
  | opened {f : Failure} (hlog : logRefusal? w s = none)
      (h : LayoutEscapes w.display c contents f) : Escapes w s c contents f

/-- How a run ends that no failure leaves: well, or with status 1 and a line that tells the
    problem or the end of the installation. With JSON output the line goes where the plan does
    not. -/
inductive IsReported (c : Command) (r : Run) : Prop
  | succeeded (hending : r.ending = .exited 0)
  | refused (message : String) (hending : r.ending = .exited 1)
      (herrors : r.errors = Console.alert "diskspec" message) (houtput : r.output = "")
  | notInstalled (problem : StepProblem) (before : String) (hending : r.ending = .exited 1)
      (htold : (if c.asJson then r.errors else r.output) =
        before ++ Console.note "install failed" problem.message)

/-- A run that is left by certain failures only, and reported if there are none. Stated for any
    failures, so that each stretch of the work brings its own. -/
structure EndsBy (c : Command) (E : Failure → Prop) (r : Run) : Prop where
  failed_iff : ∀ f, r.ending = .failed f ↔ E f
  reported : (∀ f, ¬E f) → IsReported c r

variable {w : World} {args : List String} {c : Command} {s : Settings} {config : InstallConfig}

/-- A run that cannot open its log ends there. -/
theorem run_of_logRefusal (h : Accepts w args c s config) {r : Refusal}
    (hlog : logRefusal? w s = some r) : run w args = .passedOn (.misfit (.refused r)) := by
  unfold run
  rw [h.parsed]
  dsimp only
  rw [h.settings]
  dsimp only
  rw [hlog]

/-- A run that opens its log, given what is found of the disks. Its parts are put in the order in
    which they are done, and everything before the log is settled by the arguments. -/
theorem run_of_accepts (h : Accepts w args c s config) (hlog : logRefusal? w s = none) :
    run w args = ((match (probe w s c).answer with
      | .error (.problem r) => Run.refused r.message
      | .error f => .passedOn f
      | .ok p => runPlan w s c config p).logging (probe w s c).log).keeping (logSettings c s) := by
  unfold run runCommand
  rw [h.parsed]
  dsimp only
  rw [h.settings]
  dsimp only
  rw [hlog]
  dsimp only
  rewrite [h.config]
  rfl

/-- A run from the probe on, given how its plan ends. Only a problem is turned into a message;
    other failures are passed on as they are. -/
theorem runPlan_eq (w : World) (s : Settings) (c : Command) (config : InstallConfig) (p : Probe) :
    runPlan w s c config p = (match (configure p c.requests).answer with
      | .error (.problem r) => Run.refused ("invalid disk configuration: " ++ r.message)
      | .error f => .passedOn f
      | .ok () => runInstall w s c config (configure p c.requests).state).logging
        (configure p c.requests).log := rfl

/-- The disks of a command with a layout. -/
theorem probe_answer_of_layout (s : Settings) {contents : String}
    (h : c.layout.bind w.file? = some contents) :
    (probe w s c).answer =
      (Layout.parse contents).map fun layouts => .static (Layout.built layouts) := by
  rcases Option.bind_eq_some_iff.mp h with ⟨path, hlayout, hfile⟩
  unfold probe
  rw [hlayout, Option.bind_some, hfile]
  exact Layout.load_answer path contents

/-- A failure to read the layout is passed on, since none of them is a problem. -/
theorem run_of_unread (h : Accepts w args c s config) (hlog : logRefusal? w s = none)
    {contents : String} (hcontents : c.layout.bind w.file? = some contents) {f : Failure}
    (hparse : Layout.parse contents = .error f) :
    run w args = ((Run.passedOn f).logging (probe w s c).log).keeping (logSettings c s) := by
  rw [run_of_accepts h hlog, probe_answer_of_layout s hcontents, hparse]
  cases Layout.parse_failsWith contents f hparse <;> rfl

/-! ### Endings -/

section Endings

variable {t : Topology} {shown : String} {o : Outcome Progress Unit}

theorem runInstall_of_ok (s : Settings) (config : InstallConfig)
    (h : planText w.display c t = .ok shown) :
    runInstall w s c config t =
      concluded w.display c shown ((installation w c s config t).run (.start false)) := by
  unfold runInstall
  rw [h]
  rfl

/-- Whatever an installation does, its answer is that of a step or of none. -/
theorem run_answer (i : Installation) (p : Progress) :
    ∃ problem?, (i.run p).answer = Installation.answerOf problem? := by
  rcases i.runSteps_course Step.all p with ⟨_, _, problem?, _, _, hleaves⟩
  exact ⟨problem?, hleaves.answer⟩

/-- An installation ends a run with status 0 if it succeeds and with status 1 if it ends
    early, which is told. -/
theorem concluded_ending (d : Display) (c : Command) (shown : String)
    {problem? : Option StepProblem} (h : o.answer = Installation.answerOf problem?) :
    (concluded d c shown o).ending = .exited (if problem?.isNone then 0 else 1) ∧
      IsReported c (concluded d c shown o) := by
  unfold concluded
  rw [h]
  -- The lines that are told depend on whether the plan went to the standard output.
  cases problem? with
  | none =>
      have hending : ∀ message r, (withMessage c message r).ending = r.ending := by
        intro message r
        unfold withMessage
        split <;> rfl
      exact ⟨hending _ _, .succeeded (hending _ _)⟩
  | some problem =>
      refine ⟨?_, .notInstalled problem (if c.asJson then String.join (o.state.problems.map
        fun p => Console.warning "Error" p.message) else
          shown ++ d.progress (c.quiet || c.asJson) o.state.statuses) ?_ ?_⟩
      all_goals
        dsimp only [Installation.answerOf, withMessage]
        cases c.asJson <;> rfl

theorem IsReported.ending_ne {r : Run} (h : IsReported c r) (f : Failure) :
    r.ending ≠ .failed f := by
  cases h with
  | succeeded hending | refused _ hending | notInstalled _ _ hending =>
      rw [hending]
      simp only [ne_eq, reduceCtorEq, not_false_eq_true]

variable {E : Failure → Prop} {r : Run}

/-- A failure that is passed on leaves the run, and it is the only one that does. -/
theorem endsBy_passedOn {f : Failure} (h : ∀ f', E f' ↔ f = f') : EndsBy c E (.passedOn f) := by
  refine ⟨fun f' => ?_, fun hnone => absurd ((h f).mpr rfl) (hnone f)⟩
  rw [h f']
  exact Ending.failed.injEq f f' ▸ Iff.rfl

/-- A run that is reported is left by no failure. -/
theorem endsBy_of_isReported (hr : IsReported c r) (h : ∀ f, ¬E f) : EndsBy c E r :=
  ⟨fun f => iff_of_false (hr.ending_ne f) (h f), fun _ => hr⟩

theorem EndsBy.congr {E' : Failure → Prop} (h : EndsBy c E r) (hE : ∀ f, E f ↔ E' f) :
    EndsBy c E' r :=
  ⟨fun f => (h.failed_iff f).trans (hE f), fun hnone => h.reported fun f hf => hnone f
    ((hE f).mp hf)⟩

/-- Runs that show the same and end alike are told alike. -/
theorem IsReported.of_eq {r' : Run} (h : IsReported c r) (houtput : r'.output = r.output)
    (herrors : r'.errors = r.errors) (hending : r'.ending = r.ending) : IsReported c r' := by
  cases h with
  | succeeded h => exact .succeeded (hending.trans h)
  | refused message h h' h'' =>
      exact .refused message (hending.trans h) (herrors.trans h') (houtput.trans h'')
  | notInstalled problem before h h' =>
      exact .notInstalled problem before (hending.trans h) (by rw [houtput, herrors]; exact h')

theorem EndsBy.logging (h : EndsBy c E r) (events : List Event) :
    EndsBy c E (r.logging events) :=
  ⟨h.failed_iff, fun hnone => (h.reported hnone).of_eq rfl rfl rfl⟩

theorem EndsBy.keeping (h : EndsBy c E r) (kept : LogSettings) : EndsBy c E (r.keeping kept) :=
  ⟨h.failed_iff, fun hnone => (h.reported hnone).of_eq rfl rfl rfl⟩

end Endings

theorem runInstall_endsBy (w : World) (s : Settings) (c : Command) (config : InstallConfig)
    (t : Topology) :
    -- The text of the plan is made before the installation, so what it fails with comes first.
    EndsBy c (fun f => planText w.display c t = .error f) (runInstall w s c config t) := by
  cases h : planText w.display c t with
  | error f =>
      unfold runInstall
      rw [h]
      exact endsBy_passedOn fun f' => by rw [Except.error.injEq]
  | ok shown =>
      rw [runInstall_of_ok s config h]
      rcases run_answer (installation w c s config t) (.start false) with ⟨problem?, hanswer⟩
      exact endsBy_of_isReported (concluded_ending w.display c shown hanswer).2 fun f hf =>
        absurd hf (by simp only [reduceCtorEq, not_false_eq_true])

theorem runPlan_endsBy (w : World) (s : Settings) (c : Command) (config : InstallConfig)
    (p : Probe) : EndsBy c (PlanEscapes w.display c p) (runPlan w s c config p) := by
  rw [runPlan_eq]
  refine EndsBy.logging ?_ _
  -- A plan that is made can only fail to be shown; one that is not made ends by its failure.
  cases h : (configure p c.requests).answer with
  | ok answer =>
      refine (runInstall_endsBy w s c config _).congr fun f => ⟨fun hf => .shown h hf, ?_⟩
      rintro (⟨_, hf⟩ | ⟨_, hf⟩)
      · exact absurd (h.symm.trans hf) (by simp only [reduceCtorEq, not_false_eq_true])
      · exact hf
  | error f =>
      have honly : ∀ f', PlanEscapes w.display c p f' → f = f' ∧ ∀ r, f ≠ .problem r := by
        rintro f' (⟨hf, hf'⟩ | ⟨hplan, _⟩)
        · obtain rfl : f = f' := Except.error.inj (h.symm.trans hf')
          exact ⟨rfl, hf⟩
        · exact absurd (h.symm.trans hplan) (by simp only [reduceCtorEq, not_false_eq_true])
      -- A problem is reported and any other failure is passed on.
      cases f with
      | problem r =>
          have hrefused : IsReported c (.refused ("invalid disk configuration: " ++ r.message)) :=
            .refused _ rfl rfl rfl
          exact endsBy_of_isReported hrefused fun f' hf' => (honly f' hf').2 r rfl
      | install _ | numeral _ | zeroDivisor | malformed | tooDeep | invalid _ | misfit _ =>
          refine endsBy_passedOn fun f' => ⟨fun hf' => (honly f' hf').1, ?_⟩
          rintro rfl
          exact .configured (by simp only [ne_eq, reduceCtorEq, not_false_eq_true, implies_true]) h

/-- The arguments that make the command. -/
def argumentsOfGap (testOnly quiet : Bool) : List String :=
  ["-s", "fs", "-h", "host", "-k", "us", "-l", "C", "-r", "list", "-b", "sda", "-d", "sda:3",
      "--layout", "layout.json", "--json"]
    ++ (if testOnly then ["--test"] else []) ++ (if quiet then ["-q"] else [])

theorem accepts_ofGap (contents : String) (fault : Step → Option StepProblem)
    (testOnly quiet : Bool) :
    Accepts (.ofLayout contents fault) (argumentsOfGap testOnly quiet) (.ofGap testOnly quiet)
      (.usual (World.ofLayout contents fault).surroundings)
      ⟨.parse "fs", "host", "us", "C", .parse "list"⟩ := by
  cases testOnly <;> cases quiet <;> exact ⟨rfl, rfl, rfl⟩

/-- A command that opens its log is left by the failures to read the layout, to make the plan and
    to show it. The log is opened already, so what is kept of the run does not matter. -/
theorem run_endsBy_of_opened (h : Accepts w args c s config) (hlog : logRefusal? w s = none)
    {contents : String} (hcontents : c.layout.bind w.file? = some contents) :
    EndsBy c (LayoutEscapes w.display c contents) (run w args) := by
  -- Nothing else happens between the log and the layout.
  cases hparse : Layout.parse contents with
  | ok layouts =>
      rw [run_of_accepts h hlog, probe_answer_of_layout s hcontents, hparse]
      refine (((runPlan_endsBy w s c config _).logging _).keeping _).congr fun f =>
        ⟨fun hf => .plan hparse hf, ?_⟩
      rintro (⟨_, hf⟩ | ⟨hlayouts, hf⟩)
      · exact absurd (hparse.symm.trans hf) (by simp only [reduceCtorEq, not_false_eq_true])
      · rw [Except.ok.inj (hparse.symm.trans hlayouts)]
        exact hf
  | error f =>
      rw [run_of_unread h hlog hcontents hparse]
      refine ((endsBy_passedOn fun f' => ?_).logging _).keeping _
      constructor
      · rintro (⟨_, hf'⟩ | ⟨hlayouts, _⟩)
        · exact Except.error.inj (hparse.symm.trans hf')
        · exact absurd (hparse.symm.trans hlayouts)
            (by simp only [reduceCtorEq, not_false_eq_true])
      · rintro rfl
        exact .layout (Layout.parse_failsWith contents f hparse) hparse

/-- Exactly the failure to open the log, the failures to read the layout, those to make the plan
    that are no problems, and those to show it leave a command. Every other run ends well or is
    reported. -/
theorem run_endsBy (h : Accepts w args c s config) {contents : String}
    (hcontents : c.layout.bind w.file? = some contents) :
    EndsBy c (Escapes w s c contents) (run w args) := by
  -- The log comes before everything else, so its refusal leaves nothing to the other failures.
  cases hlog : logRefusal? w s with
  | none =>
      refine (run_endsBy_of_opened h hlog hcontents).congr fun f => ⟨fun hf => .opened hlog hf, ?_⟩
      rintro (⟨hrefused⟩ | ⟨_, hf⟩)
      · exact absurd (hlog.symm.trans hrefused) (by simp only [reduceCtorEq, not_false_eq_true])
      · exact hf
  | some r =>
      rw [run_of_logRefusal h hlog]
      refine endsBy_passedOn fun f' => ⟨?_, ?_⟩
      · rintro (⟨hrefused⟩ | ⟨hopened, _⟩)
        · rw [Option.some.inj (hlog.symm.trans hrefused)]
        · exact absurd (hlog.symm.trans hopened) (by simp only [reduceCtorEq, not_false_eq_true])
      · rintro rfl
        exact .log hlog

/-- A layout that is no JSON ends the command with the failure to read it. -/
theorem run_endsBy_ofBrace :
    Accepts (.ofLayout "\x7b" fun _ => none) (argumentsOfGap false true) (.ofGap false true)
        (.usual (World.ofLayout "\x7b" fun _ => none).surroundings)
        ⟨.parse "fs", "host", "us", "C", .parse "list"⟩ ∧
      (run (.ofLayout "\x7b" fun _ => none) (argumentsOfGap false true)).ending =
        .failed (.ofFault "\x7b" (.malformed .name 0)) := by
  have haccepts := accepts_ofGap "\x7b" (fun _ => none) false true
  refine ⟨haccepts, ?_⟩
  have hends := run_endsBy haccepts (show _ = some "\x7b" from rfl)
  have hparse : Layout.parse "\x7b" = .error (.ofFault "\x7b" (.malformed .name 0)) := by
    decide +kernel
  exact (hends.failed_iff _).mpr (.opened rfl (.layout (.malformed _) hparse))

/-- A valid command is not always told of by a line and a status: it is left by a text that is
    not JSON, by a list that is a number, and by a filesystem that is a number. -/
theorem run_failed_ofTexts :
    let runOf (contents : String) :=
      run (.ofLayout contents fun _ => none) (argumentsOfGap false true)
    (runOf "\x7b").ending = .failed (.ofFault "\x7b" (.malformed .name 0)) ∧
      (runOf "\x7b\"disks\":5\x7d").ending =
        .failed (.ofIssues [⟨[.field "disks"], .list⟩]) ∧
      (runOf ("\x7b\"disks\":[\x7b\"device_path\":\"sda\",\"sectors\":40000,\"partitions\":" ++
        "[\x7b\"number\":1,\"start_sector\":5000,\"end_sector\":9999,\"filesystem\":5\x7d]\x7d]" ++
        "\x7d")).ending = .failed (.misfit (.lacks (.int 5) "lower")) := by
  intro runOf
  -- Each of the texts is read by evaluation, and the run is left by what that gives.
  have hfailed : ∀ {contents f}, Layout.parse contents = .error f →
      (runOf contents).ending = .failed f := by
    intro contents f hparse
    exact congrArg Run.ending
      (run_of_unread (accepts_ofGap contents (fun _ => none) false true) rfl rfl hparse)
  exact ⟨hfailed (by decide +kernel), hfailed (by decide +kernel), hfailed (by decide +kernel)⟩

/-! ### JSON output -/

end Program

end DiskPlan
