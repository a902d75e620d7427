import Mathlib
import TwinRun.Harness
import TwinRun.Proofs.Artifact
import TwinRun.Proofs.Diff.Words
import TwinRun.Proofs.Discovery
import TwinRun.Proofs.Pipeline
import TwinRun.Proofs.Scratch

/-!
A whole run as a map over its cases.

* `Harness.compareCase_spec`: comparing a case compares the outputs of the two front ends on it,
  whatever the scratch directory holds.
* `Harness.runCases_spec`: case after case, the calls are reported in order, and each case replaces
  its own two artifacts.
* `Harness.run_eq_map`: so a whole run does what its cases do one by one, and leaves their artifacts
  and nothing else.
-/

namespace TwinRun

namespace Config

def Uses (config : Config) (stage : Stage) : Prop :=
  ∃ side, (config.variant side).Uses config.mode stage

/-- Where the output of one side on a case is kept. -/
def artifactPath (config : Config) (side : Side) (case : Case) : Path :=
  TwinRun.artifactPath config.scratchDir case.name (config.variant side).label

def artifactFile (config : Config) (side : Side) (case : Case) : Bytes :=
  Bytes.ofString (artifactName case.name (config.variant side).label)

def output (config : Config) (programs : Programs) (side : Side) (case : Case) : Bytes :=
  Pipeline.output programs config.mode (config.variant side) case.path

/-- The comparison of a case, given the outputs of the two sides. -/
def comparison (config : Config) (overflow : Overflow) (output : Side → Case → Bytes)
    (case : Case) : Except Panic Comparison :=
  Comparison.ofBytesIn overflow case.name
    (config.artifactPath .reference case) (output .reference case)
    (config.artifactPath .candidate case) (output .candidate case)
    config.contextLines

/-- What comparing the cases one by one gives. -/
def Compares (config : Config) (overflow : Overflow) (output : Side → Case → Bytes) :
    (selected : List Case) → (comparisons : List Comparison) → Prop :=
  List.Forall₂ fun case c => config.comparison overflow output case = .ok c

/-- The context leaves room for the outputs of a case. -/
def Room (config : Config) (output : Side → Case → Bytes) (case : Case) : Prop :=
  (output .reference case).length + (output .candidate case).length + 2 * config.contextLines
    < 2 ^ 64

/-- What is reported of comparisons: each after the separator of its case. -/
def calls (comparisons : List Comparison) : List ReportCall :=
  comparisons.flatMap fun c => [.separator c.caseName, .comparison c]

/-- What a run over the cases has seen: how many there are, and whose outputs differ. -/
def summary (output : Side → Case → Bytes) (selected : List Case) : Summary :=
  { cases := selected.length
    diverged := (selected.filter fun case => output .reference case ≠ output .candidate case).map
      Case.name }

/-- What is kept after a case. -/
def keptAfter (config : Config) (output : Side → Case → Bytes) (kept : Bytes → Option Bytes)
    (case : Case) : Bytes → Option Bytes :=
  Function.update
    (Function.update kept (config.artifactFile .candidate case) (some (output .candidate case)))
    (config.artifactFile .reference case) (some (output .reference case))

/-- The directory at `l` holds the artifacts of the cases and nothing else. Where several cases
share a name, the last of them counts. -/
structure Kept (config : Config) (output : Side → Case → Bytes) (selected : List Case)
    (l : Location) (w : World) : Prop where
  entries : ∀ x, x ≠ [] → ((w.files.get? (l ++ x)).isSome ↔
    ∃ case ∈ selected, ∃ side, x = [config.artifactFile side case])
  contents : ∀ earlier case later, selected = earlier ++ case :: later →
    (∀ other ∈ later, other.name ≠ case.name) →
    ∀ side, w.files.read w.directory (config.artifactPath side case) = .ok (output side case)

section Artifacts

variable {config : Config} {output : Side → Case → Bytes} {kept : Bytes → Option Bytes}

/-- Artifacts of one name are those of one side and of cases with one name. -/
theorem artifactFile_inj (hvalid : config.validate = .ok ()) {side side' : Side}
    {case case' : Case} : config.artifactFile side case = config.artifactFile side' case' ↔
      side = side' ∧ case.name = case'.name := by
  obtain ⟨hlabels, hne⟩ := Config.labels_of_validate hvalid
  constructor
  · intro h
    obtain ⟨hname, hlabel⟩ := artifactName_injective (hlabels side) (hlabels side')
      (Bytes.ofString_injective h)
    refine ⟨?_, hname⟩
    cases side <;> cases side'
    · rfl
    · exact absurd hlabel hne
    · exact absurd hlabel.symm hne
    · rfl
  · rintro ⟨rfl, hname⟩
    rw [artifactFile, artifactFile, hname]

/-- The two artifacts of a case differ. -/
theorem artifactFile_ne (hvalid : config.validate = .ok ()) (case : Case) :
    config.artifactFile .candidate case ≠ config.artifactFile .reference case := by
  intro h
  cases ((artifactFile_inj hvalid).mp h).1

theorem keptAfter_artifactFile (hvalid : config.validate = .ok ()) (side : Side) (case : Case) :
    config.keptAfter output kept case (config.artifactFile side case)
      = some (output side case) := by
  cases side with
  | candidate =>
      exact (Function.update_of_ne (artifactFile_ne hvalid case) _ _).trans
        (Function.update_self _ _ _)
  | reference => exact Function.update_self _ _ _

theorem keptAfter_of_ne {case : Case} {a : Bytes} (h : ∀ side, a ≠ config.artifactFile side case) :
    config.keptAfter output kept case a = kept a := by
  rw [keptAfter, Function.update_of_ne (h .reference), Function.update_of_ne (h .candidate)]

/-- What is kept in the end are the artifacts of the cases, and what was kept before. -/
theorem isSome_foldl_keptAfter (hvalid : config.validate = .ok ()) (selected : List Case)
    (a : Bytes) : (selected.foldl (config.keptAfter output) kept a).isSome ↔
      (kept a).isSome ∨ ∃ case ∈ selected, ∃ side, a = config.artifactFile side case := by
  induction selected generalizing kept with
  | nil => simp
  | cons case selected ih =>
      rw [List.foldl_cons, ih, List.exists_mem_cons_iff, ← or_assoc]
      refine or_congr_left ?_
      by_cases h : ∃ side, a = config.artifactFile side case
      · obtain ⟨side, rfl⟩ := h
        rw [keptAfter_artifactFile hvalid]
        exact iff_of_true rfl (.inr ⟨side, rfl⟩)
      · rw [keptAfter_of_ne (not_exists.mp h), or_iff_left h]

theorem foldl_keptAfter_of_ne {selected : List Case} {a : Bytes}
    (h : ∀ case ∈ selected, ∀ side, a ≠ config.artifactFile side case) :
    selected.foldl (config.keptAfter output) kept a = kept a := by
  induction selected generalizing kept with
  | nil => rfl
  | cons case selected ih =>
      obtain ⟨hcase, hselected⟩ := List.forall_mem_cons.mp h
      rw [List.foldl_cons, ih hselected, keptAfter_of_ne hcase]

/-- The last case of a name leaves its outputs. -/
theorem foldl_keptAfter_last (hvalid : config.validate = .ok ()) {earlier later : List Case}
    {case : Case} (hlast : ∀ other ∈ later, other.name ≠ case.name) (side : Side) :
    (earlier ++ case :: later).foldl (config.keptAfter output) kept (config.artifactFile side case)
      = some (output side case) := by
  rw [List.foldl_append, List.foldl_cons, foldl_keptAfter_of_ne, keptAfter_artifactFile hvalid]
  intro other hother side' h
  exact hlast other hother ((artifactFile_inj hvalid).mp h).2.symm

end Artifacts

section Comparisons

variable {config : Config} {overflow : Overflow} {output : Side → Case → Bytes}
  {selected : List Case} {comparisons : List Comparison}

theorem caseName_of_comparison {case : Case} {c : Comparison}
    (h : config.comparison overflow output case = .ok c) : c.caseName = case.name :=
  (Comparison.ofBytesIn_eq_ok.mp h).2.1

theorem isMatch_of_comparison {case : Case} {c : Comparison}
    (h : config.comparison overflow output case = .ok c) :
    c.isMatch = true ↔ output .reference case = output .candidate case :=
  Comparison.isMatch_ofBytesIn h

theorem comparison_of_room {case : Case} (h : config.Room output case) (overflow : Overflow) :
    config.comparison overflow output case = .ok (.ofBytes case.name
      (config.artifactPath .reference case) (output .reference case)
      (config.artifactPath .candidate case) (output .candidate case) config.contextLines) :=
  Comparison.ofBytesIn_eq h overflow

/-- Where each case can be compared, all of them are. -/
theorem exists_compares
    (h : ∀ case ∈ selected, ∃ c, config.comparison overflow output case = .ok c) :
    ∃ comparisons, config.Compares overflow output selected comparisons := by
  induction selected with
  | nil => exact ⟨[], .nil⟩
  | cons case selected ih =>
      obtain ⟨⟨c, hc⟩, hselected⟩ := List.forall_mem_cons.mp h
      obtain ⟨comparisons, hcomparisons⟩ := ih hselected
      exact ⟨c :: comparisons, .cons hc hcomparisons⟩

/-- Comparisons are counted in order. -/
theorem foldl_count (h : config.Compares overflow output selected comparisons) (s : Summary) :
    comparisons.foldl Summary.count s = ⟨s.cases + (summary output selected).cases,
      s.diverged ++ (summary output selected).diverged⟩ := by
  induction h generalizing s with
  | nil => simp [summary]
  | @cons case c selected comparisons hc _ ih =>
      have hmatch := isMatch_of_comparison hc
      have hname := caseName_of_comparison hc
      have hcases : s.cases + 1 + selected.length = s.cases + (selected.length + 1) := by omega
      rw [List.foldl_cons, ih, Summary.count]
      by_cases heq : output .reference case = output .candidate case
      · simp [summary, hmatch.mpr heq, heq, hcases]
      · simp [summary, hmatch, heq, hname, hcases]

end Comparisons

end Config

namespace Harness

variable {start : World} {l : Location} {kept : Bytes → Option Bytes} {w : World}
  {starter : World.Starter} {config : Config} {programs : Programs}

/-! ### One case -/

/-- A case whose artifacts can be made: their names are ordinary, and their paths are not too
long. -/
structure Writable (config : Config) (case : Case) : Prop where
  ordinary : ∀ side, OrdinaryName (config.artifactFile side case)
  fits : ∀ side, Files.Fits config.scratchDir (config.artifactFile side case)

/-- Running one side replaces its artifact. -/
theorem runSide_spec (filter : Log.Filter) (hruns : World.Runs starter config.Uses start l programs)
    (hp : Prepared start config.scratchDir l) (h : Standing start l kept w) {case : Case}
    (hw : Writable config case) (side : Side) :
    ∃ w', (do
        let outcome ← Pipeline.runVariant (World.hostOf starter filter overflow) case.path
          config.mode (config.variant side) (config.artifactPath side case)
        Pipeline.tellOutcome (World.hostOf starter filter overflow) case.name side outcome) w
          = .ok () w' ∧
      Standing start l (Function.update kept (config.artifactFile side case)
        (some (config.output programs side case))) w' := by
  obtain ⟨outcome, w₁, hrun, h₁⟩ := Pipeline.runVariant_spec filter hruns hp h (hw.ordinary side)
    (hw.fits side) case.path fun stage hstage => ⟨side, hstage⟩
  have hquiet := World.quiet_hostOf starter filter overflow
  obtain ⟨_, w₂, htell, halike, -⟩ :=
    Pipeline.looks_tellOutcome hquiet case.name side outcome w₁
  exact ⟨w₂, (bind_of_ok hrun _).trans htell, h₁.of_alike halike⟩

/-- Running and comparing a case replaces its two artifacts, whether they can be compared or not. -/
theorem compareCase_spec (filter : Log.Filter) (overflow : Overflow)
    (hvalid : config.validate = .ok ())
    (hruns : World.Runs starter config.Uses start l programs)
    (hp : Prepared start config.scratchDir l) (h : Standing start l kept w) {case : Case}
    (hw : Writable config case) :
    ∃ w', Standing start l (config.keptAfter (config.output programs) kept case) w' ∧
      (∀ c, config.comparison overflow (config.output programs) case = .ok c →
        compareCase (World.hostOf starter filter overflow) config case w = .ok c w') ∧
      ∀ p, config.comparison overflow (config.output programs) case = .error p →
        compareCase (World.hostOf starter filter overflow) config case w
          = .error (.panic p) w' := by
  -- First the candidate, then the reference.
  obtain ⟨w₁, hcandidate, h₁⟩ := runSide_spec filter hruns hp h hw .candidate
  obtain ⟨w₂, hreference, h₂⟩ := runSide_spec filter hruns hp h₁ hw .reference
  have hread : ∀ side,
      Artifact.read (World.hostOf starter filter overflow) (config.artifactPath side case) w₂
        = .ok (config.output programs side case) w₂ := fun side =>
    Artifact.read_spec starter filter hp h₂ (hw.ordinary side) (hw.fits side)
      (Config.keptAfter_artifactFile hvalid side case)
  obtain ⟨o, w₁', hrun, htell⟩ := bind_eq_ok.mp hcandidate
  obtain ⟨o', w₂', hrun', htell'⟩ := bind_eq_ok.mp hreference
  have hcase : Pipeline.runCase (World.hostOf starter filter overflow) case config.mode
      config.candidate config.reference config.scratchDir w
        = .ok ⟨config.artifactPath .candidate case, config.artifactPath .reference case⟩ w₂ :=
    (bind_of_ok hrun _).trans ((bind_of_ok htell _).trans
      ((bind_of_ok hrun' _).trans (bind_of_ok htell' _)))
  -- Once both artifacts have been read, only the comparison is left.
  have hcompare : compareCase (World.hostOf starter filter overflow) config case w
      = Work.orPanic (config.comparison overflow (config.output programs) case) w₂ :=
    (bind_of_ok hcase _).trans
      ((bind_of_ok (hread .reference) _).trans (bind_of_ok (hread .candidate) _))
  refine ⟨w₂, h₂, fun c hc => ?_, fun p hp => ?_⟩
  · rw [hcompare, hc]
    rfl
  · rw [hcompare, hp]
    rfl

/-! ### Case after case -/

theorem lift_eq_ok {σ α : Type} {work : Work σ α} {p p' : Progress σ} {a : α} :
    work.lift p = .ok a p' ↔ ∃ s, work p.system = .ok a s ∧ p' = { p with system := s } := by
  rw [Work.lift]
  cases work p.system with
  | ok b s => simp [eq_comm]
  | error f s => simp

theorem lift_eq_error {σ α : Type} {work : Work σ α} {p p' : Progress σ} {f : Fault} :
    work.lift p = .error f p' ↔ ∃ s, work p.system = .error f s ∧ p' = { p with system := s } := by
  rw [Work.lift]
  cases work p.system with
  | ok b s => simp
  | error f s => simp [eq_comm]

theorem lift_of_ok {σ α : Type} {work : Work σ α} {p : Progress σ} {s : σ} {a : α}
    (h : work p.system = .ok a s) : work.lift p = .ok a { p with system := s } :=
  lift_eq_ok.mpr ⟨s, h, rfl⟩

/-- A case is reported once it has been compared. -/
theorem runOne_of_ok {host : Host World} {case : Case} {c : Comparison}
    (hcompare : compareCase host config case w = .ok c w') (hname : c.caseName = case.name)
    (reported : List ReportCall) :
    runOne host config case ⟨w, reported⟩ = .ok c ⟨w', reported ++ Config.calls [c]⟩ := by
  have hcalls : reported ++ Config.calls [c]
      = reported ++ [.separator case.name] ++ [.comparison c] := by
    simp [Config.calls, hname]
  rw [hcalls]
  exact bind_of_ok (lift_of_ok hcompare) _

/-- Case after case, from any summary on: the calls are reported in order, the comparisons are
counted, and each case replaces its own two artifacts. -/
theorem foldlM_runOne_spec (filter : Log.Filter) (hvalid : config.validate = .ok ())
    (hruns : World.Runs starter config.Uses start l programs)
    (hp : Prepared start config.scratchDir l) (h : Standing start l kept w) {selected : List Case}
    (hw : ∀ case ∈ selected, Writable config case) {comparisons : List Comparison}
    (hcompares : config.Compares overflow (config.output programs) selected comparisons)
    (s : Summary) (reported : List ReportCall) :
    ∃ w', selected.foldlM (m := Reporting World) (fun s case => do
          return s.count (← runOne (World.hostOf starter filter overflow) config case)) s
          ⟨w, reported⟩
        = .ok (comparisons.foldl Summary.count s) ⟨w', reported ++ Config.calls comparisons⟩ ∧
      Standing start l (selected.foldl (config.keptAfter (config.output programs)) kept) w' := by
  -- By the cases that are left, from any summary and any calls reported so far; `Standing` says
  -- what the scratch directory holds in between.
  induction hcompares generalizing s reported kept w with
  | nil => exact ⟨w, by rw [Config.calls, List.flatMap_nil, List.append_nil]; rfl, h⟩
  | @cons case c selected comparisons hc _ ih =>
      obtain ⟨hcase, hselected⟩ := List.forall_mem_cons.mp hw
      obtain ⟨w₁, h₁, hcompare, -⟩ :=
        compareCase_spec filter overflow hvalid hruns hp h hcase
      have hone := runOne_of_ok (hcompare c hc) (Config.caseName_of_comparison hc) reported
      obtain ⟨w', hrest, h'⟩ := ih h₁ hselected (s.count c) (reported ++ Config.calls [c])
      have hstep : (do
          return s.count (← runOne (World.hostOf starter filter overflow) config case) :
            Reporting World Summary) ⟨w, reported⟩ = _ := bind_of_ok hone _
      refine ⟨w', (bind_of_ok hstep _).trans (hrest.trans ?_), h'⟩
      rw [List.append_assoc, Config.calls, Config.calls, Config.calls, ← List.flatMap_append]
      rfl

theorem runCases_spec (filter : Log.Filter) (hvalid : config.validate = .ok ())
    (hruns : World.Runs starter config.Uses start l programs)
    (hp : Prepared start config.scratchDir l) (h : Standing start l kept w) {selected : List Case}
    (hw : ∀ case ∈ selected, Writable config case) {comparisons : List Comparison}
    (hcompares : config.Compares overflow (config.output programs) selected comparisons)
    (reported : List ReportCall) :
    ∃ w', runCases (World.hostOf starter filter overflow) config selected ⟨w, reported⟩
        = .ok (Config.summary (config.output programs) selected)
          ⟨w', reported ++ Config.calls comparisons⟩ ∧
      Standing start l (selected.foldl (config.keptAfter (config.output programs)) kept) w' := by
  obtain ⟨w', hrun, h'⟩ := foldlM_runOne_spec filter hvalid hruns hp h hw hcompares {} reported
  rw [Config.foldl_count hcompares] at hrun
  refine ⟨w', hrun.trans ?_, h'⟩
  simp

/-- The cases before one that cannot be compared are reported, and nothing of it. -/
theorem runCases_panic (filter : Log.Filter) (hvalid : config.validate = .ok ())
    (hruns : World.Runs starter config.Uses start l programs)
    (hp : Prepared start config.scratchDir l) (h : Standing start l kept w)
    {earlier later : List Case} {case : Case}
    (hw : ∀ c ∈ earlier ++ case :: later, Writable config c) {comparisons : List Comparison}
    (hcompares : config.Compares overflow (config.output programs) earlier comparisons) {p : Panic}
    (hpanic : config.comparison overflow (config.output programs) case = .error p)
    (reported : List ReportCall) :
    ∃ w', runCases (World.hostOf starter filter overflow) config (earlier ++ case :: later)
        ⟨w, reported⟩ = .error (.panic p) ⟨w', reported ++ Config.calls comparisons⟩ := by
  obtain ⟨hearlier, hrest⟩ := List.forall_mem_append.mp hw
  obtain ⟨w₁, hrun, h₁⟩ :=
    foldlM_runOne_spec filter hvalid hruns hp h hearlier hcompares {} reported
  obtain ⟨w₂, -, -, hcompare⟩ := compareCase_spec filter overflow hvalid hruns hp h₁
    (hrest case List.mem_cons_self)
  have hone : runOne (World.hostOf starter filter overflow) config case
      ⟨w₁, reported ++ Config.calls comparisons⟩
        = .error (.panic p) ⟨w₂, reported ++ Config.calls comparisons⟩ :=
    bind_eq_error.mpr (.inl (lift_eq_error.mpr ⟨w₂, hcompare p hpanic, rfl⟩))
  refine ⟨w₂, ?_⟩
  rw [runCases, List.foldlM_append, bind_of_ok hrun, List.foldlM_cons]
  exact bind_eq_error.mpr (.inl (bind_eq_error.mpr (.inl hone)))

/-! ### The whole run -/

/-- Finding the cases of a run only looks. -/
theorem looks_cases {σ : Type} {host : Host σ} {R : σ → σ → Prop} (hq : host.Quiet R)
    (config : Config) (text : Option String) :
    Looks R (cases host config text) fun selected => ∀ case ∈ selected, Discovery.Plain case := by
  refine hq.bind (Discovery.looks_inDirectories hq _ _) fun found hfound =>
    hq.pure fun case hcase => hfound case ?_
  unfold selectCases at hcase
  split at hcase
  · exact (List.mem_filter.mp hcase).1
  · exact hcase

/-- A case can be run if its artifacts can be made. -/
theorem writable_of_create (hvalid : config.validate = .ok ())
    (hfind : start.files.find start.directory config.scratchDir true = .ok (l, .directory))
    {case : Case} (hplain : Discovery.Plain case)
    (hcreate : ∀ side, ∃ r, start.files.create start.directory (config.artifactPath side case)
      = .ok r) : Writable config case := by
  obtain ⟨hlabels, -⟩ := Config.labels_of_validate hvalid
  have hordinary : ∀ side, OrdinaryName (config.artifactFile side case) := fun side =>
    ordinaryName_artifactName hplain (hlabels side)
  refine ⟨hordinary, fun side => ?_⟩
  obtain ⟨r, hr⟩ := hcreate side
  exact Files.fits_of_create hfind (hordinary side) hr

/-- An empty directory is where a run stands at first. -/
theorem standing_start (hp : Prepared start config.scratchDir l) (hwf : start.files.WellFormed) :
    Standing start l (fun _ => none) start :=
  { files := hwf
    directory := rfl
    environment := rfl
    outside := rfl
    missing := fun a _ => hp.empty [a] (by simp)
    held := fun _ _ h => by cases h
    deeper := fun a b x => hp.empty (a :: b :: x) (by simp) }

/-- What is kept is in the directory, and nothing else. -/
theorem kept_of_standing (hvalid : config.validate = .ok ())
    (hp : Prepared start config.scratchDir l) {output : Side → Case → Bytes} {selected : List Case}
    (hw : ∀ case ∈ selected, Writable config case)
    (h : Standing start l (selected.foldl (config.keptAfter output) fun _ => none) w) :
    config.Kept output selected l w := by
  refine ⟨fun x hx => ?_, fun earlier case later hselected hlast side => ?_⟩
  · match x, hx with
    | [a], _ =>
        rw [h.isSome_get?, Config.isSome_foldl_keptAfter hvalid]
        simp
    | a :: b :: x, _ =>
        rw [h.deeper]
        simp
  · have hcase := hw case (by rw [hselected]; simp)
    subst hselected
    exact Files.read_join (h.find hp) (hcase.ordinary side) (hcase.fits side)
      (h.held _ _ (Config.foldl_keptAfter_last hvalid hlast side))

/-- The steps before the first case. -/
theorem setUp_of_ok {filter : Log.Filter} {options : RunOptions} {w₀ w₁ w₃ : World}
    {selected : List Case}
    (hbuild : build (World.hostOf starter filter overflow) config options w₀ = .ok () w₁)
    (hprepare : Scratch.prepare (World.hostOf starter filter overflow) config.scratchDir w₁
      = .ok () start)
    (hcases : cases (World.hostOf starter filter overflow) config options.filter start
      = .ok selected w₃) :
    setUp (World.hostOf starter filter overflow) config options w₀
      = .ok selected ((World.hostOf starter filter overflow).note
          (.runStarted config.mode selected.length) w₃) :=
  (bind_of_ok hbuild _).trans ((bind_of_ok hprepare _).trans (bind_of_ok hcases _))

/-- **A run is a map over its cases.** Let the build step be skipped or succeed, and let `start` be
the world once the scratch directory has been prepared, whatever was in it before. Then cases are
found, and if their artifacts can be made, the run succeeds: case after case it reports a separator
and the comparison of the outputs that the two front ends produce on this case alone, its summary
counts the cases and names those whose outputs differ, and in the end the scratch directory holds
the artifacts of the cases and nothing else.

Only a case that cannot be compared stops the run, with the cases before it reported. In a program
whose numbers are cut to words there is no such case, and in any other there is none as long as the
context leaves room for the outputs. -/
theorem run_eq_map {filter : Log.Filter} {overflow : Overflow} {options : RunOptions}
    {w₀ w₁ : World} (hvalid : config.validate = .ok ())
    (hbuild : build (World.hostOf starter filter overflow) config options w₀ = .ok () w₁)
    (hsound : w₁.Sound)
    (hprepare : Scratch.prepare (World.hostOf starter filter overflow) config.scratchDir w₁
      = .ok () start)
    (hfind : start.files.find start.directory config.scratchDir true = .ok (l, .directory))
    (hruns : World.Runs starter config.Uses start l programs) (reported : List ReportCall) :
    ∃ selected w₃,
      cases (World.hostOf starter filter overflow) config options.filter start = .ok selected w₃ ∧
      ((∀ case ∈ selected, ∀ side, ∃ r,
          start.files.create start.directory (config.artifactPath side case) = .ok r) →
        (∀ comparisons, config.Compares overflow (config.output programs) selected comparisons →
          ∃ w', run (World.hostOf starter filter overflow) config options ⟨w₀, reported⟩
              = .ok (Config.summary (config.output programs) selected)
                ⟨w', reported ++ Config.calls comparisons⟩ ∧
            config.Kept (config.output programs) selected l w' ∧
            w'.files.outside l = start.files.outside l) ∧
        ∀ earlier case later comparisons p, selected = earlier ++ case :: later →
          config.Compares overflow (config.output programs) earlier comparisons →
          config.comparison overflow (config.output programs) case = .error p →
          ∃ w', run (World.hostOf starter filter overflow) config options ⟨w₀, reported⟩
              = .error (.panic p) ⟨w', reported ++ Config.calls comparisons⟩) ∧
      (overflow = .wraps ∨ (∀ case ∈ selected, config.Room (config.output programs) case) →
        ∃ comparisons, config.Compares overflow (config.output programs) selected comparisons) ∧
      ∀ case, config.Room (config.output programs) case →
        config.comparison overflow (config.output programs) case = .ok (.ofBytes case.name
          (config.artifactPath .reference case) (config.output programs .reference case)
          (config.artifactPath .candidate case) (config.output programs .candidate case)
          config.contextLines) := by
  obtain ⟨hwf, hdirectory, hempty⟩ := Scratch.prepare_spec hsound hprepare hfind
  have hp : Prepared start config.scratchDir l := ⟨hfind, hdirectory, hempty⟩
  -- Finding the cases only looks, so the directory is still as it was prepared.
  obtain ⟨selected, w₃, hcases, halike, hplain⟩ :=
    looks_cases (World.quiet_hostOf starter filter overflow) config options.filter start
  have hsetUp := lift_of_ok (p := ⟨w₀, reported⟩) (setUp_of_ok hbuild hprepare hcases)
  have h := (standing_start hp hwf).of_alike (halike.trans
    (World.alike_note starter filter overflow (.runStarted config.mode selected.length) w₃))
  refine ⟨selected, w₃, hcases, fun hcreate => ?_, ?_,
    fun case hroom => Config.comparison_of_room hroom overflow⟩
  · have hw : ∀ case ∈ selected, Writable config case := fun case hcase =>
      writable_of_create hvalid hfind (hplain case hcase) (hcreate case hcase)
    constructor
    · intro comparisons hcompares
      obtain ⟨w₄, hrun, h₄⟩ := runCases_spec filter hvalid hruns hp h hw hcompares reported
      have h' := h₄.of_alike (World.alike_note starter filter overflow (.runComplete
        (Config.summary (config.output programs) selected).cases
        (Config.summary (config.output programs) selected).diverged.length) w₄)
      refine ⟨_, ?_, kept_of_standing hvalid hp hw h', h'.outside⟩
      exact (bind_of_ok hsetUp _).trans (bind_of_ok hrun _)
    · rintro earlier case later comparisons p rfl hcompares hpanic
      obtain ⟨w₄, hrun⟩ := runCases_panic filter hvalid hruns hp h hw hcompares hpanic reported
      exact ⟨w₄, (bind_of_ok hsetUp _).trans (bind_eq_error.mpr (.inl hrun))⟩
  · rintro (rfl | hroom)
    · exact Config.exists_compares fun case _ => Comparison.ofBytesIn_wraps ..
    · exact Config.exists_compares fun case hcase =>
        ⟨_, Config.comparison_of_room (hroom case hcase) overflow⟩

/-! ### A run over two cases of one name -/

/-- The lexers of the conventional layout are compared, and nothing is built. -/
def rerunConfig : Config := { Config.conventional with mode := .lexer, build := none }

/-- Both front ends print the path of the case, the candidate not more than its first bytes. -/
def rerunPrograms : Programs := fun stage _ =>
  let printed := stage.args.flatten
  .ok ⟨[(.out, if stage.program = rerunConfig.candidate.lexer.program then printed.take 11
    else printed)], .ofCode 0⟩

/-- Two cases have the name `a`, and earlier runs have left things in the scratch directory: an
artifact of that name, which is also one of the case files, a directory, and a link that leads
out. -/
def rerunScene : World where
  files :=
    { nodes :=
        [([.ofString "cases"], .directory),
          ([.ofString "cases", .ofString "a.cl"], .file 0 (.ofString "1") false),
          ([.ofString "lexer_cases"], .directory),
          ([.ofString "lexer_cases", .ofString "a.cl"], .file 1 (.ofString "2") false),
          ([.ofString "temp"], .directory),
          ([.ofString "temp", .ofString "a_my.out"], .file 0 (.ofString "1") false),
          ([.ofString "temp", .ofString "old"], .directory),
          ([.ofString "temp", .ofString "old", .ofString "b_my.out"], .file 2 [] false),
          ([.ofString "temp", .ofString "up"], .link (.ofString "../cases"))]
      nextIdentity := 3 }
  directory := []

def rerunStart : World :=
  { rerunScene with
    files := { rerunScene.files with nodes := rerunScene.files.nodes.take 5 } }

def rerunCases : List Case :=
  [⟨.ofString "lexer_cases/a.cl", "a"⟩, ⟨.ofString "cases/a.cl", "a"⟩]

/-- The same with as much context as there can be. -/
def wideConfig : Config := { rerunConfig with contextLines := Word.bound - 1 }

def mutePrograms : Programs := fun stage _ =>
  .ok ⟨[(.out, if stage.program = rerunConfig.candidate.lexer.program then [] else .ofString "x")],
    .ofCode 0⟩

/-- A line cannot be shown with that much context, as the place behind it is no word. -/
theorem diffIn_wide :
    diffIn .panics (Bytes.ofString "x") [] wideConfig.contextLines = .error .sum := by
  have hscript : Script.ofLines (Line.split (Bytes.ofString "x")) (Line.split [])
      = [.delete ⟨Bytes.ofString "x", false⟩] := by rfl
  have hplaces : changePlaces [Edit.delete (⟨Bytes.ofString "x", false⟩ : Line)] = [0] := by rfl
  have hgroup : Span.groupIn .panics wideConfig.contextLines [0] = .ok [⟨0, 0⟩] := by rfl
  have hbehind : Word.add .panics 0 wideConfig.contextLines = .ok wideConfig.contextLines := by
    rw [Word.add, Nat.zero_add, Word.settle_eq (by decide)]
  have hstop : Word.add .panics wideConfig.contextLines 1 = .error .sum := by
    rw [Word.add, Word.settle, if_neg (by decide)]
  rw [diffIn, hscript, Hunk.ofScriptIn, hplaces, hgroup]
  simp only [bind, Except.bind, List.mapM_cons, Span.windowIn, hbehind, hstop]

theorem run_eq_map_rerun :
    (∃ comparisons w', run (World.hostOf (World.starterOf rerunPrograms) .silent) rerunConfig {}
          ⟨rerunScene, []⟩ = .ok ⟨2, ["a"]⟩ ⟨w', Config.calls comparisons⟩ ∧
        rerunConfig.Compares .wraps (rerunConfig.output rerunPrograms) rerunCases comparisons ∧
        rerunConfig.Kept (rerunConfig.output rerunPrograms) rerunCases [.ofString "temp"] w' ∧
        w'.files.outside [.ofString "temp"] = rerunStart.files.outside [.ofString "temp"]) ∧
      ∃ w', run (World.hostOf (World.starterOf mutePrograms) .silent .panics) wideConfig {}
          ⟨rerunScene, []⟩ = .error (.panic .sum) ⟨w', []⟩ := by
  have hfind : rerunStart.files.find rerunStart.directory rerunConfig.scratchDir true
      = .ok ([.ofString "temp"], .directory) := by decide
  have hcreate : ∀ case ∈ rerunCases, ∀ side, ∃ r, rerunStart.files.create rerunStart.directory
      (rerunConfig.artifactPath side case) = .ok r := by
    intro case hcase side
    rcases List.mem_cons.mp hcase with rfl | hcase
    · cases side <;> exact ⟨_, rfl⟩
    · obtain rfl := List.mem_singleton.mp hcase
      cases side <;> exact ⟨_, rfl⟩
  constructor
  · let host := World.hostOf (World.starterOf rerunPrograms) .silent
    have hbuild : build host rerunConfig {} rerunScene = .ok () rerunScene := by rfl
    have hprepare : Scratch.prepare host rerunConfig.scratchDir rerunScene = .ok () rerunStart := by
      rfl
    have hcases : cases host rerunConfig none rerunStart = .ok rerunCases rerunStart := by cbv
    obtain ⟨selected, w₃, hselected, hrun, hcompares, -⟩ := run_eq_map (by decide) hbuild
      (by decide) hprepare hfind
      (World.runs_starterOf rerunPrograms rerunConfig.Uses rerunStart _) []
    cases hcases.symm.trans hselected
    obtain ⟨comparisons, hcomparisons⟩ := hcompares (.inl rfl)
    obtain ⟨w', h, hkept, houtside⟩ := (hrun hcreate).1 comparisons hcomparisons
    have hsummary : Config.summary (rerunConfig.output rerunPrograms) rerunCases = ⟨2, ["a"]⟩ := by
      decide
    exact ⟨comparisons, w', by rw [← hsummary]; exact h, hcomparisons, hkept, houtside⟩
  · let host := World.hostOf (World.starterOf mutePrograms) .silent .panics
    have hbuild : build host wideConfig {} rerunScene = .ok () rerunScene := by rfl
    have hprepare : Scratch.prepare host wideConfig.scratchDir rerunScene = .ok () rerunStart := by
      rfl
    have hcases : cases host wideConfig none rerunStart = .ok rerunCases rerunStart := by cbv
    let first : Case := ⟨.ofString "lexer_cases/a.cl", "a"⟩
    have hpanic : wideConfig.comparison .panics (wideConfig.output mutePrograms) first
        = .error .sum := by
      have hhunks : Comparison.hunksIn .panics (wideConfig.output mutePrograms .reference first)
          (wideConfig.output mutePrograms .candidate first) wideConfig.contextLines
            = .error .sum := (if_neg (by decide)).trans diffIn_wide
      rw [Config.comparison, Comparison.ofBytesIn, hhunks]
      rfl
    obtain ⟨selected, w₃, hselected, hrun, -⟩ := run_eq_map (by decide) hbuild
      (by decide) hprepare hfind
      (World.runs_starterOf mutePrograms wideConfig.Uses rerunStart _) []
    cases hcases.symm.trans hselected
    exact (hrun hcreate).2 [] _ _ [] _ rfl .nil hpanic

end Harness

end TwinRun
