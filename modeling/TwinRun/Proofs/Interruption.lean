import TwinRun.Proofs.Breaks

/-!
What a run that stops with a fault leaves behind, on any system.

* `Scratch.keeps_prepare`: preparing the scratch directory starts no stage.
* `Harness.concerns_of_breaks`: the faults of a case name its artifacts or a stage.
* `Harness.Stops`: the build step, the scratch directory or some case stops the run.
* `Harness.run_stops`: the report then holds the cases before it, each one whole, and nothing of the
  case that has failed.
-/

namespace TwinRun

/-! ### Preparing the scratch directory -/

section Scratch

variable {σ γ : Type} {host : Host σ} {view : σ → γ}

theorem Host.SeesStartsOnly.tell (h : host.SeesStartsOnly view) (e : Log.Event) :
    Keeps view (host.tell e) := h.note e

theorem Host.SeesStartsOnly.makeDirectories (h : host.SeesStartsOnly view) (paths : List Path) :
    Keeps view (host.makeDirectories paths) :=
  Moves.makeDirectories (R := fun s s' => view s' = view s) (fun _ => rfl) (fun h h' => h'.trans h)
    fun p _ => h.makeDirectory p

/-- Preparing the scratch directory starts no stage, whether it succeeds or fails. -/
theorem Scratch.keeps_prepare (h : host.SeesStartsOnly view) (scratch : Path) :
    Keeps view (Scratch.prepare host scratch) := by
  refine ((h.makeDirectories _).orFault _).bind fun _ => ?_
  refine ((h.list scratch).orFault _).bind fun entries => ?_
  refine .bind (.forM fun entry => ?_) fun _ => h.tell _
  unfold Scratch.removeEntry
  split
  · exact .throw _
  · refine Keeps.orFault ?_ _
    split
    · exact h.removeTree _
    · exact h.removeFile _

end Scratch

/-! ### The faults of a case -/

/-- The faults over a case: one of its artifacts cannot be made, written or read, or a stage that
was started is lost. -/
inductive Fault.Concerns (config : Config) (case : Case) : Fault → Prop
  | artifact (side : Side) (action : ArtifactAction) (cause : SystemError) :
      Concerns config case (.artifact (config.artifactPath side case) action cause)
  | lexer (side : Side) (cause : SystemError) :
      Concerns config case (.lostProcess (config.variant side).lexer.display cause)
  | parser (side : Side) (cause : SystemError) :
      Concerns config case (.lostProcess (config.variant side).parser.display cause)

section Concerns

variable {σ : Type} {host : Host σ} {config : Config} {case : Case} {s s' : σ} {f : Fault}

open Pipeline in
theorem Fault.concerns_of_captured (side : Side) {h : Handle} {stage : Stage} {input : Bytes}
    (hlost : ∀ cause, Concerns config case (.lostProcess stage.display cause))
    (hbreaks : CapturedBreaks host (config.artifactPath side case) h stage input s f s') :
    f.Concerns config case := by
  cases hbreaks with
  | out | err => exact .artifact side .duplicateHandle _
  | lost => exact hlost _
  | message => exact .artifact side .write _

open Pipeline in
/-- A pipeline fails only over its artifact or because a stage is lost. -/
theorem Fault.concerns_of_variant (side : Side) {file : Path} {mode : Mode}
    (hbreaks : VariantBreaks host file mode (config.variant side) (config.artifactPath side case)
      s f s') : f.Concerns config case := by
  cases hbreaks with
  | create => exact .artifact side .create _
  | lexer _ _ hbreaks =>
      -- The case file is an argument; the program is the same.
      have hlost : ∀ cause, Concerns config case
          (.lostProcess ((config.variant side).lexer.withArgs [file.bytes]).display cause) :=
        .lexer side
      exact concerns_of_captured side hlost hbreaks
  | parser _ _ _ hbreaks => exact concerns_of_captured side (.parser side) hbreaks
  | lost => exact .lexer side _
  | message => exact .artifact side .write _
  | parserAlone _ _ _ _ hbreaks => exact concerns_of_captured side (.parser side) hbreaks

end Concerns

namespace Harness

variable {σ : Type} {host : Host σ} {config : Config} {s s' : σ} {f : Fault}

/-- Running and comparing a case fails only over this case, or in a panic over its artifacts. -/
theorem concerns_of_breaks {case : Case} (h : CaseBreaks host config case s f s') :
    f.Concerns config case ∨
      ∃ p, f = .panic p ∧ host.overflow = .panics ∧ OutOfRoom host config case := by
  cases h with
  | candidate hbreaks => exact .inl (Fault.concerns_of_variant .candidate hbreaks)
  | reference _ _ hbreaks => exact .inl (Fault.concerns_of_variant .reference hbreaks)
  | readReference => exact .inl (.artifact .reference .read _)
  | readCandidate => exact .inl (.artifact .candidate .read _)
  | compare hrun hreference hcandidate hpanic =>
      exact .inr ⟨_, rfl, outOfRoom_of_panic (.compare hrun hreference hcandidate hpanic)⟩

/-! ### Whole cases -/

/-- Each separator is followed at once by a comparison of the same case. -/
def Paired (calls : List ReportCall) : Prop :=
  ∀ before name after, calls = before ++ .separator name :: after →
    ∃ c rest, after = .comparison c :: rest ∧ c.caseName = name

/-- The cases that have been run are reported whole. -/
theorem paired_reports {ran : List Compared} (h : Ran host config s ran s') :
    Paired (reports ran) := by
  induction h with
  | nil =>
      intro before name after h
      exact absurd h (by simp [reports])
  | @cons s s₁ s' x ran hx _ ih =>
      intro before name after h
      have hcons : reports (x :: ran)
          = .separator x.case.name :: .comparison x.comparison :: reports ran := rfl
      rw [hcons] at h
      -- A separator is the first call of the case `x`, or a call of one of the later cases; the
      -- second call of `x` is its comparison.
      cases before with
      | nil =>
          obtain ⟨hname, rfl⟩ := List.cons.inj h
          exact ⟨_, _, rfl, (caseName_of_compares hx).trans (ReportCall.separator.inj hname)⟩
      | cons first before =>
          cases before with
          | nil => cases (List.cons.inj (List.cons.inj h).2).1
          | cons second before =>
              exact ih before name after (List.cons.inj (List.cons.inj h).2).2

/-! ### Where a run stops -/

/-- What stops a run that starts at `s`: the cases that it has run and compared by then, and the
system as it is left. -/
inductive Stops (host : Host σ) (config : Config) (options : RunOptions) (s : σ) (f : Fault) :
    List Compared → σ → Prop
  /-- The build step fails. -/
  | build {s' : σ} (h : build host config options s = .error f s') :
      Stops host config options s f [] s'
  /-- The scratch directory cannot be made or emptied. -/
  | prepare {s₁ s' : σ} (hbuild : Harness.build host config options s = .ok () s₁)
      (h : Scratch.prepare host config.scratchDir s₁ = .error f s') :
      Stops host config options s f [] s'
  /-- After some cases, the next one cannot be run or compared. -/
  | case {selected : List Case} {ran : List Compared} {case : Case} {later : List Case}
      {s₁ s₂ s' : σ} (hsetUp : setUp host config options s = .ok selected s₁)
      (hselected : selected = ran.map Compared.case ++ case :: later)
      (hran : Ran host config s₁ ran s₂) (h : compareCase host config case s₂ = .error f s') :
      Stops host config options s f ran s'

theorem ran_of_stops {options : RunOptions} {ran : List Compared}
    (h : Stops host config options s f ran s') : ∃ s₁ s₂, Ran host config s₁ ran s₂ := by
  cases h with
  | build | prepare => exact ⟨s', s', .nil s'⟩
  | case _ _ hran => exact ⟨_, _, hran⟩

theorem run_eq_error_iff_stops {options : RunOptions} {r : List ReportCall} {p : Progress σ} :
    run host config options ⟨s, r⟩ = .error f p ↔
      ∃ ran s', Stops host config options s f ran s' ∧ p = ⟨s', r ++ reports ran⟩ := by
  have hnone : r ++ reports [] = r := List.append_nil r
  rw [run_eq_error]
  -- Before the first case nothing has been reported, which is the run over no cases.
  constructor
  · rintro (⟨s', hsetUp, rfl⟩ |
      ⟨selected, s₁, ran, case, later, s₂, s₃, hsetUp, hselected, hran, hfail, rfl⟩)
    · rcases setUp_eq_error.mp hsetUp with hbuild | ⟨s₁, hbuild, hprepare⟩
      · exact ⟨[], s', .build hbuild, by rw [hnone]⟩
      · exact ⟨[], s', .prepare hbuild hprepare, by rw [hnone]⟩
    · exact ⟨ran, s₃, .case hsetUp hselected hran hfail, rfl⟩
  · rintro ⟨ran, s', hstops, rfl⟩
    cases hstops with
    | build h => exact .inl ⟨s', setUp_eq_error.mpr (.inl h), by rw [hnone]⟩
    | prepare hbuild h => exact .inl ⟨s', setUp_eq_error.mpr (.inr ⟨_, hbuild, h⟩), by rw [hnone]⟩
    | case hsetUp hselected hran h =>
        exact .inr ⟨_, _, ran, _, _, _, s', hsetUp, hselected, hran, h, rfl⟩

/-- **A run that stops leaves whole cases.** A run fails exactly if the build step, preparing the
scratch directory or some case does. It then returns this fault, leaves the system as that phase has
left it, and has reported of each case before it a separator and its comparison, and nothing more.
Each of these phases fails exactly where one of its operations does: the build step cannot be
started or waited for, or does not succeed; the scratch directory cannot be made or listed, or one
of its entries cannot be told or removed; an artifact cannot be opened, duplicated, written or read,
or a stage cannot be waited for, or comparing ends in a panic.
Where the scratch directory cannot be prepared, no stage has been started since the build step;
where a case fails, its fault tells of its own artifacts or stages, or is a panic over a context
that leaves no room for its artifacts, and this only where sums are checked. And in every run,
failed or not, each separator that is reported is followed at once by the comparison of the same
case. -/
theorem run_stops (host : Host σ) (config : Config) (options : RunOptions) (s : σ)
    (r : List ReportCall) :
    (∀ f p, run host config options ⟨s, r⟩ = .error f p ↔
      ∃ ran s', Stops host config options s f ran s' ∧ p = ⟨s', r ++ reports ran⟩) ∧
    ((∀ s f s', build host config options s = .error f s' ↔
        BuildBreaks host config options s f s') ∧
      (∀ s f s', Scratch.prepare host config.scratchDir s = .error f s' ↔
        Scratch.Breaks host config.scratchDir s f s') ∧
      ∀ case s f s', compareCase host config case s = .error f s' ↔
        CaseBreaks host config case s f s') ∧
    (∀ s₁ f s', build host config options s = .ok () s₁ →
      Scratch.prepare host config.scratchDir s₁ = .error f s' →
      ∀ {γ : Type} (view : σ → γ), host.SeesStartsOnly view → view s' = view s₁) ∧
    (∀ case s₂ f s', compareCase host config case s₂ = .error f s' →
      f.Concerns config case ∨
        ∃ p, f = .panic p ∧ host.overflow = .panics ∧ OutOfRoom host config case) ∧
    ∃ ran s₁ s₂, Ran host config s₁ ran s₂ ∧
      (endState (run host config options ⟨s, r⟩)).reported = r ++ reports ran ∧
      Paired (reports ran) := by
  refine ⟨fun f p => run_eq_error_iff_stops, ⟨fun s f s' => build_eq_error,
    fun s f s' => Scratch.prepare_eq_error, fun case s f s' => compareCase_eq_error⟩, ?_, ?_, ?_⟩
  · intro s₁ f s' _ hprepare γ view hview
    -- Preparing never starts a stage, whatever its outcome, so no view that sees starts only has
    -- changed.
    have hkept := Scratch.keeps_prepare hview config.scratchDir s₁
    rw [hprepare] at hkept
    exact hkept
  · intro case s₂ f s' hfail
    exact concerns_of_breaks (compareCase_eq_error.mp hfail)
  · cases hrun : run host config options ⟨s, r⟩ with
    | ok t p =>
        obtain ⟨selected, s₁, ran, s₂, -, -, hran, -, rfl⟩ := run_eq_ok.mp hrun
        exact ⟨ran, s₁, s₂, hran, rfl, paired_reports hran⟩
    | error f p =>
        obtain ⟨ran, s', hstops, rfl⟩ := run_eq_error_iff_stops.mp hrun
        obtain ⟨s₁, s₂, hran⟩ := ran_of_stops hstops
        exact ⟨ran, s₁, s₂, hran, rfl, paired_reports hran⟩

/-! ### A stage that removes the scratch directory -/

/-- All stages print their arguments, but on the second case the candidate also removes the scratch
directory. -/
def wreckingStarter : World.Starter := fun launch w =>
  let wrecks := launch.stage
    = rerunConfig.candidate.lexer.withArgs [Bytes.ofString "cases/b.cl"]
  let left := w.files.nodes.filter fun node => ¬ [Bytes.ofString "temp"] <+: node.1
  .ok ⟨[(.out, launch.stage.args.flatten)],
    if wrecks then { w.files with nodes := left } else w.files, .ofCode 0⟩

def wreckedScene : World where
  files :=
    { nodes :=
        [([.ofString "cases"], .directory),
          ([.ofString "cases", .ofString "a.cl"], .file 0 (.ofString "1") false),
          ([.ofString "cases", .ofString "b.cl"], .file 1 (.ofString "2") false),
          ([.ofString "cases", .ofString "c.cl"], .file 2 (.ofString "3") false)]
      nextIdentity := 3 }
  directory := []

/-- The scene before the first case: the scratch directory has been made. -/
def wreckedStart : World :=
  { wreckedScene with
    files := { wreckedScene.files with
      nodes := wreckedScene.files.nodes ++ [([.ofString "temp"], .directory)] } }

/-- The first case, with what both sides print. -/
def wreckedFirst : Compared :=
  ⟨⟨.ofString "cases/a.cl", "a"⟩, .ofString "cases/a.cl", .ofString "cases/a.cl",
    ⟨"a", "temp/a_ref.out", "temp/a_my.out", []⟩⟩

def wreckedBetween : World :=
  endState (compareCase (World.hostOf wreckingStarter .silent) rerunConfig wreckedFirst.case
    wreckedStart)

theorem run_stops_wrecked :
    ∃ w, run (World.hostOf wreckingStarter .silent) rerunConfig {} ⟨wreckedScene, []⟩
      = .error (.artifact (.ofString "temp/b_ref.out") .create .notFound)
        ⟨w, [.separator "a", .comparison ⟨"a", "temp/a_ref.out", "temp/a_my.out", []⟩]⟩ := by
  let host := World.hostOf wreckingStarter .silent
  let second : Case := ⟨.ofString "cases/b.cl", "b"⟩
  let third : Case := ⟨.ofString "cases/c.cl", "c"⟩
  have hsetUp : setUp host rerunConfig {} wreckedScene
      = .ok [wreckedFirst.case, second, third] wreckedStart := by cbv
  have hrun : Pipeline.runCase host wreckedFirst.case .lexer rerunConfig.candidate
      rerunConfig.reference rerunConfig.scratchDir wreckedStart
        = .ok ⟨.ofString "temp/a_my.out", .ofString "temp/a_ref.out"⟩ wreckedBetween := by cbv
  have hread : ∀ side, Artifact.read host (rerunConfig.artifactPath side wreckedFirst.case)
      wreckedBetween = .ok (.ofString "cases/a.cl") wreckedBetween := by
    intro side
    cases side <;> cbv
  have hfail : compareCase host rerunConfig second wreckedBetween
      = .error (.artifact (.ofString "temp/b_ref.out") .create .notFound)
        (endState (compareCase host rerunConfig second wreckedBetween)) := by cbv
  have hcomparing : comparing host rerunConfig wreckedFirst.case wreckedFirst.reference
      wreckedFirst.candidate = .ok wreckedFirst.comparison := by decide
  have hran : Ran host rerunConfig wreckedStart [wreckedFirst] wreckedBetween :=
    .cons ⟨_, _, _, hrun, hread .reference, hread .candidate, hcomparing⟩ (.nil _)
  have hstops : Stops host rerunConfig {} wreckedScene _ [wreckedFirst] _ :=
    .case hsetUp rfl hran hfail
  have hreports : reports [wreckedFirst]
      = [.separator "a", .comparison ⟨"a", "temp/a_ref.out", "temp/a_my.out", []⟩] := by decide
  have herror := ((run_stops host rerunConfig {} wreckedScene []).1 _ _).mpr ⟨_, _, hstops, rfl⟩
  rw [hreports] at herror
  exact ⟨_, herror⟩

end Harness

end TwinRun
