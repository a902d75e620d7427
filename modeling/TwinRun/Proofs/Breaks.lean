import TwinRun.Proofs.Phases

/-!
Where a run can break, on any system.

For each phase a relation lists the operations of the system at which it can fail, with the fault
that follows and the system as it is left. A phase fails exactly where its relation says so. That of
preparing the scratch directory is `Scratch.Breaks`.

* `Harness.BuildBreaks`: the build step cannot be started or waited for, or does not succeed.
* `Pipeline.VariantBreaks`: the artifact cannot be opened, duplicated or written, or a stage that
  has been started cannot be waited for.
* `Harness.CaseBreaks`: one of the two pipelines breaks, an artifact cannot be read, or comparing
  what has been read ends in a panic.
-/

namespace TwinRun

variable {σ : Type} {host : Host σ} {config : Config} {s s' : σ} {f : Fault}

/-! ### The build step -/

namespace Harness

def buildLaunch (b : Build) : Launch :=
  { stage := b.command, directory := some b.dir, output := .shown }

/-- The build step that is to be made. -/
def Asks (config : Config) (options : RunOptions) (b : Build) : Prop :=
  config.build = some b ∧ options.skipBuild = false

/-- The build step is left out, or it is made and succeeds. -/
inductive Builds (host : Host σ) (config : Config) (options : RunOptions) (s : σ) : σ → Prop
  | leftOut (h : config.build = none ∨ options.skipBuild = true) :
      Builds host config options s (host.note .buildSkipped s)
  | succeeds {b : Build} {child : Child} {status : ExitStatus} {s₁ s' : σ}
      (hasks : Asks config options b)
      (hstart : host.start (buildLaunch b) (host.note (.buildStarted b.command.display b.dir) s)
        = .ok child s₁)
      (hwait : host.wait child s₁ = .ok status s') (hstatus : status.success = true) :
      Builds host config options s s'

inductive BuildBreaks (host : Host σ) (config : Config) (options : RunOptions) (s : σ) :
    Fault → σ → Prop
  | notStarted {b : Build} {cause : SystemError} {s' : σ} (hasks : Asks config options b)
      (hstart : host.start (buildLaunch b) (host.note (.buildStarted b.command.display b.dir) s)
        = .error cause s') :
      BuildBreaks host config options s (.buildNotStarted b.command.display b.dir cause) s'
  | lost {b : Build} {child : Child} {cause : SystemError} {s₁ s' : σ}
      (hasks : Asks config options b)
      (hstart : host.start (buildLaunch b) (host.note (.buildStarted b.command.display b.dir) s)
        = .ok child s₁)
      (hwait : host.wait child s₁ = .error cause s') :
      BuildBreaks host config options s (.buildNotStarted b.command.display b.dir cause) s'
  /-- Nothing but success will do. -/
  | unsuccessful {b : Build} {child : Child} {status : ExitStatus} {s₁ s' : σ}
      (hasks : Asks config options b)
      (hstart : host.start (buildLaunch b) (host.note (.buildStarted b.command.display b.dir) s)
        = .ok child s₁)
      (hwait : host.wait child s₁ = .ok status s') (hstatus : status.success = false) :
      BuildBreaks host config options s (.buildFailed b.command.display b.dir status) s'

section Build

variable {options : RunOptions}

/-- Whether there is a build step to be made. -/
theorem build_cases (host : Host σ) (config : Config) (options : RunOptions) :
    (config.build = none ∨ options.skipBuild = true) ∧
        build host config options = host.tell .buildSkipped ∨
      ∃ b, Asks config options b ∧ build host config options = b.run host := by
  unfold build
  cases hbuild : config.build with
  | none => exact .inl ⟨.inl rfl, rfl⟩
  | some b =>
      cases hskip : options.skipBuild with
      | true => exact .inl ⟨.inr rfl, rfl⟩
      | false => exact .inr ⟨b, ⟨hbuild, hskip⟩, rfl⟩

/-- The build step once it has been told about. -/
theorem run_build_eq (host : Host σ) (b : Build) (s : σ) :
    b.run host s = (do
      let child ← (host.start (buildLaunch b)).orFault (.buildNotStarted b.command.display b.dir)
      let status ← (host.wait child).orFault (.buildNotStarted b.command.display b.dir)
      if status.success then return
      else throw (.buildFailed b.command.display b.dir status) : Work σ Unit)
        (host.note (.buildStarted b.command.display b.dir) s) :=
  rfl

theorem not_asks (h : config.build = none ∨ options.skipBuild = true) (b : Build) :
    ¬Asks config options b := by
  rintro ⟨hbuild, hskip⟩
  rcases h with h | h
  · rw [h] at hbuild
    cases hbuild
  · rw [h] at hskip
    cases hskip

theorem Asks.unique {b b' : Build} (h : Asks config options b) (h' : Asks config options b') :
    b' = b :=
  Option.some.inj (h'.1.symm.trans h.1)

theorem build_eq_error :
    build host config options s = .error f s' ↔ BuildBreaks host config options s f s' := by
  rcases build_cases host config options with ⟨hout, hbuild⟩ | ⟨b, hasks, hbuild⟩
  · rw [hbuild]
    refine iff_of_false (fun h => by cases h) fun h => ?_
    cases h with
    | notStarted hasks | lost hasks | unsuccessful hasks => exact not_asks hout _ hasks
  · rw [hbuild, run_build_eq]
    constructor
    · intro h
      rcases Operation.orFault_bind_eq_error.mp h with ⟨cause, hstart, rfl⟩ | ⟨child, s₁, hstart, h⟩
      · exact .notStarted hasks hstart
      rcases Operation.orFault_bind_eq_error.mp h with ⟨cause, hwait, rfl⟩ | ⟨status, s₂, hwait, h⟩
      · exact .lost hasks hstart hwait
      split at h
      · cases h
      · next hstatus =>
          cases h
          exact .unsuccessful hasks hstart hwait (Bool.eq_false_of_not_eq_true hstatus)
    · intro h
      cases h with
      | notStarted hasks' hstart =>
          obtain rfl := hasks.unique hasks'
          exact Operation.orFault_bind_of_error hstart _
      | lost hasks' hstart hwait =>
          obtain rfl := hasks.unique hasks'
          refine (Operation.orFault_bind_of_ok hstart _).trans ?_
          exact Operation.orFault_bind_of_error hwait _
      | unsuccessful hasks' hstart hwait hstatus =>
          obtain rfl := hasks.unique hasks'
          refine (Operation.orFault_bind_of_ok hstart _).trans ?_
          refine (Operation.orFault_bind_of_ok hwait _).trans ?_
          rw [if_neg (by rw [hstatus]; exact Bool.false_ne_true)]
          rfl

end Build

end Harness

/-! ### A pipeline -/

namespace Pipeline

variable {artifact : Path} {h : Handle} {stage : Stage} {input : Bytes} {file : Path} {mode : Mode}
  {v : Variant}

inductive CapturedBreaks (host : Host σ) (artifact : Path) (h : Handle) (stage : Stage)
    (input : Bytes) (s : σ) : Fault → σ → Prop
  | out {cause : SystemError} {s' : σ} (hout : host.duplicate h s = .error cause s') :
      CapturedBreaks host artifact h stage input s (.artifact artifact .duplicateHandle cause) s'
  | err {out : Handle} {cause : SystemError} {s₁ s' : σ} (hout : host.duplicate h s = .ok out s₁)
      (herr : host.duplicate h s₁ = .error cause s') :
      CapturedBreaks host artifact h stage input s (.artifact artifact .duplicateHandle cause) s'
  /-- The stage has been started, but cannot be waited for. -/
  | lost {out err : Handle} {child : Child} {cause : SystemError} {s₁ s₂ s₃ s' : σ}
      (hout : host.duplicate h s = .ok out s₁) (herr : host.duplicate h s₁ = .ok err s₂)
      (hstart : host.start { stage, input, output := .artifact out err } s₂ = .ok child s₃)
      (hwait : host.wait child s₃ = .error cause s') :
      CapturedBreaks host artifact h stage input s (.lostProcess stage.display cause) s'
  /-- The stage has not been started, and the message cannot be written. -/
  | message {out err : Handle} {reason cause : SystemError} {s₁ s₂ s₃ s' : σ}
      (hout : host.duplicate h s = .ok out s₁) (herr : host.duplicate h s₁ = .ok err s₂)
      (hstart : host.start { stage, input, output := .artifact out err } s₂ = .error reason s₃)
      (hwrite : host.write h (captured stage (.error reason)) s₃ = .error cause s') :
      CapturedBreaks host artifact h stage input s (.artifact artifact .write cause) s'

def feeding (file : Path) (v : Variant) : Launch :=
  { stage := v.lexer.withArgs [file.bytes], output := .pipe }

inductive VariantBreaks (host : Host σ) (file : Path) (mode : Mode) (v : Variant) (artifact : Path)
    (s : σ) : Fault → σ → Prop
  | create {cause : SystemError} {s' : σ} (hcreate : host.create artifact s = .error cause s') :
      VariantBreaks host file mode v artifact s (.artifact artifact .create cause) s'
  | lexer {h : Handle} {f : Fault} {s₁ s' : σ} (hmode : mode = .lexer)
      (hcreate : host.create artifact s = .ok h s₁)
      (hbreaks : CapturedBreaks host artifact h (v.lexer.withArgs [file.bytes]) [] s₁ f s') :
      VariantBreaks host file mode v artifact s f s'
  | parser {h : Handle} {child : Child} {f : Fault} {s₁ s₂ s' : σ} (hmode : mode = .parser)
      (hcreate : host.create artifact s = .ok h s₁)
      (hstart : host.start (feeding file v) s₁ = .ok child s₂)
      (hbreaks : CapturedBreaks host artifact h v.parser child.piped s₂ f s') :
      VariantBreaks host file mode v artifact s f s'
  /-- The parser has been waited for, but the lexer cannot be. -/
  | lost {h : Handle} {child : Child} {status : StageStatus} {cause : SystemError}
      {s₁ s₂ s₃ s' : σ} (hmode : mode = .parser) (hcreate : host.create artifact s = .ok h s₁)
      (hstart : host.start (feeding file v) s₁ = .ok child s₂)
      (hparser : runCaptured host artifact h v.parser child.piped s₂ = .ok status s₃)
      (hwait : host.wait child s₃ = .error cause s') :
      VariantBreaks host file mode v artifact s (.lostProcess v.lexer.display cause) s'
  /-- The lexer has not been started, and its message cannot be written. -/
  | message {h : Handle} {reason cause : SystemError} {s₁ s₂ s' : σ} (hmode : mode = .parser)
      (hcreate : host.create artifact s = .ok h s₁)
      (hstart : host.start (feeding file v) s₁ = .error reason s₂)
      (hwrite : host.write h (captured (feeding file v).stage (.error reason)) s₂
        = .error cause s') :
      VariantBreaks host file mode v artifact s (.artifact artifact .write cause) s'
  /-- The lexer has not been started, and the parser breaks that is run without input. -/
  | parserAlone {h : Handle} {reason : SystemError} {f : Fault} {s₁ s₂ s₃ s' : σ}
      (hmode : mode = .parser) (hcreate : host.create artifact s = .ok h s₁)
      (hstart : host.start (feeding file v) s₁ = .error reason s₂)
      (hwrite : host.write h (captured (feeding file v).stage (.error reason)) s₂ = .ok () s₃)
      (hbreaks : CapturedBreaks host artifact h v.parser [] s₃ f s') :
      VariantBreaks host file mode v artifact s f s'

/-- A captured stage, operation by operation. -/
theorem runCaptured_eq : runCaptured host artifact h stage input = (do
    let out ← (host.duplicate h).orFault (.artifact artifact .duplicateHandle)
    let err ← (host.duplicate h).orFault (.artifact artifact .duplicateHandle)
    match ← (host.start { stage, input, output := .artifact out err }).attempt with
    | .ok child => waitFor host stage child
    | .error cause => recordStartFailure host artifact h stage cause) := by
  unfold runCaptured startCaptured
  refine (bind_assoc _ _ _).trans (bind_congr fun out => ?_)
  exact bind_assoc _ _ _

theorem waitFor_eq_error {child : Child} : waitFor host stage child s = .error f s' ↔
    ∃ cause, host.wait child s = .error cause s' ∧ f = .lostProcess stage.display cause :=
  bind_pure_eq_error.trans Operation.orFault_eq_error

theorem recordStartFailure_eq_error {reason : SystemError} :
    recordStartFailure host artifact h stage reason s = .error f s' ↔ ∃ cause,
      host.write h (captured stage (.error reason)) s = .error cause s' ∧
        f = .artifact artifact .write cause :=
  bind_pure_eq_error.trans Operation.orFault_eq_error

theorem recordStartFailure_eq_ok {reason : SystemError} {status : StageStatus} :
    recordStartFailure host artifact h stage reason s = .ok status s' ↔
      host.write h (captured stage (.error reason)) s = .ok () s' ∧
        status = .notStarted reason := by
  constructor
  · intro hrecord
    obtain ⟨_, s₁, hwrite, hrest⟩ := bind_eq_ok.mp hrecord
    cases hrest
    exact ⟨Operation.orFault_eq_ok.mp hwrite, rfl⟩
  · rintro ⟨hwrite, rfl⟩
    exact Operation.orFault_bind_of_ok hwrite _

theorem runCaptured_eq_error : runCaptured host artifact h stage input s = .error f s' ↔
    CapturedBreaks host artifact h stage input s f s' := by
  rw [runCaptured_eq]
  constructor
  · intro hrun
    rcases Operation.orFault_bind_eq_error.mp hrun with ⟨cause, hout, rfl⟩ | ⟨out, s₁, hout, hrun⟩
    · exact .out hout
    rcases Operation.orFault_bind_eq_error.mp hrun with ⟨cause, herr, rfl⟩ | ⟨err, s₂, herr, hrun⟩
    · exact .err hout herr
    -- Not being able to start a stage is no failure: its message is, if it cannot be written.
    rcases Operation.attempt_bind_eq_error.mp hrun with
      ⟨child, s₃, hstart, hrun⟩ | ⟨reason, s₃, hstart, hrun⟩
    · obtain ⟨cause, hwait, rfl⟩ := waitFor_eq_error.mp hrun
      exact .lost hout herr hstart hwait
    · obtain ⟨cause, hwrite, rfl⟩ := recordStartFailure_eq_error.mp hrun
      exact .message hout herr hstart hwrite
  · intro hbreaks
    cases hbreaks with
    | out hout => exact Operation.orFault_bind_of_error hout _
    | err hout herr =>
        refine (Operation.orFault_bind_of_ok hout _).trans ?_
        exact Operation.orFault_bind_of_error herr _
    | lost hout herr hstart hwait =>
        refine (Operation.orFault_bind_of_ok hout _).trans ?_
        refine (Operation.orFault_bind_of_ok herr _).trans ?_
        exact Operation.attempt_bind_eq_error.mpr
          (.inl ⟨_, _, hstart, waitFor_eq_error.mpr ⟨_, hwait, rfl⟩⟩)
    | message hout herr hstart hwrite =>
        refine (Operation.orFault_bind_of_ok hout _).trans ?_
        refine (Operation.orFault_bind_of_ok herr _).trans ?_
        exact Operation.attempt_bind_eq_error.mpr
          (.inr ⟨_, _, hstart, recordStartFailure_eq_error.mpr ⟨_, hwrite, rfl⟩⟩)

theorem runLexer_eq_error : runLexer host file v artifact h s = .error f s' ↔
    CapturedBreaks host artifact h (v.lexer.withArgs [file.bytes]) [] s f s' :=
  bind_pure_eq_error.trans runCaptured_eq_error

/-- A lexer and a parser, operation by operation. -/
theorem runBoth_eq_error : runBoth host file v artifact h s = .error f s' ↔
    (∃ child s₁, host.start (feeding file v) s = .ok child s₁ ∧
      (CapturedBreaks host artifact h v.parser child.piped s₁ f s' ∨
        ∃ status s₂, runCaptured host artifact h v.parser child.piped s₁ = .ok status s₂ ∧
          ∃ cause, host.wait child s₂ = .error cause s' ∧ f = .lostProcess v.lexer.display cause)) ∨
    ∃ reason s₁, host.start (feeding file v) s = .error reason s₁ ∧
      ((∃ cause, host.write h (captured (feeding file v).stage (.error reason)) s₁
          = .error cause s' ∧ f = .artifact artifact .write cause) ∨
        ∃ s₂, host.write h (captured (feeding file v).stage (.error reason)) s₁ = .ok () s₂ ∧
          CapturedBreaks host artifact h v.parser [] s₂ f s') := by
  refine Operation.attempt_bind_eq_error.trans (or_congr ?_ ?_)
  · refine exists_congr fun child => exists_congr fun s₁ => and_congr_right fun _ => ?_
    -- The lexer is waited for only after the parser, so its loss needs a parser that has come
    -- through.
    refine bind_eq_error.trans (or_congr runCaptured_eq_error ?_)
    refine exists_congr fun status => exists_congr fun s₂ => and_congr_right fun _ => ?_
    exact bind_pure_eq_error.trans waitFor_eq_error
  · refine exists_congr fun reason => exists_congr fun s₁ => and_congr_right fun _ => ?_
    refine bind_eq_error.trans (or_congr recordStartFailure_eq_error ?_)
    constructor
    · rintro ⟨status, s₂, hrecord, hrest⟩
      exact ⟨s₂, (recordStartFailure_eq_ok.mp hrecord).1,
        runCaptured_eq_error.mp (bind_pure_eq_error.mp hrest)⟩
    · rintro ⟨s₂, hwrite, hbreaks⟩
      exact ⟨_, s₂, recordStartFailure_eq_ok.mpr ⟨hwrite, rfl⟩,
        bind_pure_eq_error.mpr (runCaptured_eq_error.mpr hbreaks)⟩

theorem runVariant_eq_error : runVariant host file mode v artifact s = .error f s' ↔
    VariantBreaks host file mode v artifact s f s' := by
  constructor
  · intro hrun
    rcases Operation.orFault_bind_eq_error.mp hrun with
      ⟨cause, hcreate, rfl⟩ | ⟨h, s₁, hcreate, hrun⟩
    · exact .create hcreate
    cases mode with
    | lexer => exact .lexer rfl hcreate (runLexer_eq_error.mp hrun)
    | parser =>
        rcases runBoth_eq_error.mp hrun with ⟨child, s₂, hstart, hbreaks | hlost⟩ |
          ⟨reason, s₂, hstart, ⟨cause, hwrite, rfl⟩ | ⟨s₃, hwrite, hbreaks⟩⟩
        · exact .parser rfl hcreate hstart hbreaks
        · obtain ⟨status, s₃, hparser, cause, hwait, rfl⟩ := hlost
          exact .lost rfl hcreate hstart hparser hwait
        · exact .message rfl hcreate hstart hwrite
        · exact .parserAlone rfl hcreate hstart hwrite hbreaks
  · intro hbreaks
    cases hbreaks with
    | create hcreate =>
        exact Operation.orFault_bind_of_error hcreate _
    | lexer hmode hcreate hbreaks =>
        subst hmode
        refine (Operation.orFault_bind_of_ok hcreate _).trans ?_
        exact runLexer_eq_error.mpr hbreaks
    | parser hmode hcreate hstart hbreaks =>
        subst hmode
        refine (Operation.orFault_bind_of_ok hcreate _).trans ?_
        exact runBoth_eq_error.mpr (.inl ⟨_, _, hstart, .inl hbreaks⟩)
    | lost hmode hcreate hstart hparser hwait =>
        subst hmode
        refine (Operation.orFault_bind_of_ok hcreate _).trans ?_
        exact runBoth_eq_error.mpr
          (.inl ⟨_, _, hstart, .inr ⟨_, _, hparser, _, hwait, rfl⟩⟩)
    | message hmode hcreate hstart hwrite =>
        subst hmode
        refine (Operation.orFault_bind_of_ok hcreate _).trans ?_
        exact runBoth_eq_error.mpr (.inr ⟨_, _, hstart, .inl ⟨_, hwrite, rfl⟩⟩)
    | parserAlone hmode hcreate hstart hwrite hbreaks =>
        subst hmode
        refine (Operation.orFault_bind_of_ok hcreate _).trans ?_
        exact runBoth_eq_error.mpr (.inr ⟨_, _, hstart, .inr ⟨_, hwrite, hbreaks⟩⟩)

theorem CapturedBreaks.ne_panic (hbreaks : CapturedBreaks host artifact h stage input s f s')
    (p : Panic) : f ≠ .panic p := by
  cases hbreaks <;> exact fun h => by cases h

/-- Running the stages of a front end does not panic. -/
theorem VariantBreaks.ne_panic (hbreaks : VariantBreaks host file mode v artifact s f s')
    (p : Panic) : f ≠ .panic p := by
  cases hbreaks with
  | create | lost | message => exact fun h => by cases h
  | lexer _ _ hbreaks | parser _ _ _ hbreaks | parserAlone _ _ _ _ hbreaks =>
      exact hbreaks.ne_panic p

/-- Telling does not fail. -/
theorem exists_tellOutcome (host : Host σ) (caseName : String) (side : Side) (o : Outcome) (s : σ) :
    ∃ s', tellOutcome host caseName side o s = .ok () s' := by
  cases o with
  | mk lexer parser => cases parser <;> exact ⟨_, rfl⟩

end Pipeline

/-! ### A case -/

namespace Harness

inductive CaseBreaks (host : Host σ) (config : Config) (case : Case) (s : σ) : Fault → σ → Prop
  | candidate {f : Fault} {s' : σ}
      (hbreaks : Pipeline.VariantBreaks host case.path config.mode config.candidate
        (config.artifactPath .candidate case) s f s') :
      CaseBreaks host config case s f s'
  | reference {o : Outcome} {f : Fault} {s₁ s₂ s' : σ}
      (hcandidate : Pipeline.runVariant host case.path config.mode config.candidate
        (config.artifactPath .candidate case) s = .ok o s₁)
      (htell : Pipeline.tellOutcome host case.name .candidate o s₁ = .ok () s₂)
      (hbreaks : Pipeline.VariantBreaks host case.path config.mode config.reference
        (config.artifactPath .reference case) s₂ f s') :
      CaseBreaks host config case s f s'
  | readReference {artifacts : Artifacts} {cause : SystemError} {s₁ s' : σ}
      (hrun : Pipeline.runCase host case config.mode config.candidate config.reference
        config.scratchDir s = .ok artifacts s₁)
      (hread : host.read (config.artifactPath .reference case) s₁ = .error cause s') :
      CaseBreaks host config case s (.artifact (config.artifactPath .reference case) .read cause) s'
  | readCandidate {artifacts : Artifacts} {reference : Bytes} {cause : SystemError} {s₁ s₂ s' : σ}
      (hrun : Pipeline.runCase host case config.mode config.candidate config.reference
        config.scratchDir s = .ok artifacts s₁)
      (hreference : host.read (config.artifactPath .reference case) s₁ = .ok reference s₂)
      (hread : host.read (config.artifactPath .candidate case) s₂ = .error cause s') :
      CaseBreaks host config case s (.artifact (config.artifactPath .candidate case) .read cause) s'
  | compare {artifacts : Artifacts} {reference candidate : Bytes} {p : Panic} {s₁ s₂ s' : σ}
      (hrun : Pipeline.runCase host case config.mode config.candidate config.reference
        config.scratchDir s = .ok artifacts s₁)
      (hreference : host.read (config.artifactPath .reference case) s₁ = .ok reference s₂)
      (hcandidate : host.read (config.artifactPath .candidate case) s₂ = .ok candidate s')
      (hpanic : comparing host config case reference candidate = .error p) :
      CaseBreaks host config case s (.panic p) s'

variable {case : Case}

theorem runCase_eq_error : Pipeline.runCase host case config.mode config.candidate config.reference
    config.scratchDir s = .error f s' ↔
      Pipeline.VariantBreaks host case.path config.mode config.candidate
        (config.artifactPath .candidate case) s f s' ∨
      ∃ o s₁ s₂, Pipeline.runVariant host case.path config.mode config.candidate
          (config.artifactPath .candidate case) s = .ok o s₁ ∧
        Pipeline.tellOutcome host case.name .candidate o s₁ = .ok () s₂ ∧
        Pipeline.VariantBreaks host case.path config.mode config.reference
          (config.artifactPath .reference case) s₂ f s' := by
  constructor
  · intro h
    rcases bind_eq_error.mp h with h | ⟨o, s₁, hcandidate, h⟩
    · exact .inl (Pipeline.runVariant_eq_error.mp h)
    obtain ⟨s₂, htell⟩ := Pipeline.exists_tellOutcome host case.name .candidate o s₁
    rw [bind_of_ok htell] at h
    rcases bind_eq_error.mp h with h | ⟨o', s₃, -, h⟩
    · exact .inr ⟨o, s₁, s₂, hcandidate, htell, Pipeline.runVariant_eq_error.mp h⟩
    obtain ⟨s₄, htell'⟩ := Pipeline.exists_tellOutcome host case.name .reference o' s₃
    rw [bind_of_ok htell'] at h
    cases h
  · rintro (hbreaks | ⟨o, s₁, s₂, hcandidate, htell, hbreaks⟩)
    · exact bind_eq_error.mpr (.inl (Pipeline.runVariant_eq_error.mpr hbreaks))
    · refine (bind_of_ok hcandidate _).trans ((bind_of_ok htell _).trans ?_)
      exact bind_eq_error.mpr (.inl (Pipeline.runVariant_eq_error.mpr hbreaks))

theorem compareCase_eq_error :
    compareCase host config case s = .error f s' ↔ CaseBreaks host config case s f s' := by
  constructor
  · intro h
    rcases bind_eq_error.mp h with h | ⟨artifacts, s₁, hrun, h⟩
    · rcases runCase_eq_error.mp h with hbreaks | ⟨o, s₁, s₂, hcandidate, htell, hbreaks⟩
      · exact .candidate hbreaks
      · exact .reference hcandidate htell hbreaks
    obtain rfl := artifacts_of_runCase hrun
    rcases Operation.orFault_bind_eq_error.mp h with
      ⟨cause, hread, rfl⟩ | ⟨reference, s₂, hreference, h⟩
    · exact .readReference hrun hread
    rcases Operation.orFault_bind_eq_error.mp h with
      ⟨cause, hread, rfl⟩ | ⟨candidate, s₃, hcandidate, h⟩
    · exact .readCandidate hrun hreference hread
    obtain ⟨p, hpanic, rfl, rfl⟩ := orPanic_eq_error.mp h
    exact .compare hrun hreference hcandidate hpanic
  · intro h
    cases h with
    | candidate hbreaks => exact bind_eq_error.mpr (.inl (runCase_eq_error.mpr (.inl hbreaks)))
    | reference hcandidate htell hbreaks =>
        exact bind_eq_error.mpr
          (.inl (runCase_eq_error.mpr (.inr ⟨_, _, _, hcandidate, htell, hbreaks⟩)))
    | readReference hrun hread =>
        obtain rfl := artifacts_of_runCase hrun
        refine (bind_of_ok hrun _).trans ?_
        exact Operation.orFault_bind_of_error hread _
    | readCandidate hrun hreference hread =>
        obtain rfl := artifacts_of_runCase hrun
        refine (bind_of_ok hrun _).trans ?_
        refine (Operation.orFault_bind_of_ok hreference _).trans ?_
        exact Operation.orFault_bind_of_error hread _
    | compare hrun hreference hcandidate hpanic =>
        obtain rfl := artifacts_of_runCase hrun
        refine (bind_of_ok hrun _).trans ?_
        refine (Operation.orFault_bind_of_ok hreference _).trans ?_
        refine (Operation.orFault_bind_of_ok hcandidate _).trans ?_
        exact orPanic_eq_error.mpr ⟨_, hpanic, rfl, rfl⟩

/-- Artifacts of a case have been read that differ, and with the context on both sides a place in
them may not fit into a word. -/
def OutOfRoom (host : Host σ) (config : Config) (case : Case) : Prop :=
  ∃ reference candidate t t₁ t₂,
    host.read (config.artifactPath .reference case) t = .ok reference t₁ ∧
    host.read (config.artifactPath .candidate case) t₁ = .ok candidate t₂ ∧
    reference ≠ candidate ∧
    2 ^ 64 ≤ reference.length + candidate.length + 2 * config.contextLines

theorem outOfRoom_of_panic {p : Panic} (h : CaseBreaks host config case s (.panic p) s') :
    host.overflow = .panics ∧ OutOfRoom host config case := by
  generalize hf : Fault.panic p = f at h
  cases h with
  | candidate hbreaks => exact absurd hf.symm (hbreaks.ne_panic p)
  | reference _ _ hbreaks => exact absurd hf.symm (hbreaks.ne_panic p)
  | readReference | readCandidate => cases hf
  | compare hrun hreference hcandidate hpanic =>
      obtain ⟨hoverflow, hne, hsize⟩ := Comparison.ofBytesIn_eq_error hpanic
      exact ⟨hoverflow, _, _, _, _, _, hreference, hcandidate, hne, hsize⟩

end Harness

end TwinRun
