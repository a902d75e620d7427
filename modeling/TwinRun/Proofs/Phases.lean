import TwinRun.Proofs.Harness

/-!
A run, phase by phase, on any system: every operation of it may fail at any time.

* `Harness.Ran`: cases have been run one after the other, and both artifacts of each were read and
  compared.
* `Harness.run_eq_ok`, `Harness.run_eq_error`: how far a run gets, and what it has reported by then.
-/

namespace TwinRun

/-- A case that has been run, its two artifacts as they were read, and their comparison. -/
structure Compared where
  case : Case
  reference : Bytes
  candidate : Bytes
  comparison : Comparison

namespace Harness

variable {σ : Type} {host : Host σ} {config : Config} {s s' : σ} {f : Fault}

/-! ### One case -/

def comparing (host : Host σ) (config : Config) (case : Case) (reference candidate : Bytes) :
    Except Panic Comparison :=
  Comparison.ofBytesIn host.overflow case.name (config.artifactPath .reference case) reference
    (config.artifactPath .candidate case) candidate config.contextLines

/-- A case has been run, then its artifacts have been read, the reference first, and compared. -/
def Compares (host : Host σ) (config : Config) (s : σ) (x : Compared) (s' : σ) : Prop :=
  ∃ artifacts s₁ s₂,
    Pipeline.runCase host x.case config.mode config.candidate config.reference config.scratchDir s
      = .ok artifacts s₁ ∧
    Artifact.read host (config.artifactPath .reference x.case) s₁ = .ok x.reference s₂ ∧
    Artifact.read host (config.artifactPath .candidate x.case) s₂ = .ok x.candidate s' ∧
    comparing host config x.case x.reference x.candidate = .ok x.comparison

/-- The artifacts of a case are where they belong. -/
theorem artifacts_of_runCase {case : Case} {artifacts : Artifacts}
    (h : Pipeline.runCase host case config.mode config.candidate config.reference
      config.scratchDir s = .ok artifacts s') :
    artifacts = ⟨config.artifactPath .candidate case, config.artifactPath .reference case⟩ := by
  obtain ⟨_, _, -, h⟩ := bind_eq_ok.mp h
  obtain ⟨_, _, -, h⟩ := bind_eq_ok.mp h
  obtain ⟨_, _, -, h⟩ := bind_eq_ok.mp h
  obtain ⟨_, _, -, h⟩ := bind_eq_ok.mp h
  cases h
  rfl

theorem orPanic_eq_ok {α : Type} {x : Except Panic α} {a : α} :
    Work.orPanic x s = .ok a s' ↔ x = .ok a ∧ s = s' := by
  cases x with
  | ok b => exact ⟨fun h => by cases h; exact ⟨rfl, rfl⟩, fun ⟨h, h'⟩ => by cases h; cases h'; rfl⟩
  | error p => exact iff_of_false (fun h => by cases h) (fun h => by cases h.1)

theorem orPanic_eq_error {α : Type} {x : Except Panic α} :
    Work.orPanic x s = .error f s' ↔ ∃ p, x = .error p ∧ f = .panic p ∧ s = s' := by
  cases x with
  | ok b => exact iff_of_false (fun h => by cases h) (fun ⟨_, h, _⟩ => by cases h)
  | error p =>
      constructor
      · rintro ⟨⟩
        exact ⟨p, rfl, rfl, rfl⟩
      · rintro ⟨_, ⟨⟩, rfl, rfl⟩
        rfl

theorem compareCase_eq_ok {case : Case} {c : Comparison} :
    compareCase host config case s = .ok c s' ↔
      ∃ x : Compared, x.case = case ∧ Compares host config s x s' ∧ c = x.comparison := by
  constructor
  · intro h
    obtain ⟨artifacts, s₁, hrun, h⟩ := bind_eq_ok.mp h
    obtain ⟨reference, s₂, hreference, h⟩ := bind_eq_ok.mp h
    obtain ⟨candidate, s₃, hcandidate, h⟩ := bind_eq_ok.mp h
    obtain rfl := artifacts_of_runCase hrun
    obtain ⟨hcompare, rfl⟩ := orPanic_eq_ok.mp h
    exact ⟨⟨case, reference, candidate, c⟩, rfl,
      ⟨_, s₁, s₂, hrun, hreference, hcandidate, hcompare⟩, rfl⟩
  · rintro ⟨x, rfl, ⟨artifacts, s₁, s₂, hrun, hreference, hcandidate, hcompare⟩, rfl⟩
    obtain rfl := artifacts_of_runCase hrun
    exact (bind_of_ok hrun _).trans ((bind_of_ok hreference _).trans
      ((bind_of_ok hcandidate _).trans (orPanic_eq_ok.mpr ⟨hcompare, rfl⟩)))

/-- Reporting a case does not fail. -/
theorem runOne_eq_ok {case : Case} {c : Comparison} {r : List ReportCall} {p : Progress σ} :
    runOne host config case ⟨s, r⟩ = .ok c p ↔ ∃ s', compareCase host config case s = .ok c s' ∧
      p = ⟨s', r ++ [.separator case.name] ++ [.comparison c]⟩ := by
  constructor
  · intro h
    obtain ⟨c', p₁, hlift, h⟩ := bind_eq_ok.mp h
    obtain ⟨s', hcompare, rfl⟩ := lift_eq_ok.mp hlift
    cases h
    exact ⟨s', hcompare, rfl⟩
  · rintro ⟨s', hcompare, rfl⟩
    exact bind_of_ok (lift_of_ok hcompare) _

theorem runOne_eq_error {case : Case} {r : List ReportCall} {p : Progress σ} :
    runOne host config case ⟨s, r⟩ = .error f p ↔
      ∃ s', compareCase host config case s = .error f s' ∧ p = ⟨s', r⟩ := by
  constructor
  · intro h
    rcases bind_eq_error.mp h with h | ⟨c, p₁, -, h⟩
    · exact lift_eq_error.mp h
    · cases h
  · exact fun h => bind_eq_error.mpr (.inl (lift_eq_error.mpr h))

/-! ### Case after case -/

/-- Cases have been run one after the other, each compared before the next one. -/
inductive Ran (host : Host σ) (config : Config) : σ → List Compared → σ → Prop
  | nil (s : σ) : Ran host config s [] s
  | cons {s s₁ s' : σ} {x : Compared} {rest : List Compared} (h : Compares host config s x s₁)
      (hrest : Ran host config s₁ rest s') : Ran host config s (x :: rest) s'

def count (t : Summary) (ran : List Compared) : Summary :=
  ran.foldl (fun t x => t.count x.comparison) t

/-- What is reported of cases that have been run: for each a separator, and then its comparison. -/
def reports (ran : List Compared) : List ReportCall :=
  ran.flatMap fun x => [.separator x.case.name, .comparison x.comparison]

theorem append_reports_cons (r : List ReportCall) (x : Compared) (ran : List Compared) :
    r ++ reports (x :: ran)
      = r ++ [.separator x.case.name] ++ [.comparison x.comparison] ++ reports ran := by
  simp [reports]

theorem caseName_of_compares {x : Compared} (h : Compares host config s x s') :
    x.comparison.caseName = x.case.name := by
  obtain ⟨_, _, _, -, -, -, hcompare⟩ := h
  exact (Comparison.ofBytesIn_eq_ok.mp hcompare).2.1

def step (host : Host σ) (config : Config) (t : Summary) (case : Case) : Reporting σ Summary := do
  return t.count (← runOne host config case)

theorem step_eq_ok {t t' : Summary} {case : Case} {r : List ReportCall} {p : Progress σ} :
    step host config t case ⟨s, r⟩ = .ok t' p ↔ ∃ c, runOne host config case ⟨s, r⟩ = .ok c p ∧
      t' = t.count c := by
  constructor
  · intro h
    obtain ⟨c, p₁, hone, h⟩ := bind_eq_ok.mp h
    cases h
    exact ⟨c, hone, rfl⟩
  · rintro ⟨c, hone, rfl⟩
    exact bind_of_ok hone _

theorem step_eq_error {t : Summary} {case : Case} {r : List ReportCall} {p : Progress σ} :
    step host config t case ⟨s, r⟩ = .error f p ↔ runOne host config case ⟨s, r⟩ = .error f p := by
  constructor
  · intro h
    rcases bind_eq_error.mp h with h | ⟨c, p₁, -, h⟩
    · exact h
    · cases h
  · exact fun h => bind_eq_error.mpr (.inl h)

theorem step_of_compares {x : Compared} (h : Compares host config s x s') (t : Summary)
    (r : List ReportCall) : step host config t x.case ⟨s, r⟩
      = .ok (t.count x.comparison)
        ⟨s', r ++ [.separator x.case.name] ++ [.comparison x.comparison]⟩ := by
  have hcompare := compareCase_eq_ok.mpr ⟨x, rfl, h, rfl⟩
  exact step_eq_ok.mpr ⟨_, runOne_eq_ok.mpr ⟨s', hcompare, rfl⟩, rfl⟩

/-- The cases are run to the end exactly if each can be run and compared after those before it. Then
all of them have been reported. -/
theorem foldlM_step_eq_ok {selected : List Case} {t t' : Summary} {r : List ReportCall}
    {p : Progress σ} : selected.foldlM (step host config) t ⟨s, r⟩ = .ok t' p ↔
      ∃ ran s', ran.map Compared.case = selected ∧ Ran host config s ran s' ∧
        t' = count t ran ∧ p = ⟨s', r ++ reports ran⟩ := by
  induction selected generalizing s t r with
  | nil =>
      constructor
      · rintro ⟨⟩
        exact ⟨[], s, rfl, .nil s, rfl, by rw [reports, List.flatMap_nil, List.append_nil]⟩
      · rintro ⟨ran, s', hran, h, rfl, rfl⟩
        obtain rfl := List.map_eq_nil_iff.mp hran
        cases h
        rw [reports, List.flatMap_nil, List.append_nil]
        rfl
  | cons case selected ih =>
      rw [List.foldlM_cons]
      constructor
      · intro h
        obtain ⟨t₁, p₁, hstep, h⟩ := bind_eq_ok.mp h
        obtain ⟨c, hone, rfl⟩ := step_eq_ok.mp hstep
        obtain ⟨s₁, hcompare, rfl⟩ := runOne_eq_ok.mp hone
        obtain ⟨x, rfl, hx, rfl⟩ := compareCase_eq_ok.mp hcompare
        obtain ⟨ran, s', rfl, hran, rfl, rfl⟩ := ih.mp h
        exact ⟨x :: ran, s', rfl, .cons hx hran, rfl, by rw [append_reports_cons]⟩
      · rintro ⟨ran, s', hmap, h, rfl, rfl⟩
        obtain ⟨x, ran, rfl, rfl, rfl⟩ := List.map_eq_cons_iff.mp hmap
        cases h with
        | cons hx hran =>
            rw [bind_of_ok (step_of_compares hx t r)]
            exact ih.mpr ⟨ran, s', rfl, hran, rfl, by rw [append_reports_cons]⟩

/-- The run over the cases fails exactly if some case does after those before it. Then it stands
where this case has left the system, and those before it have been reported. -/
theorem foldlM_step_eq_error {selected : List Case} {t : Summary} {r : List ReportCall}
    {p : Progress σ} : selected.foldlM (step host config) t ⟨s, r⟩ = .error f p ↔
      ∃ ran case later s₁ s₂, selected = ran.map Compared.case ++ case :: later ∧
        Ran host config s ran s₁ ∧ compareCase host config case s₁ = .error f s₂ ∧
        p = ⟨s₂, r ++ reports ran⟩ := by
  induction selected generalizing s t r with
  | nil =>
      constructor
      · rintro ⟨⟩
      · rintro ⟨ran, case, later, s₁, s₂, h, -⟩
        exact absurd h (by simp)
  | cons case selected ih =>
      rw [List.foldlM_cons]
      constructor
      · intro h
        rcases bind_eq_error.mp h with h | ⟨t₁, p₁, hstep, h⟩
        · obtain ⟨s₁, hcompare, rfl⟩ := runOne_eq_error.mp (step_eq_error.mp h)
          exact ⟨[], case, selected, s, s₁, rfl, .nil s, hcompare,
            by rw [reports, List.flatMap_nil, List.append_nil]⟩
        · obtain ⟨c, hone, rfl⟩ := step_eq_ok.mp hstep
          obtain ⟨s₁, hcompare, rfl⟩ := runOne_eq_ok.mp hone
          obtain ⟨x, rfl, hx, rfl⟩ := compareCase_eq_ok.mp hcompare
          obtain ⟨ran, failing, later, s₂, s₃, rfl, hran, hfail, rfl⟩ := ih.mp h
          exact ⟨x :: ran, failing, later, s₂, s₃, rfl, .cons hx hran, hfail,
            by rw [append_reports_cons]⟩
      · rintro ⟨ran, failing, later, s₂, s₃, hselected, hran, hfail, rfl⟩
        cases hran with
        | nil =>
            obtain ⟨rfl, rfl⟩ := List.cons.inj hselected
            rw [reports, List.flatMap_nil, List.append_nil]
            have hone : runOne host config case ⟨s, r⟩ = .error f ⟨s₃, r⟩ :=
              runOne_eq_error.mpr ⟨s₃, hfail, rfl⟩
            exact bind_eq_error.mpr (.inl (step_eq_error.mpr hone))
        | cons hx hran =>
            obtain ⟨rfl, rfl⟩ := List.cons.inj hselected
            rw [bind_of_ok (step_of_compares hx t r)]
            exact ih.mpr ⟨_, failing, later, s₂, s₃, rfl, hran, hfail, by rw [append_reports_cons]⟩

/-! ### The phases of a run -/

/-- Only the build step and preparing the scratch directory can fail before the first case; finding
the cases cannot. -/
theorem setUp_eq_error {options : RunOptions} :
    setUp host config options s = .error f s' ↔ build host config options s = .error f s' ∨
      ∃ s₁, build host config options s = .ok () s₁ ∧
        Scratch.prepare host config.scratchDir s₁ = .error f s' := by
  constructor
  · intro h
    rcases bind_eq_error.mp h with h | ⟨_, s₁, hbuild, h⟩
    · exact .inl h
    rcases bind_eq_error.mp h with h | ⟨_, s₂, -, h⟩
    · exact .inr ⟨s₁, hbuild, h⟩
    rcases bind_eq_error.mp h with h | ⟨_, s₃, -, h⟩
    · obtain ⟨selected, s₃, hcases, -⟩ := looks_cases host.quiet_true config options.filter s₂
      rw [hcases] at h
      cases h
    · cases h
  · rintro (h | ⟨s₁, hbuild, h⟩)
    · exact bind_eq_error.mpr (.inl h)
    · exact bind_eq_error.mpr (.inr ⟨_, s₁, hbuild, bind_eq_error.mpr (.inl h)⟩)

/-- A run comes to its end exactly if all phases succeed. Then all cases have been reported. -/
theorem run_eq_ok {options : RunOptions} {r : List ReportCall} {t : Summary} {p : Progress σ} :
    run host config options ⟨s, r⟩ = .ok t p ↔ ∃ selected s₁ ran s₂,
      setUp host config options s = .ok selected s₁ ∧ ran.map Compared.case = selected ∧
      Ran host config s₁ ran s₂ ∧ t = count {} ran ∧
      p = ⟨host.note (.runComplete t.cases t.diverged.length) s₂, r ++ reports ran⟩ := by
  constructor
  · intro h
    obtain ⟨selected, p₁, hlift, h⟩ := bind_eq_ok.mp h
    obtain ⟨s₁, hsetUp, rfl⟩ := lift_eq_ok.mp hlift
    obtain ⟨t', p₂, hruns, h⟩ := bind_eq_ok.mp h
    obtain ⟨ran, s₂, hselected, hran, rfl, rfl⟩ := foldlM_step_eq_ok.mp hruns
    cases h
    exact ⟨selected, s₁, ran, s₂, hsetUp, hselected, hran, rfl, rfl⟩
  · rintro ⟨selected, s₁, ran, s₂, hsetUp, hselected, hran, rfl, rfl⟩
    have hruns : runCases host config selected ⟨s₁, r⟩
        = .ok (count {} ran) ⟨s₂, r ++ reports ran⟩ :=
      foldlM_step_eq_ok.mpr ⟨ran, s₂, hselected, hran, rfl, rfl⟩
    exact (bind_of_ok (lift_of_ok hsetUp) _).trans (bind_of_ok hruns _)

/-- A run fails exactly if it does before the first case or in some case after those before it. -/
theorem run_eq_error {options : RunOptions} {r : List ReportCall} {p : Progress σ} :
    run host config options ⟨s, r⟩ = .error f p ↔
      (∃ s', setUp host config options s = .error f s' ∧ p = ⟨s', r⟩) ∨
      ∃ selected s₁ ran case later s₂ s₃, setUp host config options s = .ok selected s₁ ∧
        selected = ran.map Compared.case ++ case :: later ∧ Ran host config s₁ ran s₂ ∧
        compareCase host config case s₂ = .error f s₃ ∧ p = ⟨s₃, r ++ reports ran⟩ := by
  -- Counting and noting the end of a run cannot fail, so setting up and the cases are all there is.
  constructor
  · intro h
    rcases bind_eq_error.mp h with h | ⟨selected, p₁, hlift, h⟩
    · exact .inl (lift_eq_error.mp h)
    obtain ⟨s₁, hsetUp, rfl⟩ := lift_eq_ok.mp hlift
    rcases bind_eq_error.mp h with h | ⟨t', p₂, -, h⟩
    · obtain ⟨ran, case, later, s₂, s₃, hselected, hran, hfail, rfl⟩ :=
        foldlM_step_eq_error.mp h
      exact .inr ⟨selected, s₁, ran, case, later, s₂, s₃, hsetUp, hselected, hran, hfail, rfl⟩
    · cases h
  · rintro (⟨s', hsetUp, rfl⟩ |
      ⟨selected, s₁, ran, case, later, s₂, s₃, hsetUp, hselected, hran, hfail, rfl⟩)
    · exact bind_eq_error.mpr (.inl (lift_eq_error.mpr ⟨s', hsetUp, rfl⟩))
    · have hruns : runCases host config selected ⟨s₁, r⟩
          = .error f ⟨s₃, r ++ reports ran⟩ :=
        foldlM_step_eq_error.mpr ⟨ran, case, later, s₂, s₃, hselected, hran, hfail, rfl⟩
      exact bind_eq_error.mpr (.inr ⟨_, _, lift_of_ok hsetUp, bind_eq_error.mpr (.inl hruns)⟩)

end Harness

end TwinRun
