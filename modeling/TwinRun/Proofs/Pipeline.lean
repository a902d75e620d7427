import Mathlib.Logic.Function.Basic
import TwinRun.Pipeline
import TwinRun.Proofs.System.Operations
import TwinRun.Proofs.System.World

/-!
What a pipeline leaves in its artifact.

What a stage comes to is given: what it writes and how it ends, or why it cannot be started. It
touches no file but its artifact.

* `Receiving`: the states in which an artifact is written, whatever else is known of them.
* `Pipeline.runCaptured_spec`: a stage adds its two streams, or its message, to the artifact.
* `Pipeline.runVariant_of_create`: a front end adds its output to an artifact that has been opened.
* `Standing`: the state between two pipelines, with the artifacts that are kept in the scratch
  directory.
* `Pipeline.runVariant_spec`: a pipeline replaces its artifact there by its own output, and nothing
  else.
-/

namespace TwinRun

/-! ### Programs -/

/-- What a started program writes, and how it ends. -/
structure Finish where
  writes : List (Stream × Bytes)
  status : ExitStatus
  deriving DecidableEq, Repr

/-- What the stages come to, by their commands and their inputs. -/
abbrev Programs := Stage → Bytes → Except SystemError Finish

/-- The stages that a front end is run with. -/
def Variant.Uses (v : Variant) (mode : Mode) (stage : Stage) : Prop :=
  (∃ file : Path, stage = v.lexer.withArgs [file.bytes]) ∨ mode = .parser ∧ stage = v.parser

/-- As long as everything outside the directory at `l` is as it was at the start, these stages do
what the programs say, and touch no file. The programs may depend on all that is outside, on the
case files and on themselves as files, too. -/
def World.Runs (starter : World.Starter) (stages : Stage → Prop) (start : World) (l : Location)
    (programs : Programs) : Prop :=
  ∀ launch w, launch.directory = none → stages launch.stage →
    w.files.outside l = start.files.outside l → w.directory = start.directory →
    w.environment = start.environment →
    starter launch w = (programs launch.stage launch.input).map fun f =>
      ⟨f.writes, w.files, f.status⟩

/-- Stages that do what the programs say, and nothing else. -/
def World.starterOf (programs : Programs) : World.Starter := fun launch w =>
  (programs launch.stage launch.input).map fun f => ⟨f.writes, w.files, f.status⟩

/-- All programs can be run. -/
theorem World.runs_starterOf (programs : Programs) (stages : Stage → Prop) (start : World)
    (l : Location) : World.Runs (starterOf programs) stages start l programs :=
  fun _ _ _ _ _ _ _ => rfl

namespace Pipeline

/-- What a stage whose streams are captured leaves behind: both streams as they were written, or a
message in their place. -/
def captured (stage : Stage) : Except SystemError Finish → Bytes
  | .ok f => f.writes.flatMap (·.2)
  | .error cause => Bytes.ofString (startFailureMessage stage cause ++ "\n")

def piped : Except SystemError Finish → Bytes
  | .ok f => (f.writes.filter (·.1 = .out)).flatMap (·.2)
  | .error _ => []

/-- What a lexer that feeds a parser leaves behind: nothing, or a message. -/
def leftBehind (stage : Stage) : Except SystemError Finish → Bytes
  | .ok _ => []
  | .error cause => captured stage (.error cause)

def output (programs : Programs) (mode : Mode) (v : Variant) (file : Path) : Bytes :=
  let lexer := v.lexer.withArgs [file.bytes]
  let lexed := programs lexer []
  match mode with
  | .lexer => captured lexer lexed
  | .parser => leftBehind lexer lexed ++ captured v.parser (programs v.parser (piped lexed))

/-- The output of a front end on a case file whose lexer comes to `lexed`, and whose parser comes to
what `parse` says of its input. -/
def outputOf (mode : Mode) (v : Variant) (file : Path) (lexed : Except SystemError Finish)
    (parse : Bytes → Except SystemError Finish) : Bytes :=
  let lexer := v.lexer.withArgs [file.bytes]
  match mode with
  | .lexer => captured lexer lexed
  | .parser => leftBehind lexer lexed ++ captured v.parser (parse (piped lexed))

theorem output_eq (programs : Programs) (mode : Mode) (v : Variant) (file : Path) :
    output programs mode v file
      = outputOf mode v file (programs (v.lexer.withArgs [file.bytes]) []) (programs v.parser) :=
  rfl

end Pipeline

/-! ### States between pipelines -/

/-- A directory that has been prepared: its path leads to it, and nothing is in it. -/
structure Prepared (start : World) (scratch : Path) (l : Location) : Prop where
  find : start.files.find start.directory scratch true = .ok (l, .directory)
  directory : start.files.get? l = some .directory
  empty : ∀ x, x ≠ [] → start.files.get? (l ++ x) = none

/-- The state between two pipelines: the scratch directory at `l` holds what is kept and nothing
else, and outside it everything is as it was at the start. -/
structure Standing (start : World) (l : Location) (kept : Bytes → Option Bytes) (w : World) :
    Prop where
  files : w.files.WellFormed
  directory : w.directory = start.directory
  environment : w.environment = start.environment
  outside : w.files.outside l = start.files.outside l
  missing : ∀ a, kept a = none → w.files.get? (l ++ [a]) = none
  held : ∀ a content, kept a = some content → w.files.Holds (l ++ [a]) content
  deeper : ∀ a b x, w.files.get? (l ++ a :: b :: x) = none

/-- The state while an artifact is written through a handle. -/
structure Filling (start : World) (l : Location) (kept : Bytes → Option Bytes) (a : Bytes)
    (h : Handle) (content : Bytes) (w : World) : Prop where
  standing : Standing start l (Function.update kept a (some content)) w
  writing : w.files.Writing (l ++ [a]) h content

section States

variable {start : World} {l : Location} {scratch : Path} {kept : Bytes → Option Bytes}
  {w w' : World} {a : Bytes}

/-- What was there at the start is still there. -/
theorem Standing.within (h : Standing start l kept w) (hp : Prepared start scratch l) :
    start.files.Within w.files := by
  intro x n hx
  by_cases hin : l <+: x ∧ x ≠ l
  · obtain ⟨⟨y, rfl⟩, hne⟩ := hin
    rw [hp.empty y (by rintro rfl; simp at hne)] at hx
    cases hx
  · have hout := congrFun h.outside x
    rw [Files.outside, Files.outside, if_neg hin, if_neg hin] at hout
    rwa [hout]

theorem Standing.find (h : Standing start l kept w) (hp : Prepared start scratch l) :
    w.files.find w.directory scratch true = .ok (l, .directory) := by
  rw [h.directory]
  exact Files.find_mono (h.within hp) hp.find

/-- An artifact is in the directory exactly if it is kept. -/
theorem Standing.isSome_get? (h : Standing start l kept w) (a : Bytes) :
    (w.files.get? (l ++ [a])).isSome ↔ (kept a).isSome := by
  cases hkept : kept a with
  | none => rw [h.missing a hkept]; rfl
  | some content =>
      obtain ⟨k, e, hfile, -⟩ := h.held a content hkept
      rw [hfile]
      rfl

/-- A change of one artifact. -/
theorem Standing.update {content : Bytes} {files : Files} (h : Standing start l kept w)
    (hwf : files.WellFormed) (hheld : files.Holds (l ++ [a]) content)
    (hsame : ∀ y ≠ l ++ [a], files.get? y = w.files.get? y) :
    Standing start l (Function.update kept a (some content)) { w with files } := by
  have hne : ∀ {b}, b ≠ a → l ++ [b] ≠ l ++ [a] := fun hb heq => hb (by simpa using heq)
  refine ⟨hwf, h.directory, h.environment, ?_, ?_, ?_, ?_⟩
  · rw [← h.outside]
    funext x
    unfold Files.outside
    by_cases hx : x = l ++ [a]
    · rw [hx, if_pos ⟨List.prefix_append _ _, by simp⟩, if_pos ⟨List.prefix_append _ _, by simp⟩]
    · rw [hsame x hx]
  · intro b hb
    by_cases hba : b = a
    · rw [hba, Function.update_self] at hb
      cases hb
    · rw [Function.update_of_ne hba] at hb
      rw [hsame _ (hne hba), h.missing b hb]
  · intro b c hb
    by_cases hba : b = a
    · rw [hba, Function.update_self] at hb
      cases hb
      rwa [hba]
    · rw [Function.update_of_ne hba] at hb
      exact (h.held b c hb).of_eq hheld (hne hba) hsame
  · intro b c x
    rw [hsame _ (by simp), h.deeper b c x]

/-- What the console shows does not matter. -/
theorem Standing.of_alike (h : Standing start l kept w) (halike : w.Alike w') :
    Standing start l kept w' := by
  obtain ⟨hfiles, hdirectory, henvironment⟩ := halike
  obtain ⟨files, directory, environment, outside, missing, held, deeper⟩ := h
  exact ⟨hfiles ▸ files, hdirectory.trans directory, henvironment.trans environment,
    hfiles ▸ outside, hfiles ▸ missing, hfiles ▸ held, hfiles ▸ deeper⟩

theorem Filling.of_alike {h : Handle} {content : Bytes}
    (hf : Filling start l kept a h content w) (halike : w.Alike w') :
    Filling start l kept a h content w' :=
  ⟨hf.standing.of_alike halike, halike.files ▸ hf.writing⟩

/-- A stage that is started now does what the programs say. -/
theorem Standing.starter_eq {starter : World.Starter} {stages : Stage → Prop} {programs : Programs}
    (h : Standing start l kept w) (hruns : World.Runs starter stages start l programs)
    (launch : Launch) (hdirectory : launch.directory = none) (hstage : stages launch.stage) :
    starter launch w = (programs launch.stage launch.input).map fun f =>
      ⟨f.writes, w.files, f.status⟩ :=
  hruns launch w hdirectory hstage h.outside h.directory h.environment

/-- More is written. -/
theorem Filling.write {h : Handle} {content : Bytes} (hf : Filling start l kept a h content w)
    (more : Bytes) : ∃ files, w.files.write h more = .ok files ∧
      Filling start l kept a h (content ++ more) { w with files } := by
  obtain ⟨files, hwrite, hwf, hwriting, hsame⟩ :=
    Files.write_spec hf.standing.files hf.writing more
  refine ⟨files, hwrite, ?_, hwriting⟩
  have hstanding := hf.standing.update hwf hwriting.holds hsame
  rwa [Function.update_idem] at hstanding

end States

/-! ### Running stages -/

/-- The states `I content` in which an artifact is written through a handle, `content` being what
has gone into it so far. More can be written, and what the console shows does not matter. -/
structure Receiving (h : Handle) (I : Bytes → World → Prop) : Prop where
  write : ∀ {content w}, I content w → ∀ more, ∃ files, w.files.write h more = .ok files ∧
    I (content ++ more) { w with files }
  alike : ∀ {content w w'}, I content w → w.Alike w' → I content w'

/-- In all these states, launching a stage comes to this, and it touches no file but its
artifact. -/
def Comes (starter : World.Starter) (I : Bytes → World → Prop) (launch : Launch)
    (result : Except SystemError Finish) : Prop :=
  ∀ {content w}, I content w →
    starter launch w = result.map fun f => ⟨f.writes, w.files, f.status⟩

section Running

variable {I : Bytes → World → Prop} {h : Handle} {w : World} {content : Bytes}
  {starter : World.Starter} {filter : Log.Filter} {overflow : Overflow}
  {result lexed parsed : Except SystemError Finish}

/-- What a stage writes, in both streams, is delivered into the artifact. -/
theorem Receiving.deliver (hI : Receiving h I) (hw : I content w)
    (writes : List (Stream × Bytes)) :
    I (content ++ writes.flatMap (·.2)) (w.deliver writes (.artifact h h)) := by
  induction writes generalizing content w with
  | nil =>
      rw [List.flatMap_nil, List.append_nil]
      exact hw
  | cons x writes ih =>
      -- Whichever stream it is, the next write goes through the same handle.
      obtain ⟨files', hwrite, hw'⟩ := hI.write hw x.2
      have hstep : w.deliver (x :: writes) (.artifact h h)
          = { w with files := files' }.deliver writes (.artifact h h) := by
        simp only [World.deliver, List.foldl_cons, ite_self, hwrite]
      rw [hstep, List.flatMap_cons, ← List.append_assoc]
      exact ih hw'

namespace Pipeline

/-- A message takes the place of a stage that cannot be started. -/
theorem recordStartFailure_spec (hI : Receiving h I) (artifact : Path) (stage : Stage)
    (cause : SystemError) (hw : I content w) :
    ∃ w', recordStartFailure (World.hostOf starter filter overflow) artifact h stage cause w
        = .ok (.notStarted cause) w' ∧ I (content ++ captured stage (.error cause)) w' := by
  obtain ⟨files, hwrite, hw'⟩ :=
    hI.write hw (Bytes.ofString (startFailureMessage stage cause ++ "\n"))
  exact ⟨_, bind_of_ok (Operation.orFault_of_ok (World.write_of_ok hwrite) _) _, hw'⟩

/-- Once a stage has been waited for, all that it writes has been delivered. -/
theorem waitFor_eq (stage : Stage) (child : Child) (w : World) :
    waitFor (World.hostOf starter filter overflow) stage child w
      = .ok (.exited child.status) (w.deliver child.writes child.output) :=
  rfl

/-- A stage whose streams are captured adds its output to the artifact, or a message if it cannot be
started. -/
theorem runCaptured_spec (hI : Receiving h I) (artifact : Path) {stage : Stage} {input : Bytes}
    (hstage : Comes starter I { stage, input, output := .artifact h h } result)
    (hw : I content w) :
    ∃ status w', runCaptured (World.hostOf starter filter overflow) artifact h stage input w
        = .ok status w' ∧ I (content ++ captured stage result) w' := by
  have hstarter := hstage hw
  -- Both duplicates of the handle are the handle itself.
  have hcaptured : ∀ r w', ((World.hostOf starter filter overflow).start
      { stage, input, output := .artifact h h }).attempt w = .ok r w' →
      startCaptured (World.hostOf starter filter overflow) artifact h stage input w = .ok r w' :=
    fun _ _ => id
  cases result with
  | ok f =>
      have hstart := hcaptured _ _
        (Operation.attempt_of_ok (World.start_of_ok filter overflow hstarter))
      exact ⟨_, _, (bind_of_ok hstart _).trans (waitFor_eq stage _ _), hI.deliver hw f.writes⟩
  | error cause =>
      have hstart := hcaptured _ _
        (Operation.attempt_of_error (World.start_of_error filter overflow hstarter))
      obtain ⟨w', hrecord, hw'⟩ := recordStartFailure_spec hI artifact stage cause hw
      exact ⟨_, w', (bind_of_ok hstart _).trans hrecord, hw'⟩

theorem runLexer_spec (hI : Receiving h I) (file : Path) (v : Variant) (artifact : Path)
    (hlexer : Comes starter I
      { stage := v.lexer.withArgs [file.bytes], output := .artifact h h } lexed)
    (hw : I [] w) :
    ∃ o w', runLexer (World.hostOf starter filter overflow) file v artifact h w = .ok o w' ∧
      I (captured (v.lexer.withArgs [file.bytes]) lexed) w' := by
  obtain ⟨status, w', hrun, hw'⟩ := runCaptured_spec hI artifact hlexer hw
  exact ⟨_, w', bind_of_ok hrun _, hw'⟩

theorem runBoth_spec (hI : Receiving h I) (file : Path) (v : Variant) (artifact : Path)
    (hlexer : Comes starter I { stage := v.lexer.withArgs [file.bytes], output := .pipe } lexed)
    (hparser : Comes starter I
      { stage := v.parser, input := piped lexed, output := .artifact h h } parsed)
    (hw : I [] w) :
    ∃ o w', runBoth (World.hostOf starter filter overflow) file v artifact h w = .ok o w' ∧
      I (leftBehind (v.lexer.withArgs [file.bytes]) lexed ++ captured v.parser parsed) w' := by
  have hstarter := hlexer hw
  cases lexed with
  | ok f =>
      have hstart := Operation.attempt_of_ok (World.start_of_ok filter overflow hstarter)
      obtain ⟨status, w₁, hrun, hw₁⟩ := runCaptured_spec hI artifact hparser hw
      -- The lexer is waited for last. What it tells the user shows on the console alone.
      have hw' : I (captured v.parser parsed) (w₁.deliver f.writes .pipe) :=
        hI.alike hw₁ ⟨rfl, rfl, rfl⟩
      exact ⟨_, _, (bind_of_ok hstart _).trans ((bind_of_ok hrun _).trans
        (bind_of_ok (waitFor_eq (v.lexer.withArgs [file.bytes]) _ w₁) _)), hw'⟩
  | error cause =>
      have hstart := Operation.attempt_of_error (World.start_of_error filter overflow hstarter)
      obtain ⟨w₁, hrecord, hw₁⟩ :=
        recordStartFailure_spec hI artifact (v.lexer.withArgs [file.bytes]) cause hw
      obtain ⟨status, w', hrun, hw'⟩ := runCaptured_spec hI artifact hparser hw₁
      exact ⟨_, w', (bind_of_ok hstart _).trans
        ((bind_of_ok hrecord _).trans (bind_of_ok hrun _)), hw'⟩

/-- The stages of a front end on a case file: the lexer comes to `lexed`, and the parser to what
`parse` says of its input. -/
structure StagesCome (starter : World.Starter) (I : Bytes → World → Prop) (h : Handle)
    (mode : Mode) (v : Variant) (file : Path) (lexed : Except SystemError Finish)
    (parse : Bytes → Except SystemError Finish) : Prop where
  lexer : mode = .lexer → Comes starter I
    { stage := v.lexer.withArgs [file.bytes], output := .artifact h h } lexed
  feeder : mode = .parser → Comes starter I
    { stage := v.lexer.withArgs [file.bytes], output := .pipe } lexed
  parser : mode = .parser → Comes starter I
    { stage := v.parser, input := piped lexed, output := .artifact h h } (parse (piped lexed))

/-- A front end adds its output to an artifact that has been opened. -/
theorem runVariant_of_create (hI : Receiving h I) {file : Path} {mode : Mode} {v : Variant}
    {parse : Bytes → Except SystemError Finish} {artifact : Path} {w₀ : World}
    (hstages : StagesCome starter I h mode v file lexed parse)
    (hcreate : Artifact.create (World.hostOf starter filter overflow) artifact w₀ = .ok h w)
    (hw : I [] w) :
    ∃ o w', runVariant (World.hostOf starter filter overflow) file mode v artifact w₀ = .ok o w' ∧
      I (outputOf mode v file lexed parse) w' := by
  cases mode with
  | lexer =>
      obtain ⟨o, w', hrun, hw'⟩ := runLexer_spec hI file v artifact (hstages.lexer rfl) hw
      exact ⟨o, w', (bind_of_ok hcreate _).trans hrun, hw'⟩
  | parser =>
      obtain ⟨o, w', hrun, hw'⟩ :=
        runBoth_spec hI file v artifact (hstages.feeder rfl) (hstages.parser rfl) hw
      exact ⟨o, w', (bind_of_ok hcreate _).trans hrun, hw'⟩

theorem looks_tellOutcome {σ : Type} {host : Host σ} {R : σ → σ → Prop} (hq : host.Quiet R)
    (caseName : String) (side : Side) (o : Outcome) :
    Looks R (tellOutcome host caseName side o) fun _ => True := by
  refine hq.bind (hq.tell _) fun _ _ => ?_
  cases o.parser with
  | some status => exact hq.tell _
  | none => exact hq.pure trivial

end Pipeline

end Running

/-! ### Artifacts in a scratch directory -/

section Scratch

variable {start : World} {l : Location} {scratch : Path} {kept : Bytes → Option Bytes}
  {w : World} {a : Bytes} {h : Handle} {starter : World.Starter} {filter : Log.Filter}
  {overflow : Overflow}
  {stages : Stage → Prop} {programs : Programs}

theorem receiving_filling : Receiving h (Filling start l kept a h) :=
  ⟨fun hf more => hf.write more, fun hf halike => hf.of_alike halike⟩

/-- While an artifact is filled, the stages do what the programs say. -/
theorem comes_filling (hruns : World.Runs starter stages start l programs) {launch : Launch}
    (hdirectory : launch.directory = none) (hstage : stages launch.stage) :
    Comes starter (Filling start l kept a h) launch (programs launch.stage launch.input) :=
  fun hf => hf.standing.starter_eq hruns launch hdirectory hstage

theorem stagesCome_filling (hruns : World.Runs starter stages start l programs) {mode : Mode}
    {v : Variant} (hv : ∀ stage, v.Uses mode stage → stages stage) (file : Path) :
    Pipeline.StagesCome starter (Filling start l kept a h) h mode v file
      (programs (v.lexer.withArgs [file.bytes]) []) (programs v.parser) :=
  ⟨fun _ => comes_filling hruns rfl (hv _ (.inl ⟨file, rfl⟩)),
    fun _ => comes_filling hruns rfl (hv _ (.inl ⟨file, rfl⟩)),
    fun hmode => comes_filling hruns rfl (hv _ (.inr ⟨hmode, rfl⟩))⟩

namespace Pipeline

/-- **What a pipeline leaves behind.** Whatever the artifact held before, it holds the output of the
front end afterwards, and nothing else has changed. -/
theorem runVariant_spec (filter : Log.Filter) (hruns : World.Runs starter stages start l programs)
    (hp : Prepared start scratch l) (h : Standing start l kept w) (ha : OrdinaryName a)
    (hfits : Files.Fits scratch a) (file : Path) {mode : Mode} {v : Variant}
    (hv : ∀ stage, v.Uses mode stage → stages stage) :
    ∃ o w', runVariant (World.hostOf starter filter overflow) file mode v (scratch.join ⟨a⟩) w
        = .ok o w' ∧
      Standing start l
        (Function.update kept a (some (output programs mode v file))) w' := by
  have hentry : w.files.get? (l ++ [a]) = none ∨ ∃ content, w.files.Holds (l ++ [a]) content := by
    cases hkept : kept a with
    | none => exact .inl (h.missing a hkept)
    | some content => exact .inr ⟨content, h.held a content hkept⟩
  obtain ⟨files, handle, hcreate, hwf, hwriting, hsame⟩ :=
    Files.create_join h.files (h.within hp _ _ hp.directory) (h.find hp) ha hfits hentry
  have hopened : Artifact.create (World.hostOf starter filter overflow) (scratch.join ⟨a⟩) w
      = .ok handle { w with files } :=
    Operation.orFault_of_ok (World.create_of_ok hcreate) _
  have hf : Filling start l kept a handle [] { w with files } :=
    ⟨h.update hwf hwriting.holds hsame, hwriting⟩
  obtain ⟨o, w', hrun, hf'⟩ := runVariant_of_create receiving_filling
    (stagesCome_filling hruns hv file) hopened hf
  rw [← output_eq] at hf'
  exact ⟨o, w', hrun, hf'.standing⟩

end Pipeline

/-- A kept artifact is read back. -/
theorem Artifact.read_spec (starter : World.Starter) (filter : Log.Filter)
    (hp : Prepared start scratch l) (h : Standing start l kept w) (ha : OrdinaryName a)
    (hfits : Files.Fits scratch a) {content : Bytes} (hkept : kept a = some content) :
    Artifact.read (World.hostOf starter filter overflow) (scratch.join ⟨a⟩) w = .ok content w := by
  have hread := Files.read_join (h.find hp) ha hfits (h.held a content hkept)
  exact Operation.orFault_of_ok (World.read_of_ok hread) _

end Scratch

end TwinRun
