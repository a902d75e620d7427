import TwinRun.Discovery
import TwinRun.Pipeline
import TwinRun.Report.Sink
import TwinRun.Scratch

/-!
A whole run.

A run builds the candidate, empties the scratch directory, finds the cases and then takes
them one by one: both front ends are run, their artifacts compared and the comparison
reported, before the next case is looked at. The first fault ends the run; what has been
reported until then stays.
-/

namespace TwinRun

/-- What a run is asked to do beyond its configuration. -/
structure RunOptions where
  skipBuild : Bool := false
  /-- Only cases whose name contains this are run. -/
  filter : Option String := none
  deriving DecidableEq, Repr

structure Summary where
  cases : Nat := 0
  /-- The names of the cases whose outputs differ, in order. -/
  diverged : List String := []
  deriving DecidableEq, Repr

def Summary.allMatched (s : Summary) : Bool := s.diverged.isEmpty

def Summary.count (s : Summary) (c : Comparison) : Summary :=
  { cases := s.cases + 1
    diverged := if c.isMatch then s.diverged else s.diverged ++ [c.caseName] }

/-- A system together with what has been reported, the first call first. -/
structure Progress (σ : Type) where
  system : σ
  reported : List ReportCall := []

/-- Work that also reports. -/
abbrev Reporting (σ α : Type) := EStateM Fault (Progress σ) α

def Work.lift {σ α : Type} (work : Work σ α) : Reporting σ α :=
  fun p =>
    match work p.system with
    | .ok a s => .ok a { p with system := s }
    | .error e s => .error e { p with system := s }

def report {σ : Type} (call : ReportCall) : Reporting σ Unit :=
  modify fun p => { p with reported := p.reported ++ [call] }

namespace Build

variable {σ : Type} (host : Host σ)

/-- Runs the build step and waits for it. Without fresh binaries nothing can be compared, so
anything but success is a fault. -/
def run (b : Build) : Work σ Unit := do
  let program := b.command.display
  host.tell (.buildStarted program b.dir)
  let fault := Fault.buildNotStarted program b.dir
  let child ← (host.start { stage := b.command, directory := some b.dir, output := .shown }).orFault fault
  let status ← (host.wait child).orFault fault
  if status.success then return else throw (.buildFailed program b.dir status)

end Build

def nameContains (name text : String) : Bool :=
  Bytes.contains (Bytes.ofString text) (Bytes.ofString name)

def selectCases (filter : Option String) (cases : List Case) : List Case :=
  match filter with
  | some text => cases.filter fun c => nameContains c.name text
  | none => cases

def Config.accepted (c : Config) : Except Fault Config := c.validate.map fun _ => c

namespace Harness

variable {σ : Type} (host : Host σ) (config : Config)

/-- The selected cases: those of the mode, then the general ones. -/
def cases (filter : Option String) : Work σ (List Case) := do
  let found ← Discovery.inDirectories host (config.corpus.sources config.mode) config.corpus.extension
  return selectCases filter found

def compareCase (case : Case) : Work σ Comparison := do
  let artifacts ← Pipeline.runCase host case config.mode config.candidate config.reference
    config.scratchDir
  Artifact.compare host case.name artifacts.reference artifacts.candidate config.contextLines

/-- Runs, compares and reports one case. -/
def runOne (case : Case) : Reporting σ Comparison := do
  let c ← (compareCase host config case).lift
  report (.separator case.name)
  report (.comparison c)
  return c

/-- The build step, unless there is none or it is to be skipped. -/
def build (options : RunOptions) : Work σ Unit :=
  match config.build, options.skipBuild with
  | some b, false => b.run host
  | _, _ => host.tell .buildSkipped

/-- What comes before the first case. -/
def setUp (options : RunOptions) : Work σ (List Case) := do
  build host config options
  Scratch.prepare host config.scratchDir
  let selected ← cases host config options.filter
  host.tell (.runStarted config.mode selected.length)
  return selected

def runCases (selected : List Case) : Reporting σ Summary :=
  selected.foldlM (fun s case => do return s.count (← runOne host config case)) {}

def run (options : RunOptions) : Reporting σ Summary := do
  let selected ← (setUp host config options).lift
  let summary ← runCases host config selected
  (host.tell (.runComplete summary.cases summary.diverged.length)).lift
  return summary

end Harness

end TwinRun
