import TwinRun.Artifact
import TwinRun.Case
import TwinRun.Config.Basic

/-!
Running a front end on a case.

In lexer mode both streams of the lexer go into the artifact. In parser mode the lexer's
output is the parser's input, and the streams of the parser go into the artifact. A stage
that fails, crashes or cannot be started is no fault: a message in its place goes into the
artifact.
-/

namespace TwinRun

inductive StageStatus where
  | exited (status : ExitStatus)
  | notStarted (cause : SystemError)
  deriving DecidableEq, Repr

namespace StageStatus

def success : StageStatus → Bool
  | exited status => status.success
  | notStarted _ => false

def logged : StageStatus → Log.StageEnd
  | exited status => if status.success then .succeeded else .failed status
  | notStarted cause => .notStarted cause.message

end StageStatus

/-- How the stages of a front end have ended; there is no parser in lexer mode. -/
structure Outcome where
  lexer : StageStatus
  parser : Option StageStatus
  deriving DecidableEq, Repr

structure Artifacts where
  candidate : Path
  reference : Path
  deriving DecidableEq, Repr

namespace Pipeline

/-- Stands in an artifact for the output of a stage that could not be started. -/
def startFailureMessage (stage : Stage) (cause : SystemError) : String :=
  "frontdiff: failed to start '" ++ stage.display ++ "': " ++ cause.message

variable {σ : Type} (host : Host σ)

/-- Writes the message of a stage that could not be started. -/
def recordStartFailure (artifact : Path) (h : Handle) (stage : Stage) (cause : SystemError) :
    Work σ StageStatus := do
  Artifact.write host artifact h (startFailureMessage stage cause ++ "\n")
  return .notStarted cause

def waitFor (stage : Stage) (child : Child) : Work σ StageStatus := do
  return .exited (← (host.wait child).orFault (.lostProcess stage.display))

/-- Starts a stage whose streams go into the artifact. -/
def startCaptured (artifact : Path) (h : Handle) (stage : Stage) (input : Bytes) :
    Work σ (Except SystemError Child) := do
  let out ← Artifact.duplicate host artifact h
  let err ← Artifact.duplicate host artifact h
  (host.start { stage, input, output := .artifact out err }).attempt

/-- Runs a stage whose streams go into the artifact. -/
def runCaptured (artifact : Path) (h : Handle) (stage : Stage) (input : Bytes) :
    Work σ StageStatus := do
  match ← startCaptured host artifact h stage input with
  | .ok child => waitFor host stage child
  | .error cause => recordStartFailure host artifact h stage cause

def runLexer (file : Path) (v : Variant) (artifact : Path) (h : Handle) : Work σ Outcome := do
  return ⟨← runCaptured host artifact h (v.lexer.withArgs [file.bytes]) [], none⟩

/-- Runs the lexer into the parser. The parser is run in any case, without input if the
lexer could not be started. -/
def runBoth (file : Path) (v : Variant) (artifact : Path) (h : Handle) : Work σ Outcome := do
  let lexer := v.lexer.withArgs [file.bytes]
  match ← (host.start { stage := lexer, output := .pipe }).attempt with
  | .ok child =>
      let parser ← runCaptured host artifact h v.parser child.piped
      return ⟨← waitFor host lexer child, some parser⟩
  | .error cause =>
      let status ← recordStartFailure host artifact h lexer cause
      return ⟨status, some (← runCaptured host artifact h v.parser [])⟩

/-- Runs a front end on a case file, its output going into a fresh artifact. -/
def runVariant (file : Path) (mode : Mode) (v : Variant) (artifact : Path) : Work σ Outcome := do
  let h ← Artifact.create host artifact
  match mode with
  | .lexer => runLexer host file v artifact h
  | .parser => runBoth host file v artifact h

/-- Tells how the stages of a front end have ended. -/
def tellOutcome (caseName : String) (side : Side) (o : Outcome) : Work σ Unit := do
  host.tell (.stageEnded caseName side .lexer o.lexer.logged)
  match o.parser with
  | some status => host.tell (.stageEnded caseName side .parser status.logged)
  | none => return

/-- Runs both front ends on a case, the candidate first. -/
def runCase (case : Case) (mode : Mode) (candidate reference : Variant) (scratch : Path) :
    Work σ Artifacts := do
  let artifacts : Artifacts :=
    ⟨artifactPath scratch case.name candidate.label, artifactPath scratch case.name reference.label⟩
  let outcome ← runVariant host case.path mode candidate artifacts.candidate
  tellOutcome host case.name .candidate outcome
  let outcome ← runVariant host case.path mode reference artifacts.reference
  tellOutcome host case.name .reference outcome
  return artifacts

end Pipeline

end TwinRun
