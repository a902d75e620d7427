import TwinRun.ExitStatus
import TwinRun.SystemError
import TwinRun.Path
import TwinRun.Word

/-!
Failures that stop a run.

Only failures of the harness itself are faults. A stage that crashes, exits with a
failure or cannot be started is not: what it wrote, or the message in its place, is
output like any other. A panic stops a run like a fault, but nobody is told how to go on.
-/

namespace TwinRun

/-- What was being done with the scratch directory. -/
inductive ScratchAction where
  | create
  | list
  | inspect
  | remove
  deriving DecidableEq, Repr

def ScratchAction.all : List ScratchAction := [.create, .list, .inspect, .remove]

def ScratchAction.name : ScratchAction → String
  | .create => "create"
  | .list => "list"
  | .inspect => "inspect"
  | .remove => "remove"

inductive ArtifactAction where
  | create
  | duplicateHandle
  | write
  | read
  deriving DecidableEq, Repr

def ArtifactAction.all : List ArtifactAction := [.create, .duplicateHandle, .write, .read]

def ArtifactAction.name : ArtifactAction → String
  | .create => "create"
  | .duplicateHandle => "duplicate handle"
  | .write => "write"
  | .read => "read"

/-- What is wrong with a configuration. -/
inductive ConfigProblem where
  /-- A label has no characters. -/
  | emptyLabel (side : String)
  /-- A label holds a character that would blur artifact names. -/
  | badLabel (side label : String)
  /-- Both front ends have one label. -/
  | sharedLabel (label : String)
  | emptyExtension
  /-- The configuration file could not be read. -/
  | unreadable (path : Path) (cause : SystemError)
  /-- The text is no YAML or does not describe a configuration. -/
  | invalid (path : Option Path)
  /-- A problem put into words elsewhere. -/
  | other (text : String)
  deriving DecidableEq, Repr

def ConfigProblem.message : ConfigProblem → String
  | emptyLabel side => side ++ " label must not be empty"
  | badLabel side label =>
      side ++ " label '" ++ label ++ "' must not contain '_', '.', '/' or '\\'"
  | sharedLabel label => "candidate and reference share the label '" ++ label ++ "'"
  | emptyExtension => "corpus extension must not be empty"
  | unreadable path _ => "failed to read " ++ path.display
  | invalid none => "invalid YAML configuration"
  | invalid (some path) => "invalid YAML configuration (" ++ path.display ++ ")"
  | other text => text

/-- A failure that stops a run. -/
inductive Fault where
  /-- The build command could not be started. -/
  | buildNotStarted (program : String) (dir : Path) (cause : SystemError)
  /-- The build command failed. -/
  | buildFailed (program : String) (dir : Path) (status : ExitStatus)
  | scratch (path : Path) (action : ScratchAction) (cause : SystemError)
  | artifact (path : Path) (action : ArtifactAction) (cause : SystemError)
  /-- A started stage could not be waited for. -/
  | lostProcess (program : String) (cause : SystemError)
  | config (problem : ConfigProblem)
  | panic (p : Panic)
  deriving DecidableEq, Repr

namespace Fault

def message : Fault → String
  | buildNotStarted program dir _ =>
      "failed to start build command '" ++ program ++ "' in '" ++ dir.display ++ "'"
  | buildFailed program dir status =>
      "build command '" ++ program ++ "' in '" ++ dir.display ++ "' failed with "
        ++ status.describe
  | scratch path action _ =>
      "scratch directory error at '" ++ path.display ++ "': " ++ action.name
  | artifact path action _ => "artifact error at '" ++ path.display ++ "': " ++ action.name
  | lostProcess program _ => "lost track of stage process '" ++ program ++ "'"
  | config problem => "configuration error: " ++ problem.message
  | panic p => p.message

/-- The class of the fault, for tools. -/
def code : Fault → String
  | buildNotStarted .. | buildFailed .. => "frontdiff::build"
  | scratch .. => "frontdiff::scratch"
  | artifact .. => "frontdiff::artifact"
  | lostProcess .. => "frontdiff::process"
  | config .. => "frontdiff::config"
  | panic .. => "panic"

def help? : Fault → Option String
  | buildNotStarted .. =>
      some "check that the build program is installed and the build directory exists"
  | buildFailed .. =>
      some "no case can be compared without candidate binaries; fix the build first"
  | _ => none

/-- What lies behind a fault. -/
inductive Cause where
  | system (error : SystemError)
  /-- The text could not be read as YAML of the expected shape. -/
  | yaml
  deriving DecidableEq, Repr

def cause? : Fault → Option Cause
  | buildNotStarted _ _ e | scratch _ _ e | artifact _ _ e | lostProcess _ e => some (.system e)
  | config (.unreadable _ e) => some (.system e)
  | config (.invalid _) => some .yaml
  | buildFailed .. | config _ | panic _ => none

end Fault

end TwinRun
