import TwinRun.CommandLine.Arguments
import TwinRun.CommandLine.Fatal
import TwinRun.Config.Yaml
import TwinRun.Harness
import TwinRun.Report.Console

/-!
The program: arguments in, exit code out.

The configuration is layered: the conventional values, then the file, then the flags. The
exit code tells whether the run could be made and, if that is asked for, whether all outputs
were the same.
-/

namespace TwinRun.Program

open CommandLine (Arguments)

variable {σ : Type} (host : Host σ)

/-! ### Configuration -/

/-- Taken as configuration file if it is there and no other is named. -/
def defaultFile : Path := .ofString "frontdiff.yaml"

def load (path : Path) : Work σ Config := do
  let unreadable e : Fault := .config (.unreadable path e)
  let bytes ← (host.read path).orFault unreadable
  match bytes.text? with
  | none => throw (unreadable .notText)
  | some text =>
      match Config.parse (some path) text with
      | .ok c => return c
      | .error f => throw f

/-- The configuration that the flags are laid over. -/
def base (args : Arguments) : Work σ Config := do
  match args.config with
  | some path => load host path
  | none =>
      if ← Host.ask (host.isFile defaultFile) then load host defaultFile
      else return .conventional

/-- What the flags say goes over what the configuration says. -/
def override (args : Arguments) (c : Config) : Config :=
  { c with
    mode := args.mode.getD c.mode
    scratchDir := args.scratch.getD c.scratchDir
    contextLines := args.context.getD c.contextLines }

def resolve (args : Arguments) : Work σ Config := do
  return override args (← base host args)

/-! ### Running -/

/-- The configuration in force, if runs can be made with it. -/
def accepted (args : Arguments) : Work σ Config := do
  match (← resolve host args).accepted with
  | .ok c => return c
  | .error f => throw f

def options (args : Arguments) : RunOptions := ⟨args.skipBuild, args.filter⟩

/-- Resolves the configuration and makes the run. -/
def execute (args : Arguments) : Reporting σ Summary := do
  Harness.run host (← (accepted host args).lift) (options args)

/-- Colour is used only where it is asked for: the output goes to no terminal. -/
def colour (args : Arguments) : Console.ColourChoice :=
  if args.color = .always then .always else .never

def shown (args : Arguments) (calls : List ReportCall) : String :=
  String.join (calls.map (Console.output (colour args)))

/-! ### Exit codes -/

/-- All is well. -/
def exitMatched : Nat := 0

/-- Outputs differ, and that was to be told. -/
def exitDiverged : Nat := 1

/-- No run could be made or finished. -/
def exitFault : Nat := 2

def exitPanic : Nat := 101

def exitCode (args : Arguments) (s : Summary) : Nat :=
  if args.failOnDiff ∧ ¬ s.allMatched then exitDiverged else exitMatched

def faultCode : Fault → Nat
  | .panic _ => exitPanic
  | _ => exitFault

/-- What is shown of a fault: of a panic, only what it is over. -/
def faultText : Fault → String
  | .panic p => p.message ++ "\n"
  | f => CommandLine.Fatal.text f

structure Ending (σ : Type) where
  code : Nat
  /-- The system afterwards. -/
  system : σ
  /-- What the program itself has written to standard output. -/
  out : String := ""
  /-- What it has written last to standard error. -/
  err : String := ""

/-- Makes the run that the arguments ask for. -/
def runWith (args : Arguments) (s : σ) : Ending σ :=
  match execute host args { system := s } with
  | .ok summary p =>
      { code := exitCode args summary, system := p.system, out := shown args p.reported }
  | .error f p =>
      { code := faultCode f, system := p.system, out := shown args p.reported
        err := faultText f }

/-- The whole program. The host depends on how much is to be told. -/
def run (hostFor : (verbosity : Nat) → Host σ) (argv : List Bytes) (s : σ) : Ending σ :=
  match CommandLine.parse argv with
  | .ok args => runWith (hostFor args.verbose) args s
  | .error p =>
      if p.isRequested then { code := exitMatched, system := s, out := p.message }
      else { code := exitFault, system := s, err := p.message }

end TwinRun.Program
