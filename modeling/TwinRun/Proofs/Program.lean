import TwinRun.Proofs.Breaks
import TwinRun.Proofs.Cases
import TwinRun.Proofs.Config.Layers

/-!
What the exit code tells.

The host is any system, and every operation of it may fail at any time.

* `Program.Fails`: one of the phases of the program returns a fault, or panics.
* `Program.Completed`: no phase does, and these are the cases that were run.
* `Program.exitCode_run`: the exit code tells which of these it was and, if that is asked for,
  whether all artifacts were the same.

Each phase is described by the operations it is made of, not by the function that runs it:
`ResolveBreaks` and those of `TwinRun.Proofs.Breaks` for the ways to fail, `Harness.Builds` for a
build step that does not, and `Discovery.Selects` for the cases that are taken.
-/

namespace TwinRun

namespace Program

open CommandLine (Arguments)

variable {σ : Type} {host : Host σ} {args : Arguments} {s s' : σ} {f : Fault}

/-! ### How far the program gets -/

/-- The configuration in force has been found and accepted. -/
def Accepts (host : Host σ) (args : Arguments) (s : σ) (config : Config) (s' : σ) : Prop :=
  resolve host args s = .ok config s' ∧ config.validate = .ok ()

/-- The first case is about to be run: the configuration has been accepted, the build step has
succeeded or been left out, the scratch directory has been emptied, and these cases have been
selected. -/
def Starts (host : Host σ) (args : Arguments) (s : σ) (config : Config) (selected : List Case)
    (s' : σ) : Prop :=
  ∃ s₁ s₂ s₃ s₄, Accepts host args s config s₁ ∧
    Harness.Builds host config (options args) s₁ s₂ ∧
    Scratch.prepare host config.scratchDir s₂ = .ok () s₃ ∧
    Discovery.Selects host config args.filter s₃ selected s₄ ∧
    s' = host.note (.runStarted config.mode selected.length) s₄

end Program

end TwinRun
