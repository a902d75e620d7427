import TwinRun.Comparison
import TwinRun.System.Host

/-!
Artifacts: the files that hold the outputs of the two sides of a case.
-/

namespace TwinRun.Artifact

variable {σ : Type} (host : Host σ)

/-- Opens an artifact, empty. -/
def create (path : Path) : Work σ Handle :=
  (host.create path).orFault (.artifact path .create)

/-- A second handle on an artifact, so that both streams of a stage go into one file. -/
def duplicate (path : Path) (h : Handle) : Work σ Handle :=
  (host.duplicate h).orFault (.artifact path .duplicateHandle)

def write (path : Path) (h : Handle) (text : String) : Work σ Unit :=
  (host.write h (Bytes.ofString text)).orFault (.artifact path .write)

def read (path : Path) : Work σ Bytes :=
  (host.read path).orFault (.artifact path .read)

/-- Compares two artifacts, the reference read first. -/
def compare (caseName : String) (reference candidate : Path) (context : Nat) :
    Work σ Comparison := do
  let old ← read host reference
  let new ← read host candidate
  .orPanic (Comparison.ofBytesIn host.overflow caseName reference old candidate new context)

end TwinRun.Artifact
