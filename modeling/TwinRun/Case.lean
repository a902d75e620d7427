import TwinRun.Path

/-!
Cases and the files that hold their outputs.
-/

namespace TwinRun

/-- A source file that is run through both front ends. -/
structure Case where
  path : Path
  /-- Names the case in reports and artifacts. -/
  name : String
  deriving DecidableEq, Repr

namespace Case

/-- The name of a case: its file name, read as text, up to the first dot. There is none
only if the path has no file name. -/
def nameOf? (path : Path) : Option String :=
  path.fileName?.map fun name => String.ofList ((Lossy.chars name).takeWhile (· ≠ '.'))

/-- The case of a file. -/
def ofPath? (path : Path) : Option Case := (nameOf? path).map (⟨path, ·⟩)

end Case

def artifactExtension : String := "out"

def artifactName (caseName label : String) : String :=
  caseName ++ "_" ++ label ++ "." ++ artifactExtension

/-- Where the output of a case is kept. -/
def artifactPath (scratch : Path) (caseName label : String) : Path :=
  scratch.join (.ofString (artifactName caseName label))

end TwinRun
