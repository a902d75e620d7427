import TwinRun.Path

/-!
The programs under comparison.

A run compares two variants of a compiler front end, the candidate and the reference.
Each has a lexer stage and a parser stage; the mode says how much of that is run.
-/

namespace TwinRun

/-- How much of a front end is run. -/
inductive Mode where
  /-- The lexer alone. -/
  | lexer
  /-- The lexer, its output piped into the parser. -/
  | parser
  deriving DecidableEq, Repr, Inhabited

def Mode.all : List Mode := [.lexer, .parser]

def Mode.name : Mode → String
  | .lexer => "lexer"
  | .parser => "parser"

def Mode.ofName? (name : String) : Option Mode := all.find? (·.name == name)

/-- The two front ends of a comparison. -/
inductive Side where
  | candidate
  | reference
  deriving DecidableEq, Repr

def Side.all : List Side := [.candidate, .reference]

def Side.name : Side → String
  | .candidate => "candidate"
  | .reference => "reference"

/-- A program with its leading arguments. -/
structure Stage where
  program : Path
  args : List Bytes := []
  deriving DecidableEq, Repr

namespace Stage

/-- The stage with more arguments after its own. -/
def withArgs (s : Stage) (more : List Bytes) : Stage := { s with args := s.args ++ more }

def display (s : Stage) : String := s.program.display

end Stage

/-- One front end: its stages, and the label that names its outputs. -/
structure Variant where
  label : String
  lexer : Stage
  parser : Stage
  deriving DecidableEq, Repr

namespace Variant

/-- A front end whose stages take no arguments of their own. -/
def ofPrograms (label : String) (lexer parser : Path) : Variant :=
  ⟨label, { program := lexer }, { program := parser }⟩

/-- The candidate of the conventional layout. -/
def conventionalCandidate : Variant :=
  ofPrograms "my" (.ofString "src/lexer") (.ofString "src/parser")

def conventionalReference : Variant :=
  ofPrograms "ref" (.ofString "reference-binaries/lexer") (.ofString "reference-binaries/parser")

end Variant

end TwinRun
