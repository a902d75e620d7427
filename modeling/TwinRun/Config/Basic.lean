import TwinRun.Fault
import TwinRun.Stage

/-!
The configuration of a run, its conventional values and its validity.

Artifacts are named after a case and a label, with an underscore between them. A valid
configuration has two different, non-empty labels without underscores, dots and path
separators, so that no two artifacts share a name.
-/

namespace TwinRun

/-- The step that builds the candidate before anything is compared. -/
structure Build where
  program : Path
  args : List Bytes
  /-- Where the program is run. -/
  dir : Path
  deriving DecidableEq, Repr

namespace Build

def conventionalDir : Path := .ofString "src"

def conventional : Build := ⟨.ofString "make", [], conventionalDir⟩

def command (b : Build) : Stage := ⟨b.program, b.args⟩

end Build

structure Corpus where
  /-- Cases for every mode. -/
  general : Path
  /-- Cases for the lexer alone. -/
  lexer : Path
  /-- Cases for lexer and parser. -/
  parser : Path
  /-- What a case file's name ends in, without the dot. -/
  extension : String
  deriving DecidableEq, Repr

namespace Corpus

def conventional : Corpus :=
  ⟨.ofString "cases", .ofString "lexer_cases", .ofString "parser_cases", "cl"⟩

/-- The directories searched in a mode: its own first, then the general one. -/
def sources (c : Corpus) : Mode → List Path
  | .lexer => [c.lexer, c.general]
  | .parser => [c.parser, c.general]

end Corpus

/-- All a run depends on. -/
structure Config where
  mode : Mode
  /-- Holds the artifacts; emptied before every run. -/
  scratchDir : Path
  corpus : Corpus
  /-- No build step if absent. -/
  build : Option Build
  candidate : Variant
  reference : Variant
  /-- Unchanged lines shown around each change. -/
  contextLines : Nat
  deriving DecidableEq, Repr

namespace Config

/-- What holds where nothing else is said. -/
def conventional : Config :=
  { mode := .parser
    scratchDir := .ofString "temp"
    corpus := .conventional
    build := some .conventional
    candidate := .conventionalCandidate
    reference := .conventionalReference
    contextLines := 3 }

def variant (c : Config) : Side → Variant
  | .candidate => c.candidate
  | .reference => c.reference

/-- Characters that a label may not hold. -/
def labelSeparators : List Char := ['_', '.', '/', '\\']

/-- What is wrong with a label, if anything. -/
def labelProblem (side : Side) (label : String) : Option ConfigProblem :=
  if label.isEmpty then some (.emptyLabel side.name)
  else if label.toList.any (· ∈ labelSeparators) then some (.badLabel side.name label)
  else none

/-- What is wrong with the configuration, if anything: the candidate's label, then the
reference's, then the two together, then the extension. -/
def problem? (c : Config) : Option ConfigProblem :=
  (Side.all.findSome? fun side => labelProblem side (c.variant side).label)
    |>.or (if c.candidate.label = c.reference.label
        then some (.sharedLabel c.candidate.label) else none)
    |>.or (if c.corpus.extension.isEmpty then some .emptyExtension else none)

/-- Accepts a configuration whose artifacts cannot collide. -/
def validate (c : Config) : Except Fault Unit :=
  match c.problem? with
  | some problem => .error (.config problem)
  | none => .ok ()

end Config

end TwinRun
