import TwinRun.Diff.Words
import TwinRun.Path

/-!
The result of comparing the two outputs of one case, and its lines as they are shown.

A comparison without hunks is a match and shows nothing. Otherwise two header lines name
the two sides, and each hunk shows its header and its lines.
-/

namespace TwinRun

inductive LineStyle where
  | fileHeader
  | hunkHeader
  | context
  | removed
  | added
  | note
  deriving DecidableEq, Repr

def LineKind.style : LineKind → LineStyle
  | .context => .context
  | .removed => .removed
  | .added => .added

structure Comparison where
  caseName : String
  /-- Names the reference side. -/
  referenceLabel : String
  /-- Names the candidate side. -/
  candidateLabel : String
  hunks : List Hunk
  deriving DecidableEq, Repr

/-- A line that is shown, without its line feed. -/
abbrev StyledLine := LineStyle × String

/-- Follows a line that has no line feed. -/
def missingNewlineNote : String := "\\ No newline at end of file"

/-- The shown form of a line of a hunk, with its note. -/
def DiffLine.rendered (line : DiffLine) : List StyledLine :=
  (line.kind.style, String.ofList (line.kind.mark :: line.text.toList)) ::
    if line.missingNewline then [(.note, missingNewlineNote)] else []

def Hunk.rendered (h : Hunk) : List StyledLine :=
  (.hunkHeader, h.header) :: h.lines.flatMap DiffLine.rendered

namespace Comparison

/-- The two outputs are the same. -/
def isMatch (c : Comparison) : Bool := c.hunks.isEmpty

/-- The lines shown for the comparison: none for a match. -/
def rendered (c : Comparison) : List StyledLine :=
  if c.isMatch then []
  else (.fileHeader, "--- " ++ c.referenceLabel) :: (.fileHeader, "+++ " ++ c.candidateLabel) ::
    c.hunks.flatMap Hunk.rendered

/-- The shown lines as one text, a line feed after each. -/
def render (c : Comparison) : String :=
  String.join (c.rendered.map (fun line => line.2 ++ "\n"))

/-- Compares two outputs. Equal outputs need no diff. -/
def ofBytes (caseName : String) (referencePath : Path) (reference : Bytes)
    (candidatePath : Path) (candidate : Bytes) (context : Nat) : Comparison :=
  { caseName
    referenceLabel := referencePath.display
    candidateLabel := candidatePath.display
    hunks := if reference = candidate then [] else diff reference candidate context }

/-- The hunks of two outputs, as far as they can be counted out. -/
def hunksIn (overflow : Overflow) (reference candidate : Bytes) (context : Nat) :
    Except Panic (List Hunk) :=
  if reference = candidate then .ok [] else diffIn overflow reference candidate context

/-- Compares two outputs in machine words. -/
def ofBytesIn (overflow : Overflow) (caseName : String) (referencePath : Path) (reference : Bytes)
    (candidatePath : Path) (candidate : Bytes) (context : Nat) : Except Panic Comparison := do
  let hunks ← hunksIn overflow reference candidate context
  return { caseName, hunks
           referenceLabel := referencePath.display
           candidateLabel := candidatePath.display }

end Comparison

end TwinRun
