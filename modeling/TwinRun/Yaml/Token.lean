import TwinRun.Yaml.Chars

/-!
The tokens of a YAML text, and places in it.
-/

namespace TwinRun.Yaml

inductive ScalarStyle where
  | plain
  | singleQuoted
  | doubleQuoted
  | literal
  | folded
  deriving DecidableEq, Repr

inductive Token where
  | versionDirective (major minor : Nat)
  | tagDirective (handle leading : String)
  | documentStart
  | documentEnd
  | blockSequenceStart
  | blockMappingStart
  | blockEnd
  | flowSequenceStart
  | flowSequenceEnd
  | flowMappingStart
  | flowMappingEnd
  | blockEntry
  | flowEntry
  | key
  | value
  | alias (name : String)
  | anchor (name : String)
  | tag (handle suffix : String)
  | scalar (text : String) (style : ScalarStyle)
  deriving DecidableEq, Repr

/-- What is wrong with a text that is no YAML. -/
inductive Problem where
  | unprintable
  | unknownCharacter
  | tabIndentation
  | badDirective
  | badAnchor
  | badTag
  | badBlockHeader
  | badEscape
  | unfinishedScalar
  | unexpectedColon
  | missingColon
  | misplacedEntry
  | misplacedKey
  | misplacedValue
  | unexpectedToken
  | unknownTagHandle
  | unknownAnchor
  | incompatibleVersion
  | severalDocuments
  | tooDeep
  deriving DecidableEq, Repr

structure Mark where
  /-- The bytes in front of the place. -/
  index : Nat := 0
  line : Nat := 0
  column : Nat := 0
  deriving DecidableEq, Repr

/-- The text from a place on. -/
structure Cursor where
  rest : List Char
  mark : Mark := {}
  deriving DecidableEq, Repr

namespace Cursor

/-- The place after one character that is no break. -/
def step (c : Char) (m : Mark) : Mark :=
  { m with index := m.index + c.utf8Size, column := m.column + 1 }

def nextLine (m : Mark) : Mark := ⟨m.index + 1, m.line + 1, 0⟩

/-- Moves over up to `n` characters of the line. -/
def skip (c : Cursor) (n : Nat) : Cursor :=
  ⟨c.rest.drop n, (c.rest.take n).foldl (fun m d => step d m) c.mark⟩

/-- Moves over the characters that satisfy `p`; none of them may be a break. -/
def skipWhile (p : Char → Bool) (c : Cursor) : Cursor := c.skip (c.rest.takeWhile p).length

/-- The break here, if there is one. -/
def breakText (c : Cursor) : List Char := (c.rest.take 1).filter isBreak

/-- Moves over a line break, if there is one. -/
def skipBreak (c : Cursor) : Cursor :=
  if c.breakText.isEmpty then c else ⟨c.rest.drop 1, nextLine c.mark⟩

def head? (c : Cursor) : Option Char := c.rest.head?

end Cursor

end TwinRun.Yaml
