import TwinRun.Tool.Regex.Basic

/-!
What a script of the stream editor is made of.

A script is a list of instructions, each for the lines that its addresses select. Blocks are kept
flat: an instruction opens one, a later one closes it.
-/

namespace TwinRun.Tool.Sed

/-- A pattern. Without an expression it is the one used last. -/
structure Pattern where
  regex : Option Regex
  manner : Regex.Manner := {}
  deriving DecidableEq, Repr

inductive Address where
  | line (number : Nat)
  | last
  | matching (p : Pattern)
  /-- From one line on, every so many lines. -/
  | every (first step : Nat)
  deriving DecidableEq, Repr

inductive RangeEnd where
  | at (a : Address)
  /-- A number of lines later. -/
  | after (more : Nat)
  /-- At the next line whose number is a multiple. -/
  | multiple (n : Nat)
  deriving DecidableEq, Repr

/-- The lines that an instruction is for. -/
inductive Selection where
  | all
  | one (a : Address)
  | range (start : Address) (stop : RangeEnd)
  deriving DecidableEq, Repr

/-- What is made of the letters of a replacement. -/
inductive Casing where
  | keep
  | upper
  | lower
  deriving DecidableEq, Repr

inductive Replacement where
  | text (t : Letters)
  /-- A group; the whole match is group zero. -/
  | group (number : Nat)
  /-- The case of all that follows. -/
  | casing (c : Casing)
  /-- The case of the next letter. -/
  | next (c : Casing)
  deriving DecidableEq, Repr

structure Substitution where
  pattern : Pattern
  replacement : List Replacement
  /-- The first match to replace. -/
  occurrence : Nat := 1
  /-- Also replace the later ones. -/
  global : Bool := false
  print : Bool := false
  /-- A file that the result is written to. -/
  file : Option Letters := none
  deriving DecidableEq, Repr

inductive Action where
  | print
  | printFirstLine
  | delete
  | deleteFirstLine
  | quit (print : Bool) (code : Nat)
  | substitute (s : Substitution)
  | translate (pairs : List (Char × Char))
  | append (text : Letters)
  | insert (text : Letters)
  | change (text : Letters)
  | next
  | joinNext
  | number
  | fileName
  /-- Shows the line with its hidden letters, in lines of some width. -/
  | display (width : Option Nat)
  | empty
  | hold
  | holdMore
  | get
  | getMore
  | exchange
  | readFile (name : Letters)
  | readLine (name : Letters)
  | writeLine (name : Letters)
  | writeFirstLine (name : Letters)
  | label (name : Letters)
  | jump (label : Letters)
  | jumpIfReplaced (label : Letters)
  | jumpUnlessReplaced (label : Letters)
  | open
  | close
  deriving DecidableEq, Repr

structure Instruction where
  selection : Selection
  negated : Bool
  action : Action
  deriving DecidableEq, Repr

namespace Action

def written? : Action → Option Letters
  | .substitute s => s.file
  | .writeLine name | .writeFirstLine name => some name
  | _ => none

def read? : Action → Option Letters
  | .readFile name | .readLine name => some name
  | _ => none

def target? : Action → Option Letters
  | .jump l | .jumpIfReplaced l | .jumpUnlessReplaced l => if l.isEmpty then none else some l
  | _ => none

end Action

end TwinRun.Tool.Sed
