import TwinRun.Tool.Format

/-!
How the shell prints: its own `echo` and `printf`.

Both resolve escapes in the same way. Messages come before all that the command prints, as its
output is delivered at the end.
-/

namespace TwinRun.Script

open Tool

/-- Writes a message in front of the output. -/
def sayFirst (message : Letters) : Tool.Job Unit := do
  tell ((← get).name ++ ": ".toList ++ message ++ ['\n'])

/-- Writes a message and ends the command. -/
def giveUp {α : Type} (message : Letters) : Tool.Job α := do
  sayFirst message
  Tool.stop 2

/-- Octal digits make a byte; of other letters some have a meaning, and the rest keep their
backslash. -/
def readEscape (t : Letters) : Escape :=
  let octal := Letters.digitsIn 8 (t.take 3)
  if !octal.isEmpty then .text [octalLetter octal] (t.drop octal.length)
  else match t with
  | c :: rest =>
      match namedEscape? c with
      | some d => .text [d] rest
      | none => .text ['\\'] t
  | [] => .text ['\\'] []

/-- In an argument a zero may stand in front of the digits, and the output can be ended. -/
def readArgumentEscape (t : Letters) : Escape :=
  match t with
  | 'c' :: _ => .stop
  | '0' :: d :: rest => readEscape (if (Decimal.digitValue? d).any (· < 8) then d :: rest else t)
  | t => readEscape t

def echo : Program := fun args => do
  let (newline, args) := match args with
    | ['-', 'n'] :: args => (false, args)
    | args => (true, args)
  let text := [' '].intercalate args
  let (text, ending) := resolveEscapes readArgumentEscape (text.length + 1) text
  emit (text ++ if newline && ending.isNone then ['\n'] else [])

def dialect : Dialect where
  precision := BinaryFraction.double
  formatEscape := readEscape
  argumentEscape := readArgumentEscape
  sizes := []
  flags := []
  permits _ c := c ≠ 'q'
  markIsNumber := true
  rangeFirst := false
  aboutLetter _ := pure ()
  complain t p := do
    sayFirst (t ++ match p with
      | .noNumber => ": expected numeric value".toList
      | .notOnlyNumber => ": not completely converted".toList
      | .outOfRange => ": Numerical result out of range".toList)
    endWith 1
  refuse written := giveUp (written ++ ": invalid directive".toList)
  refuseOpen _ := giveUp "missing format character".toList
  refuseEscape _ := pure ()

def printf : Program := fun args => do
  let args ← match args with
    | ['-', '-'] :: args => pure args
    | ('-' :: c :: _) :: _ => giveUp ("Illegal option -".toList ++ [c])
    | args => pure args
  match args with
  | [] => giveUp "usage: printf format [arg ...]".toList
  | format :: args => let _ ← printFormatted dialect format args

end TwinRun.Script
