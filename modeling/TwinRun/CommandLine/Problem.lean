import TwinRun.CommandLine.Help
import TwinRun.CommandLine.Similar
import TwinRun.Text.Printable

/-!
Command lines that are not accepted, and requests for help that end the reading.
-/

namespace TwinRun.CommandLine

inductive NumberProblem where
  | empty
  | badDigit
  | tooLarge
  deriving DecidableEq, Repr

def NumberProblem.message : NumberProblem → String
  | empty => "cannot parse integer from empty string"
  | badDigit => "invalid digit found in string"
  | tooLarge => "number too large to fit in target type"

/-- Why the reading of a command line ends early. -/
inductive Problem where
  | help (long : Bool)
  | version
  /-- No flag has this name and nothing else is expected. `given` are the flags read so far. -/
  | unknown (argument : String) (similar : Option Flag) (given : List Flag)
  | missingValue (flag : Flag)
  /-- The value is none of the choices. -/
  | badChoice (flag : Flag) (value : String)
  | badNumber (flag : Flag) (value : String) (problem : NumberProblem)
  /-- A flag stands twice. -/
  | repeated (flag : Flag)
  /-- A switch has a value. -/
  | unexpectedValue (flag : Flag) (value : String) (given : List Flag)
  | notText
  deriving DecidableEq, Repr

namespace Problem

/-- The class of the problem, for tools. -/
def kind : Problem → String
  | help _ => "DisplayHelp"
  | version => "DisplayVersion"
  | unknown .. => "UnknownArgument"
  | missingValue _ | badChoice .. => "InvalidValue"
  | badNumber .. => "ValueValidation"
  | repeated _ => "ArgumentConflict"
  | unexpectedValue .. => "TooManyValues"
  | notText => "InvalidUtf8"

/-- The values to choose from, on a line of their own. -/
def choicesLine (f : Flag) : String :=
  if f.choices.isEmpty then "" else "\n  " ++ choicesNote f.choices

def tip (what text : String) : String :=
  "\n\n  tip: a similar " ++ what ++ " exists: '" ++ text ++ "'"

/-- The flags of a usage line after an unknown flag: those given and the one suggested. -/
def usedFlags (similar : Option Flag) (given : List Flag) : List Flag :=
  match similar with
  | some f => if f ∈ given then given else given ++ [f]
  | none => given

/-- The usage line after an unexpected value: the flag alone, or all settings where some were
given before. -/
def usageAt (f : Flag) (given : List Flag) : String :=
  if given.isEmpty then usageOf [f]
  else usageLine ((if f.isSetting then [] else [f.synopsis]) ++ [settingsPart])

/-- What a user has typed, in quotes and without control characters. -/
def quoted (typed : String) : String := "'" ++ Printable.text typed ++ "'"

/-- The problem in words, with what helps to solve it. -/
def explanation : Problem → String
  | help _ | version => ""
  | unknown argument similar given =>
      "unexpected argument " ++ quoted argument ++ " found"
        ++ (similar.map fun f => tip "argument" f.dashed).getD ""
        ++ "\n\n" ++ usageOf (usedFlags similar given)
  | missingValue f =>
      "a value is required for '" ++ f.synopsis ++ "' but none was supplied" ++ choicesLine f
  | badChoice f value =>
      "invalid value " ++ quoted value ++ " for '" ++ f.synopsis ++ "'" ++ choicesLine f
        ++ ((mostSimilar? value f.choices).map (tip "value")).getD ""
  | badNumber f value problem =>
      "invalid value " ++ quoted value ++ " for '" ++ f.synopsis ++ "': " ++ problem.message
  | repeated f =>
      "the argument '" ++ f.synopsis ++ "' cannot be used multiple times\n\n" ++ generalUsage
  | unexpectedValue f value given =>
      "unexpected value " ++ quoted value ++ " for '" ++ f.synopsis
        ++ "' found; no more were expected\n\n" ++ usageAt f given
  | notText => "invalid UTF-8 was detected in one or more arguments\n\n" ++ generalUsage

def message : Problem → String
  | help long => helpText long
  | version => versionText
  | p => "error: " ++ p.explanation ++ "\n\nFor more information, try '--help'.\n"

/-- Whether the user asked for this. -/
def isRequested : Problem → Bool
  | help _ | version => true
  | _ => false

end Problem

end TwinRun.CommandLine
