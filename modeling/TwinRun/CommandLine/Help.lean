import TwinRun.CommandLine.Flag

/-!
The texts that describe the command line.

The short help has a line for each flag, its description in a column of its own. The long
help gives each flag a paragraph.
-/

namespace TwinRun.CommandLine

def programName : String := "frontdiff"

def programVersion : String := "0.1.0"

/-- What `--version` shows. -/
def versionText : String := programName ++ " " ++ programVersion ++ "\n"

def about : String :=
  "Runs a candidate and a reference compiler front end over the same cases and diffs their output."

def generalUsage : String := "Usage: " ++ programName ++ " [OPTIONS]"

/-- A usage line with these parts behind the name of the program. -/
def usageLine (parts : List String) : String :=
  "Usage: " ++ " ".intercalate (programName :: parts)

def usageOf (flags : List Flag) : String :=
  if flags.isEmpty then generalUsage else usageLine (flags.map Flag.synopsis)

/-- All settings to choose from, as one part of a usage line. -/
def settingsPart : String :=
  "<" ++ "|".intercalate ((Flag.all.filter Flag.isSetting).map Flag.synopsis) ++ ">"

def Flag.description (long : Bool) : Flag → String
  | .config => "YAML configuration file (defaults to ./frontdiff.yaml when present)"
  | .mode => "Pipeline to exercise: the lexer alone, or the lexer piped into the parser"
  | .scratch => "Directory for captured output; emptied at the start of every run"
  | .skipBuild => "Do not run the build step before testing"
  | .context => "Lines of context around each change"
  | .filter => "Only run cases whose name contains this substring"
  | .failOnDiff => "Exit with status 1 when any case diverged"
  | .color => "When to color the report"
  | .verbose => "Log more on stderr (-v info, -vv debug). RUST_LOG takes precedence"
  | .help => if long then "Print help (see a summary with '-h')"
      else "Print help (see more with '--help')"
  | .version => "Print version"

/-- What the values of a flag mean, where that is explained. -/
def Flag.explainedChoices : Flag → List (String × String)
  | .mode => [(Mode.lexer.name, "Run only the lexer stage"),
      (Mode.parser.name, "Pipe the lexer stage into the parser stage")]
  | _ => []

/-- A text filled up with spaces. -/
def padTo (width : Nat) (s : String) : String :=
  s ++ String.ofList (List.replicate (width - s.length) ' ')

/-- A list of values to choose from, in brackets. -/
def choicesNote (choices : List String) : String :=
  "[possible values: " ++ ", ".intercalate choices ++ "]"

/-- What is said about the value of a flag: its default and its choices. -/
def Flag.notes (f : Flag) : List String :=
  (f.default?.map fun value => "[default: " ++ value ++ "]").toList ++
    if f.choices.isEmpty then [] else [choicesNote f.choices]

/-- A flag with its letter, or with room for one. -/
def Flag.entry (f : Flag) : String :=
  match f.short? with
  | some letter => "  -" ++ String.singleton letter ++ ", " ++ f.synopsis
  | none => "      " ++ f.synopsis

def descriptionColumn : Nat := (Flag.all.map fun f => f.entry.length).foldl max 0 + 2

def Flag.shortLine (f : Flag) : String :=
  padTo descriptionColumn f.entry ++ " ".intercalate (f.description false :: f.notes)

def margin : String := padTo 10 ""

/-- The choices of a flag, one a line, their explanations aligned. -/
def Flag.choiceLines (f : Flag) : List String :=
  let width := (f.explainedChoices.map fun c => c.1.length).foldl max 0
  if f.explainedChoices.isEmpty then []
  else ["", margin ++ "Possible values:"] ++ f.explainedChoices.map fun (name, meaning) =>
    margin ++ "- " ++ padTo (width + 2) (name ++ ":") ++ meaning

/-- The notes of a flag, set apart from its description by a blank line with margin. -/
def Flag.noteLines (f : Flag) : List String :=
  if f.explainedChoices.isEmpty ∧ ¬ f.notes.isEmpty then ("" :: f.notes).map (margin ++ ·) else []

def Flag.paragraph (f : Flag) : String :=
  "\n".intercalate
    ([f.entry, margin ++ f.description true] ++ f.noteLines ++ f.choiceLines)

/-- What `-h` shows, or `--help` if `long`. -/
def helpText (long : Bool) : String :=
  about ++ "\n\n" ++ generalUsage ++ "\n\nOptions:\n" ++
    (if long then "\n\n".intercalate (Flag.all.map Flag.paragraph)
      else "\n".intercalate (Flag.all.map Flag.shortLine)) ++ "\n"

end TwinRun.CommandLine
