import TwinRun.Stage

/-!
The flags of the command line.
-/

namespace TwinRun.CommandLine

inductive ColourMode where
  | auto
  | always
  | never
  deriving DecidableEq, Repr

def ColourMode.all : List ColourMode := [.auto, .always, .never]

def ColourMode.name : ColourMode → String
  | .auto => "auto"
  | .always => "always"
  | .never => "never"

def ColourMode.ofName? (name : String) : Option ColourMode := all.find? (·.name == name)

inductive Flag where
  | config
  | mode
  | scratch
  | skipBuild
  | context
  | filter
  | failOnDiff
  | color
  | verbose
  | help
  | version
  deriving DecidableEq, Repr

namespace Flag

def all : List Flag :=
  [.config, .mode, .scratch, .skipBuild, .context, .filter, .failOnDiff, .color, .verbose,
    .help, .version]

def long : Flag → String
  | config => "config"
  | mode => "mode"
  | scratch => "scratch"
  | skipBuild => "skip-build"
  | context => "context"
  | filter => "filter"
  | failOnDiff => "fail-on-diff"
  | color => "color"
  | verbose => "verbose"
  | help => "help"
  | version => "version"

def short? : Flag → Option Char
  | config => some 'c'
  | mode => some 'm'
  | filter => some 'f'
  | verbose => some 'v'
  | help => some 'h'
  | version => some 'V'
  | scratch | skipBuild | context | failOnDiff | color => none

/-- What a flag's value is called; absent for a switch. -/
def valueName? : Flag → Option String
  | config => some "CONFIG"
  | mode => some "MODE"
  | scratch => some "SCRATCH"
  | context => some "CONTEXT"
  | filter => some "FILTER"
  | color => some "COLOR"
  | skipBuild | failOnDiff | verbose | help | version => none

def takesValue (f : Flag) : Bool := f.valueName?.isSome

/-- Whether the flag sets something, rather than asking for a text about the program. -/
def isSetting (f : Flag) : Bool := f ≠ help && f ≠ version

def choices : Flag → List String
  | mode => Mode.all.map Mode.name
  | color => ColourMode.all.map ColourMode.name
  | _ => []

def default? : Flag → Option String
  | color => some ColourMode.auto.name
  | _ => none

def ofLong? (name : String) : Option Flag := all.find? (·.long == name)

def ofShort? (letter : Char) : Option Flag := all.find? (·.short? == some letter)

def dashed (f : Flag) : String := "--" ++ f.long

/-- How the flag is written, with its value. Dots show that it may be repeated. -/
def synopsis (f : Flag) : String :=
  match f.valueName? with
  | some value => f.dashed ++ " <" ++ value ++ ">"
  | none => if f = verbose then f.dashed ++ "..." else f.dashed

end Flag

end TwinRun.CommandLine
