import TwinRun.Stage
import TwinRun.System.Files

/-!
Calling programs.

A program named with a slash is a path; any other is looked for in the directories of the search
path. What is found is a program of the system, or a script, which names the program that runs it
in its first line.
-/

namespace TwinRun

/-- The two streams that a program writes to. -/
inductive Stream where
  | out
  | err
  deriving DecidableEq, Repr

/-- Which program is run, and on what. -/
structure Call where
  /-- The program of the system. -/
  tool : String
  /-- What it is called by. -/
  name : Bytes
  args : List Bytes
  deriving DecidableEq, Repr

structure Invocation extends Call where
  /-- The directory it runs in. -/
  directory : Location
  environment : List (Bytes × Bytes) := []
  /-- All it can read from standard input. -/
  input : Bytes := []
  /-- The files that the streams go into, where they go into files. -/
  out : Option Handle := none
  err : Option Handle := none
  deriving DecidableEq, Repr

namespace Call

/-! ### Scripts -/

def scriptMark : Bytes := Bytes.ofString "#!"

/-- How much of a file is looked at for its first line. -/
def headLength : Nat := 256

def isBlank (b : UInt8) : Bool := b == 32 || b == 9

def endsName (b : UInt8) : Bool := isBlank b || b == 0

/-- The first line of a script after the mark. Where the line does not end in the part looked
at, the name of the interpreter must at least end there; a file that is shorter goes on with
zeros. -/
def firstLine? (head : Bytes) : Option Bytes :=
  let rest := (head ++ List.replicate (headLength - head.length) 0).drop scriptMark.length
  if rest.contains Bytes.newline then some (rest.takeWhile (· ≠ Bytes.newline))
  else if (rest.dropWhile isBlank).any endsName then some rest.dropLast
  else none

/-- The interpreter of a script with its argument, if it has one. -/
def interpreter? (content : Bytes) : Option (Path × List Bytes) := do
  let head := content.take headLength
  if !scriptMark.isPrefixOf head then none
  let line := ((← firstLine? head).reverse.dropWhile isBlank).reverse.dropWhile isBlank
  if line.isEmpty then none
  let program := line.takeWhile fun b => !endsName b
  let rest := line.drop program.length
  return (⟨program⟩,
    if rest.head?.any isBlank then [(rest.dropWhile isBlank).takeWhile (· ≠ 0)] else [])

/-- How many scripts may interpret one another. -/
def maxScripts : Nat := 5

/-- How long an argument and all arguments together may not be. -/
def maxArgument : Nat := 131072

def maxArguments : Nat := 2097152

/-- Whether arguments can be handed to a program. -/
def fits (args : List Bytes) : Bool :=
  args.all (·.length + 1 ≤ maxArgument) && (args.map (·.length + 9)).foldl (· + ·) 0 < maxArguments

def runnable (fs : Files) (directory : Location) (program : Path) : Except SystemError FileNode := do
  match ← fs.find directory program true with
  | (_, .tool tool) => return .tool tool
  | (_, .file k content true) => return .file k content true
  | _ => throw .permissionDenied

/-- The call that running a path amounts to. A script is handed to its interpreter, after the
interpreter's argument. -/
def ofPath (fs : Files) (directory : Location) :
    (scripts : Nat) → (program : Path) → (name : Bytes) → (args : List Bytes) → Except SystemError Call
  | scripts, program, name, args => do
      let node ← runnable fs directory program
      if !fits args then throw .argumentsTooLong
      match node with
      | .tool tool => return { tool, name, args }
      | .file _ content _ =>
          match interpreter? content, scripts with
          | none, _ => throw .execFormat
          | some (interpreter, _), 0 =>
              let _ ← runnable fs directory interpreter
              throw .linkLoop
          | some (interpreter, arg), scripts + 1 =>
              ofPath fs directory scripts interpreter interpreter.bytes (arg ++ program.bytes :: args)
      | _ => throw .permissionDenied

/-! ### The search path -/

/-- Where programs are looked for that are named without a directory. -/
def searchPath : List Path := ["/usr/bin", "/bin"].map Path.ofString

/-- Looks for a program in several directories. One that may not be run is remembered. -/
def search (call : Path → Except SystemError Call) (program : Path) :
    (refused : Bool) → List Path → Except SystemError Call
  | refused, [] => .error (if refused then .permissionDenied else .notFound)
  | refused, dir :: dirs =>
      match call (dir.join program) with
      | .ok c => .ok c
      | .error e =>
          if e = .permissionDenied then search call program true dirs
          else if e = .notFound ∨ e = .notDirectory then search call program refused dirs
          else .error e

/-- The call that starting a stage amounts to. -/
def ofStage (fs : Files) (directory : Location) (stage : Stage) : Except SystemError Call :=
  let call program := ofPath fs directory maxScripts program stage.program.bytes stage.args
  if stage.program.bytes.any (· = Bytes.slash) then call stage.program
  else if stage.program.bytes.isEmpty then .error .notFound
  else if stage.program.bytes.length > Files.maxName then .error .nameTooLong
  else search call stage.program false searchPath

end Call

end TwinRun
