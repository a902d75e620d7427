import TwinRun.Script.Condition
import TwinRun.Script.Directory
import TwinRun.Script.Process
import TwinRun.Script.Read
import TwinRun.Script.Settings

/-!
Commands that the shell does itself.

Some of them are special: an error in one of these ends the shell, and assignments in front of one
stay. Arguments of some are assignments themselves and are not split.
-/

namespace TwinRun.Script

structure Builtin where
  special : Bool := false
  /-- Its arguments may be assignments. -/
  assigns : Bool := false
  /-- What it does with its arguments; its status comes back. -/
  body : Mode → List Letters → Sh Nat

/-! ### Control -/

/-- Leaves loops, or goes on with their next round. -/
def loopCommand (skip : Nat → Skip) (args : List Letters) : Sh Nat := do
  let n ← match args with
    | t :: _ => do
        let n ← number t
        if n = 0 then fail ("Illegal number: ".toList ++ t)
        pure n
    | [] => pure 1
  let n := min n (← get).loops
  if n > 0 then modify fun s => { s with skip := some (skip n) }
  return 0

def returnCommand (args : List Letters) : Sh Nat := do
  match args with
  | t :: _ =>
      let n ← number t
      modify fun s => { s with skip := some (.back true) }
      return n
  | [] =>
      modify fun s => { s with skip := some (.back false) }
      return (← get).status

def exitCommand (args : List Letters) : Sh Nat := do
  match args with
  | t :: _ =>
      let n ← number t
      modify fun s => { s with savedStatus := some n }
  | [] => pure ()
  throw .exiting

/-! ### Printing and conditions -/

/-- Does work of a tool whose messages are those of the shell. -/
def toolCommand (program : Tool.Program) (args : List Letters) : Sh Nat := do
  let s ← get
  let label := origin s
  let r ← asTool (label.take (label.length - 2)) program args
  match r.status.signal?, r.refusal with
  | some n, _ => if s.traps.lookup n = none then throw (.gone r.status) else return 1
  | none, some _ =>
      warn ((s.command.getD []) ++ ": I/O error".toList)
      return codeOf r.status ||| 1
  | none, none => return codeOf r.status

/-! ### Odds and ends -/

def timesCommand : List Letters → Sh Nat := fun _ => do
  for _ in [0, 1] do sayLine "0m0.000000s 0m0.000000s".toList
  return 0

/-- Limits are taken and forgotten. -/
def ulimitCommand (args : List Letters) : Sh Nat := do
  let (_, values) ← options "HSacdflmnprstv" "" args
  if values.isEmpty then sayLine "unlimited".toList
  return 0

def noJobCommand : List Letters → Sh Nat := fun _ => fail "No current job".toList

section

variable (ev : Evaluator)

/-! ### Scripts and programs -/

def evalCommand (mode : Mode) (args : List Letters) : Sh Nat :=
  if args.isEmpty then return 0
  else runScript ev false { tested := mode.tested } ([' '].intercalate args)

/-- The script of a name, which is looked for in the search path. -/
def scriptPath (name : Letters) : Sh Letters := do
  if name.contains '/' then return name
  let s ← get
  let isFile (place : Letters) : Bool :=
    match s.kernel.files.find s.process.directory ⟨Letters.bytes place⟩ true with
    | .ok (_, .file ..) | .ok (_, .tool _) => true
    | _ => false
  match (placesOf (searchPath s.toCore) name).find? isFile with
  | some place => return place
  | none => fail (name ++ ": not found".toList)

def dotCommand (args : List Letters) : Sh Nat := do
  match ← operands args with
  | [] => return 0
  | name :: _ =>
      let path ← scriptPath name
      let c ← openFile path .read
      let s ← get
      match s.kernel.read c none with
      | .ok (t, kernel) =>
          set { s with kernel, command := some path }
          runScript ev true {} t
      | .error _ => return 0

def execCommand (args : List Letters) : Sh Nat := do
  match ← operands args with
  | [] => return 0
  | name :: args => become ev (searchPath (← get).toCore) name args

/-- Runs what is in the background, or some of it, and tells how it has ended. -/
def waitCommand (args : List Letters) : Sh Nat := do
  match ← operands args with
  | [] =>
      runJobs ev
      afterChild
      return 0
  | names =>
      names.foldlM (fun _ t => do
        let p ← processOf t
        runJobs ev
        match (← get).jobs.find? fun j => some j.number = p with
        | some j =>
            announce j.status
            return codeOf j.status
        | none => return 127) 0

/-! ### Names -/

/-- Tells what a name stands for. -/
def describe (isBuiltin : Letters → Option Bool) (path : Option Letters) (verbose : Bool) (name : Letters) : Sh Nat := do
  let s ← get
  let told (brief : Letters) (long : String) : Sh Nat := do
    sayLine (if verbose then name ++ long.toList else brief)
    return 0
  if (Keyword.ofLetters? name).isSome then told name " is a shell keyword"
  else match s.aliases.lookup name with
  | some value =>
      sayLine (if verbose then name ++ " is an alias for ".toList ++ value
        else "alias ".toList ++ name ++ '=' :: quote value)
      return 0
  | none =>
      if (s.functions.lookup name).isSome then told name " is a shell function"
      else match isBuiltin name with
      | some true => told name " is a special shell builtin"
      | some false => told name " is a shell builtin"
      | none =>
          match programOf s (path.getD (searchPath s.toCore)) name with
          | .program place =>
              let known := path.isNone && s.known.contains name
              sayLine (if verbose
                then name ++ (if known then " is a tracked alias for " else " is ").toList ++ place else place)
              return 0
          | _ =>
              if verbose then sayLine (name ++ ": not found".toList)
              return 127

def typeCommand (isBuiltin : Letters → Option Bool) (args : List Letters) : Sh Nat :=
  args.foldlM (fun status name => do return status ||| (← describe isBuiltin none true name)) 0

def commandCommand (isBuiltin : Letters → Option Bool) (args : List Letters) : Sh Nat := do
  let (given, rest) ← options "pvV" "" args
  let path := if given.any (·.1 = 'p') then some standardPath else none
  match rest with
  | name :: _ =>
      if given.any (·.1 = 'V') then describe isBuiltin path true name
      else if given.any (·.1 = 'v') then describe isBuiltin path false name
      else return 0
  | [] => return 0

/-- Shows the programs that have been found, or looks for more of them. -/
def hashCommand (isBuiltin : Letters → Option Bool) (args : List Letters) : Sh Nat := do
  let (given, names) ← options "rv" "" args
  if given.any (·.1 = 'r') then
    modify fun s => { s with known := [] }
    return 0
  let s ← get
  if names.isEmpty then
    for name in s.known.reverse do
      match programOf s (searchPath s.toCore) name with
      | .program place => sayLine place
      | _ => pure ()
    return 0
  names.foldlM (fun status name => do
    match programOf s (searchPath s.toCore) name, isBuiltin name with
    | .nothing e, none =>
        warn (name ++ ": ".toList ++ startReason e)
        return 1
    | _, _ =>
        modify fun s => { s with known := name :: s.known }
        return status) 0

/-! ### The table -/

def builtins : List (String × Builtin) :=
  let plain (body : List Letters → Sh Nat) : Builtin := { body := fun _ => body }
  let special (body : List Letters → Sh Nat) : Builtin := { special := true, body := fun _ => body }
  let marking (body : List Letters → Sh Nat) : Builtin :=
    { special := true, assigns := true, body := fun _ => body }
  let simple : List (String × Builtin) := [
    (":", special fun _ => return 0), ("true", plain fun _ => return 0), ("false", plain fun _ => return 1),
    (".", special (dotCommand ev)), ("break", special (loopCommand .leave)),
    ("continue", special (loopCommand .again)), ("return", special returnCommand),
    ("exit", special exitCommand), ("eval", { special := true, body := evalCommand ev }),
    ("exec", special (execCommand ev)), ("export", marking exportCommand),
    ("readonly", marking readonlyCommand), ("local", marking localCommand), ("set", special setCommand),
    ("shift", special shiftCommand), ("unset", special unsetCommand), ("times", special timesCommand),
    ("trap", special trapCommand), ("alias", plain aliasCommand), ("unalias", plain unaliasCommand),
    ("cd", plain cdCommand), ("chdir", plain cdCommand), ("pwd", plain pwdCommand),
    ("read", plain readCommand), ("getopts", plain getoptsCommand), ("umask", plain umaskCommand),
    ("kill", plain killCommand), ("wait", plain (waitCommand ev)), ("jobs", plain fun _ => return 0),
    ("fg", plain noJobCommand), ("bg", plain noJobCommand), ("ulimit", plain ulimitCommand),
    ("echo", plain (toolCommand echo)), ("printf", plain (toolCommand printf)),
    ("test", plain (toolCommand test)), ("[", plain (toolCommand bracket))]
  let isBuiltin (name : Letters) : Option Bool :=
    match simple.lookup (String.ofList name) with
    | some b => some b.special
    | none => if ["command", "type", "hash"].contains (String.ofList name) then some false else none
  simple ++ [("command", plain (commandCommand isBuiltin)), ("type", plain (typeCommand isBuiltin)),
    ("hash", plain (hashCommand isBuiltin))]

end

end TwinRun.Script
