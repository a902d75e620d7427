import TwinRun.Script.Parser
import TwinRun.Text.Integer
import TwinRun.Tool.Basic

/-!
A shell at work.

A shell is a process with variables, functions and options. What it shares with other processes
is the kernel; a subshell starts with a copy of everything else and leaves nothing of it behind.
Work in the background is kept until it is waited for.
-/

namespace TwinRun.Script

/-- A variable. It may be known without having a value. -/
structure Variable where
  value : Option Letters := none
  /-- Programs find it in their environment. -/
  exported : Bool := false
  /-- It keeps its value. -/
  locked : Bool := false
  deriving DecidableEq, Repr

/-- Why the commands that follow are passed over. -/
inductive Skip where
  /-- So many loops are left. -/
  | leave (loops : Nat)
  /-- So many loops are left, but the last goes on with its next round. -/
  | again (loops : Nat)
  /-- A function or a script is left, with a status of its own or with the one there is. -/
  | back (told : Bool)
  deriving DecidableEq, Repr

/-- What a shell has of its own. -/
structure Core where
  process : Process
  /-- The number of the shell that started the script. -/
  root : Nat
  /-- What it is called by. -/
  name : Letters
  /-- The command that messages name. -/
  command : Option Letters := none
  args : List Letters := []
  bindings : List (Letters × Variable) := []
  /-- What variables were before they became local, a list for each command at work. -/
  scopes : List (List (Letters × Option Variable)) := []
  functions : List (Letters × Command) := []
  aliases : List (Letters × Letters) := []
  /-- Texts that stand in scripts. -/
  texts : List (Nat × Word) := []
  nextText : Nat := 0
  /-- The letters of the options that are on. -/
  options : Letters := []
  /-- What is done on a signal; signal 0 is the end of the shell. -/
  traps : List (Nat × Letters) := []
  /-- Signals that have come and wait for their action. -/
  caught : List Nat := []
  /-- The line that messages name. -/
  line : Nat := 1
  /-- How many loops are at work. -/
  loops : Nat := 0
  skip : Option Skip := none
  /-- How the last command has ended. -/
  status : Nat := 0
  /-- The status to end with, if an exit is asked for without one. -/
  savedStatus : Option Nat := none
  /-- How the last substitution of a command has ended. -/
  outputStatus : Nat := 0
  /-- The last process in the background. -/
  lastJob : Nat := 0
  /-- Where reading of options goes on: the argument, and the place in it. -/
  optionPlace : Nat := 1
  optionOffset : Option Nat := none
  /-- The path of its directory, in the way it went there. -/
  here : Letters := []
  /-- Programs that have been looked for and found. -/
  known : List Letters := []
  /-- The permissions that new files do not get. -/
  mask : Nat := 18
  /-- What a command has said; it is delivered at its end. -/
  said : List Letters := []

structure Job where
  number : Nat
  /-- What it has still to do. -/
  work : Option (Core × Command)
  /-- How it has ended. -/
  status : ExitStatus := .ofCode 0

structure Shell extends Core where
  kernel : Kernel
  jobs : List Job := []

/-- How control leaves a command other than by its end. -/
inductive Flow where
  /-- An error has been told. -/
  | failed
  /-- The shell is to end with the status it has. -/
  | finished
  /-- An exit was asked for. -/
  | exiting
  /-- The process is gone. -/
  | gone (s : ExitStatus)
  deriving DecidableEq, Repr

abbrev Sh := EStateM Flow Shell

def stdin : Nat := 0

def stdout : Nat := 1

def stderr : Nat := 2

def setStatus (n : Nat) : Sh Unit := modify fun s => { s with status := n }

def hasOption (c : Char) : Sh Bool := do return (← get).options.contains c

/-- The end of a process that needs more than there is. -/
def overrun : Flow := .gone (.ofSignal 11)

/-! ### Writing -/

/-- Writes to a descriptor, and tells why that was refused. Where nobody reads, the shell is
killed. -/
def put (n : Nat) (t : Letters) : Sh (Option SystemError) := do
  let s ← get
  if t.isEmpty then return none
  match s.process.descriptors.lookup n with
  | none => return some .badDescriptor
  | some c =>
      match s.kernel.write c t with
      | .ok kernel => set { s with kernel }; return none
      | .error e =>
          if e = .brokenPipe ∧ s.traps.lookup Tool.pipeSignal = none then
            throw (.gone (.ofSignal Tool.pipeSignal))
          return some e

/-- The start of a message: who says it, in which line, in which command. -/
def origin (s : Shell) : Letters :=
  s.name ++ ": ".toList ++ Letters.ofNat s.line ++ ": ".toList ++
    match s.command with
    | some c => c ++ ": ".toList
    | none => []

def warn (message : Letters) : Sh Unit := do
  let _ ← put stderr (origin (← get) ++ message ++ ['\n'])

def deliver : Sh (Option SystemError) := do
  let s ← get
  if s.said.isEmpty then return none
  set { s with said := [] }
  put stdout s.said.reverse.flatten

/-- Says something, at the end of the command. -/
def say (t : Letters) : Sh Unit := modify fun s => { s with said := t :: s.said }

def fail {α : Type} (message : Letters) : Sh α := do
  setStatus 2
  warn message
  let _ ← deliver
  throw .failed

/-- Does something at the end, however the work ends. -/
def ensuring {α : Type} (work : Sh α) (atEnd : Sh Unit) : Sh α := do
  let a ← tryCatch work fun f => do
    atEnd
    throw f
  atEnd
  return a

/-! ### Numbers -/

/-- The number that an argument spells, which may not be negative. -/
def number (t : Letters) : Sh Nat := do
  let (n, rest) := Letters.leadingInteger 10 t
  if rest.all Letters.isSpace && rest.length < t.length && 0 ≤ n && n ≤ 2147483647 then return n.toNat
  fail ("Illegal number: ".toList ++ t)

/-! ### Variables -/

def separatorsName : Letters := "IFS".toList

def searchName : Letters := "PATH".toList

def placeName : Letters := "OPTIND".toList

def Core.lookup? (s : Core) (name : Letters) : Option Variable := s.bindings.lookup name

def Core.value? (s : Core) (name : Letters) : Option Letters := (s.lookup? name).bind (·.value)

/-- The letters that separate fields, unless others are set. -/
def defaultSeparators : Letters := [' ', '\t', '\n']

def Core.separators (s : Core) : Letters := (s.value? separatorsName).getD defaultSeparators

/-- Changes an entry of an association list, or removes it. -/
def revise {α : Type} (name : Letters) (a : Option α) (entries : List (Letters × α)) : List (Letters × α) :=
  match a with
  | none => entries.filter (·.1 ≠ name)
  | some a =>
      if entries.any (·.1 = name) then entries.map fun e => if e.1 = name then (name, a) else e
      else (name, a) :: entries

def putVariable (name : Letters) (v : Option Variable) : Sh Unit :=
  modify fun s => { s with bindings := revise name v s.bindings }

/-- What has to follow when a variable has got a value. -/
def afterChange (name : Letters) (value : Option Letters) : Sh Unit := do
  if name = placeName then
    let n ← match value with
      | some t => number t
      | none => pure 1
    modify fun s => { s with optionPlace := max 1 n, optionOffset := none }

def assign (name value : Letters) (exported : Bool := false) : Sh Unit := do
  let old := ((← get).lookup? name).getD {}
  if old.locked then fail (name ++ ": is read only".toList)
  let exported := exported || old.exported || (← hasOption 'a')
  putVariable name (some { old with value := some value, exported })
  afterChange name (some value)

/-- Gives a variable a value, if it has a name that variables may have. -/
def setVariable (name value : Letters) (exported : Bool := false) : Sh Unit := do
  if isName name then assign name value exported
  else fail (name ++ ": bad variable name".toList)

def unsetVariable (name : Letters) : Sh Unit := do
  match (← get).lookup? name with
  | none => return
  | some v =>
      if v.locked then fail (name ++ ": is read only".toList)
      putVariable name none
      afterChange name none

/-- The name and the value in a text of both. -/
def splitAssignment (t : Letters) : Letters × Option Letters := Letters.cut (· == '=') t

/-- Makes a variable local to the command at work, with a value if one is given. -/
def makeLocal (t : Letters) (exported : Bool) : Sh Unit := do
  let (name, value) := splitAssignment t
  if !isName name then fail (name ++ ": bad variable name".toList)
  let old := (← get).lookup? name
  modify fun s => { s with scopes := match s.scopes with
    | scope :: more => ((name, old) :: scope) :: more
    | [] => [] }
  match value with
  | some v => assign name v exported
  | none => if old.isNone then putVariable name (some { exported })

/-- Gives variables back what they were before the command. -/
def leaveScope : Sh Unit := do
  match (← get).scopes with
  | scope :: more =>
      modify fun s => { s with scopes := more }
      for (name, old) in scope do putVariable name old
  | [] => return

/-- The place of a variable in the table of a shell. -/
def tablePlace (name : Letters) : Nat :=
  ((name.map Char.toNat).foldl (· + ·) 0 + 16 * (name.head?.map Char.toNat).getD 0) % 39

/-- What programs find in their environment, in the order of the table. -/
def Core.environment (s : Core) : List (Letters × Letters) :=
  (s.bindings.reverse.filterMap fun (name, v) =>
    if v.exported then (s.value? name).map (name, ·) else none).mergeSort fun a b =>
      tablePlace a.1 ≤ tablePlace b.1

/-! ### Options -/

/-- The options: letter and name. -/
def optionNames : List (Char × String) := [
  ('e', "errexit"), ('f', "noglob"), ('I', "ignoreeof"), ('i', "interactive"), ('m', "monitor"),
  ('n', "noexec"), ('s', "stdin"), ('x', "xtrace"), ('v', "verbose"), ('V', "vi"), ('E', "emacs"),
  ('C', "noclobber"), ('a', "allexport"), ('b', "notify"), ('u', "nounset"), ('p', "privileged")]

/-- The options that are on, as a parameter shows them. -/
def Core.shownOptions (s : Core) : Letters :=
  (optionNames.reverse.map (·.1)).filter s.options.contains

def switch (c : Char) (on : Bool) : Sh Unit :=
  modify fun s =>
    let others := s.options.filter fun o => o != c && !(on && c == 'V' && o == 'E') && !(on && c == 'E' && o == 'V')
    { s with options := if on then c :: others else others }

def switchLetter (c : Char) (on : Bool) : Sh Unit := do
  if optionNames.any (·.1 == c) then switch c on
  else fail ("Illegal option -".toList ++ [c])

def switchNamed (name : Letters) (on : Bool) : Sh Unit := do
  match optionNames.find? (·.2.toList == name) with
  | some (c, _) => switch c on
  | none =>
      if ["nolog", "debug"].any (·.toList == name) then return
      fail ("Illegal option -o ".toList ++ name)

/-! ### Signals -/

/-- Signals that nobody has to mind. -/
def isHarmless (signal : Nat) : Bool := [0, 17, 18, 19, 20, 21, 22, 23, 28].contains signal

/-- Signals whose action cannot be changed. -/
def isFinal (signal : Nat) : Bool := [9, 19].contains signal

/-- Takes the signals that have been sent to the shell. -/
def heedSignals : (most : Nat) → Sh Unit
  | 0 => return
  | most + 1 => do
      let s ← get
      match s.kernel.takeSignal s.process.number with
      | none => return
      | some (n, kernel) =>
          set { s with kernel }
          match if isFinal n then none else s.traps.lookup n with
          | some [] => pure ()
          | some _ => modify fun s => { s with caught := n :: s.caught.filter (· ≠ n) }
          | none => if !isHarmless n then throw (.gone (.ofSignal n))
          heedSignals most

/-- More signals than are sent at one time. -/
def maxSignals : Nat := 1000

def heed : Sh Unit := heedSignals maxSignals

/-! ### Repetition -/

/-- Repeats a round as long as it says so, each with what the one before has left. -/
def repeatFrom {α : Type} (round : α → Sh (Bool × α)) : (most : Nat) → α → Sh α
  | 0, _ => throw overrun
  | most + 1, a => do
      let (more, a) ← round a
      if more then repeatFrom round most a else return a

/-- More rounds than any loop makes. -/
def maxRounds : Nat := 1000000000000

/-! ### Tools -/

/-- The exit code by which a shell knows how a process has ended. -/
def codeOf (s : ExitStatus) : Nat :=
  match s.code? with
  | some n => n
  | none => 128 + s.low

/-- Does work of a tool in the shell itself. -/
def asTool (name : Letters) (program : Tool.Program) (args : List Letters) : Sh Tool.Run := do
  let s ← get
  let r := Tool.perform program args { name, kernel := s.kernel, process := s.process }
  set { s with kernel := r.kernel }
  return r

end TwinRun.Script
