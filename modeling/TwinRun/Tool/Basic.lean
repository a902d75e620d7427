import TwinRun.System.Kernel
import TwinRun.Text.Quoted

/-!
What the programs of the simulated system work on.

A tool gets its arguments, reads its descriptors and the files, writes to its descriptors and
ends with a status. Every tool is a function of its arguments on a `Run`. Standard output is
collected and delivered when the tool says something else or ends.
-/

namespace TwinRun.Tool

structure Run where
  /-- What it is called by, for messages. -/
  name : Letters
  kernel : Kernel
  process : Process
  /-- Standard output that has not been delivered, the latest first. -/
  pending : List Letters := []
  /-- Why standard output has been refused. -/
  refusal : Option SystemError := none
  status : ExitStatus := .ofCode 0
  deriving DecidableEq, Repr

/-- Work of a tool, which may end early. -/
abbrev Job := EStateM ExitStatus Run

/-- A tool, waiting for its arguments. -/
abbrev Program := List Letters → Job Unit

def stdin : Nat := 0

def stdout : Nat := 1

def stderr : Nat := 2

/-- The signal for a writer whom nobody reads. -/
def pipeSignal : Nat := 13

/-! ### Output -/

/-- Writes to a descriptor, and tells why that was refused. Where nobody reads, the tool is
killed. -/
def writeTo (n : Nat) (t : Letters) : Job (Option SystemError) := do
  let r ← get
  match r.process.descriptors.lookup n with
  | none => return some .badDescriptor
  | some c =>
      match r.kernel.write c t with
      | .ok kernel => set { r with kernel }; return none
      | .error e =>
          if e = .brokenPipe then throw (.ofSignal pipeSignal)
          return some e

def flush : Job Unit := do
  let r ← get
  if !r.pending.isEmpty then
    set { r with pending := [] }
    match ← writeTo stdout r.pending.reverse.flatten with
    | none => pure ()
    | some e => modify fun r => { r with refusal := some (r.refusal.getD e) }

def emit (t : Letters) : Job Unit := do
  if t ≠ [] then modify fun r => { r with pending := t :: r.pending }

def emitLine (t : Letters) : Job Unit := emit (t ++ ['\n'])

def tell (t : Letters) : Job Unit := do
  let _ ← writeTo stderr t

def endWith (code : Nat) : Job Unit := modify fun r => { r with status := .ofCode code }

def stop {α : Type} (code : Nat) : Job α := throw (.ofCode code)

def warn (message : Letters) : Job Unit := do
  flush
  tell ((← get).name ++ ':' :: ' ' :: message ++ ['\n'])

/-- Writes a message; the tool will end with failure. -/
def complain (message : Letters) (code : Nat) : Job Unit := do
  warn message
  endWith code

def fail {α : Type} (message : Letters) (code : Nat) : Job α := do
  warn message
  stop code

/-- How a tool tells that it could not read an operand. -/
abbrev ReadMessage := Letters → SystemError → Letters

/-- The operand as it is, and the reason. -/
def bareMessage : ReadMessage := fun operand e => operand ++ ':' :: ' ' :: e.reason

/-- The operand, in quotation marks where it needs them, and the reason. -/
def plainMessage : ReadMessage := fun operand e => bareMessage (Letters.shownName operand) e

def quote (t : Letters) : Letters := Letters.quoted t

def quoteName (t : Letters) : Letters := Letters.quotedName t

/-- Tells that a file could not be opened. -/
def openMessage (start : String) : ReadMessage := fun operand e =>
  start.toList ++ ' ' :: quoteName operand ++ " for reading: ".toList ++ e.reason

/-- Refers to the help of the tool, and ends. -/
def tryHelp {α : Type} (code : Nat) : Job α := do
  tell ("Try '".toList ++ (← get).name ++ " --help' for more information.\n".toList)
  stop code

/-- Complains about how it is called, and ends. -/
def misuse {α : Type} (message : Letters) (code : Nat) : Job α := do
  warn message
  tryHelp code

/-! ### Input -/

/-- Reads all that is left behind a descriptor. -/
def readAll (n : Nat) : Job (Except SystemError Letters) := do
  flush
  let r ← get
  match r.process.descriptors.lookup n with
  | none => return .error .badDescriptor
  | some c =>
      match r.kernel.read c none with
      | .ok (t, kernel) => set { r with kernel }; return .ok t
      | .error e => return .error e

/-- Leaves some of standard input to the next reader, where that is possible. -/
def leaveInput (rest : Letters) : Job Unit :=
  modify fun r =>
    match r.process.descriptors.lookup stdin with
    | some c => { r with kernel := r.kernel.giveBack c rest.length }
    | none => r

def inputIsFile : Job Bool := do
  let r ← get
  match r.process.descriptors.lookup stdin with
  | some (.file h) =>
      match r.kernel.files.opened.lookup h with
      | some { target := .file _, .. } => return true
      | _ => return false
  | _ => return false

def pathOf (t : Letters) : Path := ⟨Letters.bytes t⟩

def look {α : Type} (f : Files → Location → Except SystemError α) : Job (Except SystemError α) := do
  let r ← get
  return f r.kernel.files r.process.directory

def change (f : Files → Location → Except SystemError Files) : Job (Except SystemError Unit) := do
  let r ← get
  match f r.kernel.files r.process.directory with
  | .ok files => set { r with kernel := { r.kernel with files } }; return .ok ()
  | .error e => return .error e

def readFile (path : Letters) : Job (Except SystemError Letters) := do
  flush
  let r ← get
  match r.kernel.contentOf r.process path with
  | .ok (t, kernel) => set { r with kernel }; return .ok t
  | .error e => return .error e

/-- What an operand stands for: a file, or standard input. Nothing after a complaint. -/
def contentOf (message : ReadMessage) (operand : Letters) (code : Nat := 1) : Job (Option Letters) := do
  match ← if operand = ['-'] then readAll stdin else readFile operand with
  | .ok content => return some content
  | .error e =>
      complain (message operand e) code
      return none

/-- Standard input, where there are no operands. -/
def orInput (operands : List Letters) : List Letters :=
  if operands.isEmpty then [['-']] else operands

/-- What all operands stand for, one after the other. -/
def contentsOf (message : ReadMessage) (operands : List Letters) (code : Nat := 1) : Job Letters := do
  return (← (orInput operands).filterMapM (contentOf message · code)).flatten

/-! ### Options -/

/-- A long option: its name, the letter it stands for, and whether a value belongs to it. -/
structure LongOption where
  name : String
  letter : Char
  /-- Nothing: no value. Otherwise whether there must be one. -/
  value : Option Bool := none
  deriving DecidableEq, Repr

structure OptionSpec where
  /-- Letters without a value. -/
  flags : String := ""
  /-- Letters with a value. -/
  valued : String := ""
  long : List LongOption := []
  /-- Whether options end at the first operand. -/
  ordered : Bool := false
  /-- Whether options end at a number with a sign. -/
  numbers : Bool := false
  /-- How the tool ends on a wrong option. -/
  code : Nat := 1
  deriving Repr

/-- Options with their values and what else there is among the arguments. -/
structure Options where
  given : List (Char × Letters) := []
  operands : List Letters := []
  deriving DecidableEq, Repr

namespace Options

def has (o : Options) (c : Char) : Bool := o.given.any (·.1 == c)

def value? (o : Options) (c : Char) : Option Letters :=
  (o.given.reverse.find? (·.1 == c)).map (·.2)

def values (o : Options) (c : Char) : List Letters :=
  (o.given.filter (·.1 == c)).map (·.2)

def last? (o : Options) (cs : List Char) : Option Char :=
  (o.given.reverse.find? fun g => cs.contains g.1).map (·.1)

end Options

inductive OptionProblem where
  | unknownLetter (c : Char)
  | missingValue (c : Char)
  | unknownName (t : Letters)
  | ambiguousName (t : Letters) (possible : List String)
  | missingNamedValue (name : String)
  | unwantedValue (name : String)
  deriving DecidableEq, Repr

namespace OptionProblem

/-- A text between apostrophes, as it is. -/
def between (t : Letters) : Letters := '\'' :: t ++ ['\'']

def message : OptionProblem → Letters
  | .unknownLetter c => "invalid option -- ".toList ++ between [c]
  | .missingValue c => "option requires an argument -- ".toList ++ between [c]
  | .unknownName t => "unrecognized option ".toList ++ between ("--".toList ++ t)
  | .ambiguousName t possible =>
      "option ".toList ++ between ("--".toList ++ t) ++ " is ambiguous; possibilities:".toList ++
        possible.flatMap fun name => ' ' :: between ("--".toList ++ name.toList)
  | .missingNamedValue name =>
      "option ".toList ++ between ("--".toList ++ name.toList) ++ " requires an argument".toList
  | .unwantedValue name =>
      "option ".toList ++ between ("--".toList ++ name.toList) ++ " doesn't allow an argument".toList

end OptionProblem

namespace OptionSpec

/-- Reads one argument of options. The flag says whether a value is to follow. -/
def readCluster (spec : OptionSpec) : Letters → Except OptionProblem (List (Char × Letters) × Option Char)
  | [] => .ok ([], none)
  | c :: rest =>
      if spec.valued.toList.contains c then
        if rest = [] then .ok ([], some c) else .ok ([(c, rest)], none)
      else if spec.flags.toList.contains c then do
        let (more, wanting) ← readCluster spec rest
        return ((c, []) :: more, wanting)
      else .error (.unknownLetter c)

/-- The long option of a name, which may be shortened. `text` is how it is given. -/
def named (spec : OptionSpec) (name text : Letters) : Except OptionProblem LongOption :=
  match spec.long.find? fun l => l.name.toList == name with
  | some l => .ok l
  | none =>
      match spec.long.filter fun l => name.isPrefixOf l.name.toList with
      | [] => .error (.unknownName text)
      | l :: others =>
          if others.all fun l' => l'.letter = l.letter && l'.value = l.value then .ok l
          else .error (.ambiguousName text ((l :: others).map (·.name)))

/-- Reads a long option. Its value may be the next argument; the flag tells whether it is. -/
def readNamed (spec : OptionSpec) (text : Letters) (next : Option Letters) :
    Except OptionProblem ((Char × Letters) × Bool) := do
  let (name, value?) := Letters.cut (· == '=') text
  let l ← spec.named name text
  match l.value, value?, next with
  | none, some _, _ => throw (.unwantedValue l.name)
  | none, none, _ | some false, none, _ => return ((l.letter, []), false)
  | some _, some value, _ => return ((l.letter, value), false)
  | some true, none, some value => return ((l.letter, value), true)
  | some true, none, none => throw (.missingNamedValue l.name)

/-- Reads options, up to a double dash. -/
def read (spec : OptionSpec) : List Letters → Except OptionProblem Options
  | [] => .ok {}
  | ['-', '-'] :: rest => .ok { operands := rest }
  | ('-' :: '-' :: text) :: rest => do
      let (option, usesNext) ← spec.readNamed text rest.head?
      match usesNext, rest with
      | true, _ :: rest =>
          let o ← read spec rest
          return { o with given := option :: o.given }
      | _, rest =>
          let o ← read spec rest
          return { o with given := option :: o.given }
  | ('-' :: c :: cluster) :: rest =>
      if spec.numbers && (c.isDigit || c == '.') then .ok { operands := ('-' :: c :: cluster) :: rest }
      else do
        let (given, wanting) ← spec.readCluster (c :: cluster)
        match wanting, rest with
        | none, rest =>
            let o ← read spec rest
            return { o with given := given ++ o.given }
        | some w, value :: rest =>
            let o ← read spec rest
            return { o with given := given ++ (w, value) :: o.given }
        | some w, [] => throw (.missingValue w)
  | operand :: rest =>
      if spec.ordered then .ok { operands := operand :: rest }
      else do
        let o ← read spec rest
        return { o with operands := operand :: o.operands }

end OptionSpec

def withSpec (spec : OptionSpec) (body : Options → Job Unit) : Program := fun args => do
  match spec.read args with
  | .ok o => body o
  | .error p => misuse p.message spec.code

/-- A tool with options: single-letter flags and options with a value. -/
def withOptions (flags valued : String) (body : Options → Job Unit) : Program :=
  withSpec { flags, valued } body

/-! ### Running -/

/-- Does work of a tool, and delivers what it has written. What the work finds comes back, unless
it ends the tool. -/
def complete {α : Type} (work : Job α) (r : Run) : Option α × Run :=
  let whole : Job (Option α) := do
    let found ← tryCatch (some <$> work) fun status => do
      modify fun r => { r with status }
      return none
    flush
    return found
  match whole r with
  | .ok found r => (found, r)
  | .error status r => (none, { r with status })

def perform (program : Program) (args : List Letters) (r : Run) : Run := (complete (program args) r).2

end TwinRun.Tool
