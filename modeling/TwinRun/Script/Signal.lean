import TwinRun.Script.Arguments

/-!
Signals: their names, sending them, and what is done when they come.
-/

namespace TwinRun.Script

/-- Above every signal. -/
def signalBound : Nat := 65

/-- The first signal of those that have no meaning of their own. -/
def firstFree : Nat := 34

/-- The name of a signal; signal 0 is the end of the shell. -/
def signalName (n : Nat) : Letters :=
  if n = 0 then "EXIT".toList
  else match ExitStatus.signalNames[n - 1]? with
  | some name => name.toList.drop 3
  | none =>
      if n < firstFree then Letters.ofNat n
      else if n = firstFree then "RTMIN".toList
      else if n + 1 = signalBound then "RTMAX".toList
      else if n ≤ 49 then "RTMIN+".toList ++ Letters.ofNat (n - firstFree)
      else "RTMAX-".toList ++ Letters.ofNat (signalBound - 1 - n)

/-- The signal that a text names, by number or by name. -/
def signalOf? (least : Nat) (t : Letters) : Option Nat :=
  if !t.isEmpty && t.all Char.isDigit then
    let n := Letters.valueIn 10 t
    if n < signalBound then some n else none
  else
    let upper := t.map Char.toUpper
    (List.range signalBound).find? fun n => least ≤ n && signalName n = upper

/-- What is said of a process that was killed. -/
def obituary (signal : Nat) : Letters :=
  let texts := [
    "Hangup", "Interrupt", "Quit", "Illegal instruction", "Trace/breakpoint trap", "Aborted",
    "Bus error", "Floating point exception", "Killed", "User defined signal 1",
    "Segmentation fault", "User defined signal 2", "Broken pipe", "Alarm clock", "Terminated",
    "Stack fault", "Child exited", "Continued", "Stopped (signal)", "Stopped", "Stopped (tty input)",
    "Stopped (tty output)", "Urgent I/O condition", "CPU time limit exceeded",
    "File size limit exceeded", "Virtual timer expired", "Profiling timer expired",
    "Window changed", "I/O possible", "Power failure", "Bad system call"]
  match texts[signal - 1]? with
  | some t => t.toList
  | none => "Real-time signal ".toList ++ Letters.ofNat (signal - firstFree)

/-- Nothing is said of interrupts and of writers whom nobody reads. -/
def isUntold (signal : Nat) : Bool := signal = 2 || signal = Tool.pipeSignal

/-! ### Actions -/

def trapCommand (args : List Letters) : Sh Nat := do
  match ← operands args with
  | [] =>
      let s ← get
      for n in List.range signalBound do
        match s.traps.lookup n with
        | some t => sayLine ("trap -- ".toList ++ quote t ++ ' ' :: signalName n)
        | none => pure ()
      return 0
  | first :: rest =>
      let isSignal := rest.isEmpty || (first.all Char.isDigit && (signalOf? 0 first).isSome)
      let action := if isSignal || first = ['-'] then none else some first
      set' action (if isSignal then first :: rest else rest)
where
  set' (action : Option Letters) : List Letters → Sh Nat
    | [] => return 0
    | t :: ts => do
        match signalOf? 0 t with
        | none =>
            let _ ← put stderr ("trap: ".toList ++ t ++ ": bad trap\n".toList)
            return 1
        | some n =>
            modify fun s =>
              let others := s.traps.filter (·.1 ≠ n)
              { s with traps := match action with
                | some a => (n, a) :: others
                | none => others }
            set' action ts

/-! ### Sending -/

def killUsage : Letters :=
  "Usage: kill [-s sigspec | -signum | -sigspec] [pid | job]... or\nkill -l [exitstatus]".toList

/-- What the arguments in front of the processes ask for: a list, or a signal. -/
def killOptions (args : List Letters) : Sh (Bool × Option Nat × List Letters) := do
  match args with
  | ('-' :: t) :: rest =>
      match signalOf? 1 t with
      | some n => return (false, some n, rest)
      | none =>
          let (given, rest) ← options "l" "s" args
          let signal ← given.foldlM (fun (found : Option Nat) (c, t) => do
            if c ≠ 's' then return found
            match signalOf? 1 t with
            | some n => return some n
            | none => fail ("invalid signal number or name: ".toList ++ t)) none
          return (given.any (·.1 = 'l'), signal, rest)
  | args => return (false, none, args)

/-- Lists the names of signals, or of the one that a status tells. -/
def listSignals (args : List Letters) : Sh Nat := do
  match args with
  | [] =>
      sayLine ['0']
      for n in List.range signalBound do
        if n > 0 then sayLine (signalName n)
      return 0
  | t :: _ =>
      let n ← number t
      let n := if n > 128 then n - 128 else n
      if 0 < n && n < signalBound then sayLine (signalName n)
      else fail ("invalid signal number or exit status: ".toList ++ t)
      return 0

/-- Whether a process is there: the shell itself, one that waits for it, or one in the
background. -/
def isAlive (s : Shell) (number : Nat) : Bool :=
  number = s.process.number || s.process.elders.contains number ||
    s.jobs.any fun j => j.number = number && j.work.isSome

/-- The number of a process that a text names. -/
def processOf (t : Letters) : Sh (Option Nat) := do
  match t with
  | '%' :: t =>
      match (← get).jobs[(← number t) - 1]? with
      | some j => return some j.number
      | none => fail ("No such job: %".toList ++ t)
  | '-' :: t =>
      let _ ← number t
      return none
  | t => return some (← number t)

def killCommand (args : List Letters) : Sh Nat := do
  if args.isEmpty then fail killUsage
  let (lists, signal, rest) ← killOptions args
  if lists then
    if signal.isSome then fail killUsage
    return ← listSignals rest
  if rest.isEmpty then fail killUsage
  let signal := signal.getD 15
  let status ← rest.foldlM (fun status t => do
    let p ← processOf t
    let s ← get
    match p.filter (isAlive s) with
    | some p =>
        if signal ≠ 0 then set { s with kernel := s.kernel.send p signal }
        return status
    | none =>
        warn ("No such process\n".toList)
        return 1) 0
  heed
  return status

end TwinRun.Script
