import TwinRun.Script.Redirect
import TwinRun.Script.Signal
import TwinRun.System.Invocation

/-!
Scripts and processes.

The evaluator of commands is a parameter here, and so is what runs a program; both knots are tied
in the module that runs shells as programs. A command is run in a `Mode`: whether somebody looks
at its result, and whether it is the last thing that its shell has to do. In the second case a
program takes the place of the shell. Otherwise it is run by a child, which is a copy of the shell
and leaves nothing but what it did to the world.
-/

namespace TwinRun.Script

structure Mode where
  /-- Its result is looked at, so its failure ends nothing. -/
  tested : Bool := false
  /-- The shell has nothing to do after it. -/
  last : Bool := false
  deriving DecidableEq, Repr

/-- What other modules know. -/
structure Evaluator where
  run : Mode → Command → Sh Nat
  /-- Runs a program as a process, to its end. -/
  perform : Call → Process → Sh ExitStatus

section

variable (ev : Evaluator)

/-! ### Scripts -/

def isNothing : Command → Bool
  | .nothing => true
  | _ => false

/-- Runs a script, line by line. A script in a file can be left like a function. -/
def runScript (isFile : Bool) (mode : Mode) (script : Letters) : Sh Nat := do
  let start : Reader := { segments := [{ rest := script }] }
  let (_, status) ← repeatFrom (fun (r, status) => do
    let s ← get
    let r : Reader := { r with aliases := s.aliases, texts := [], nextText := s.nextText }
    match Parser.next r with
    | .error e r =>
        set { s with texts := r.texts ++ s.texts, nextText := r.nextText, line := e.line }
        fail e.message
    | .ok none r => return (false, (r, status))
    | .ok (some c) r =>
        set { s with texts := r.texts ++ s.texts, nextText := r.nextText }
        let n ← ev.run { mode with last := mode.last && Parser.atEnd r } c
        let status := if isNothing c then status else n
        match (← get).skip with
        | none => return (true, (r, status))
        | some (.back _) =>
            if isFile then modify fun s => { s with skip := none }
            return (false, (r, status))
        | some _ => return (false, (r, status))) (script.length + 2) (start, 0)
  return status

/-- Does what is to be done on signals that have come. -/
def runTraps : Sh Unit := do
  let s ← get
  if s.caught.isEmpty then return
  let saved := s.savedStatus
  let status := saved.getD s.status
  set { s with savedStatus := some status, caught := [] }
  for n in s.caught.mergeSort (· ≤ ·) do
    let s ← get
    match s.skip, s.traps.lookup n with
    | some _, _ => modify fun s => { s with caught := n :: s.caught }
    | none, some action =>
        if !action.isEmpty then
          let _ ← runScript ev false {} action
          if (← get).skip ≠ some (.back true) then setStatus status
    | none, none => pure ()
  modify fun s => { s with savedStatus := saved }

/-! ### Processes -/

/-- Whether anything is to be done on a signal. -/
def hasTraps (s : Core) : Bool := s.traps.any fun t => !t.2.isEmpty

/-- Sets what counts at the end of a shell. -/
def settle (f : Flow) : Sh Unit :=
  modify fun s => { s with
    status := match s.savedStatus with
      | some n => if f = .exiting ∨ s.skip = some (.back false) then n else s.status
      | none => s.status
    savedStatus := none
    skip := none
    loops := 0 }

/-- Runs something and tells how it was left. -/
def caught (work : Sh Unit) : Sh Flow := tryCatch (do work; return .finished) fun f => return f

/-- Does what is to be done at the end of a shell that was left in some way. -/
def finish (left : Flow) : Sh ExitStatus := do
  match left with
  | .gone status => return status
  | f =>
      settle f
      let s ← get
      match s.traps.lookup 0 with
      | none => return .ofCode s.status
      | some action =>
          set { s with traps := s.traps.filter (·.1 ≠ 0), savedStatus := some s.status }
          match ← caught do let _ ← runScript ev false {} action with
          | .gone status => return status
          | .failed =>
              modify fun s => { s with skip := none }
              settle .failed
          | .exiting => settle .exiting
          | .finished =>
              modify fun s => { s with skip := some (.back false) }
              settle .finished
          return .ofCode (← get).status

/-- Runs work in the background that nobody has waited for, each to its end as `ending` says. -/
def runJobsWith (ending : Sh Unit → Sh ExitStatus) : (most : Nat) → Sh Unit
  | 0 => return
  | most + 1 => do
      let s ← get
      match s.jobs.find? (·.work.isSome) with
      | some { number, work := some (core, c), .. } =>
          set ({ toCore := core, kernel := s.kernel } : Shell)
          let status ← ending do
            heed
            let _ ← ev.run { last := true } c
          let kernel := (← get).kernel
          let ended (j : Job) : Job := if j.number = number then { j with work := none, status } else j
          set { s with kernel, jobs := s.jobs.map ended }
          runJobsWith ending most
      | _ => return

/-- More processes than are ever in the background. -/
def maxJobs : Nat := 10000

/-- Runs a shell to its end, and then what it has left in the background. -/
def endingWithin : (depth : Nat) → Sh Unit → Sh ExitStatus
  | 0, _ => throw overrun
  | depth + 1, work => do
      let status ← finish ev (← caught work)
      runJobsWith ev (endingWithin depth) maxJobs
      return status

/-- How deep work in the background may stand in other such work. -/
def maxDepth : Nat := 200

/-- Runs a shell to its end. -/
def ending : Sh Unit → Sh ExitStatus := endingWithin ev maxDepth

/-- Runs what is left in the background. -/
def runJobs : Sh Unit := runJobsWith ev (ending ev) maxJobs

/-- A child: what of a shell it starts with. -/
def childOf (s : Core) (number : Nat) : Core :=
  { s with
    process := { s.process with number, elders := s.process.number :: s.process.elders }
    traps := s.traps.filter (·.2.isEmpty)
    caught := []
    said := [] }

/-- The signal that tells of the end of a child. -/
def childSignal : Nat := 17

/-- Takes the signals that have come while a child was at work, and its end. -/
def afterChild : Sh Unit := do
  modify fun s =>
    if (s.traps.lookup childSignal).any (!·.isEmpty) then
      { s with caught := childSignal :: s.caught.filter (· ≠ childSignal) }
    else s
  heed

/-- Runs something in a child, and goes on with the shell as it was. -/
def fork (change : Core → Core) (work : Sh Unit) : Sh ExitStatus := do
  let outer ← get
  let (kernel, number) := outer.kernel.addProcess
  set ({ toCore := change (childOf outer.toCore number), kernel } : Shell)
  let status ← ending ev work
  modify fun s => { outer with kernel := s.kernel.release outer.kernel.files.nextHandle [] }
  return status

/-- Says of a child that it was killed. -/
def announce (status : ExitStatus) : Sh Unit := do
  match status.signal? with
  | some n => if !isUntold n then let _ ← put stderr (obituary n ++ ['\n'])
  | none => return

/-- Takes notice of the end of a child. -/
def reap (status : ExitStatus) : Sh Nat := do
  announce status
  afterChild
  return codeOf status

/-- Lets descriptors of a child lead somewhere. -/
def connect (n : Nat) (c : Channel) (s : Core) : Core :=
  { s with process := { s.process with
    descriptors := (n, c) :: s.process.descriptors.filter (·.1 ≠ n) } }

def outputOf (c : Command) : Sh Letters := do
  if isNothing c then return []
  let s ← get
  let (kernel, pipe) := s.kernel.addPipe
  set { s with kernel }
  let status ← fork ev (connect stdout (.sink pipe)) do
    let _ ← ev.run { last := true } c
  let s ← get
  match s.kernel.read (.source pipe) none with
  | .ok (t, kernel) =>
      set { s with kernel := kernel.removePipe pipe }
      let n ← reap status
      modify fun s => { s with outputStatus := n }
      return t
  | .error _ => return []

/-- Starts work in the background. It reads nothing, unless told otherwise. -/
def startJob (c : Command) : Sh Unit := do
  let s ← get
  let (kernel, number) := s.kernel.addProcess
  let (files, h) := kernel.files.attach { target := .device .null, reads := true }
  let core := connect stdin (.file h) (childOf s.toCore number)
  set { s with
    kernel := { kernel with files }
    jobs := s.jobs ++ [({ number, work := some (core, c) } : Job)]
    lastJob := number }

/-! ### Programs -/

def searchPath (s : Core) : Letters := (s.value? searchName).getD []

/-- The path used where a standard one is asked for. -/
def standardPath : Letters := "/usr/local/sbin:/usr/local/bin:/usr/sbin:/usr/bin:/sbin:/bin".toList

/-- The paths at which a program may be. -/
def placesOf (path name : Letters) : List Letters :=
  if name.contains '/' then [name]
  else (Letters.splitOn ':' path).map fun d =>
    if d.isEmpty then name else if d.getLast? = some '/' then d ++ name else d ++ '/' :: name

/-- The call of a program at a path. A file that is no program is a script of the shell. -/
def callAt (s : Shell) (place name : Letters) (args : List Letters) : Except SystemError Call :=
  let args := args.map Letters.bytes
  let place : Path := ⟨Letters.bytes place⟩
  match Call.ofPath s.kernel.files s.process.directory Call.maxScripts place (Letters.bytes name) args with
  | .error .execFormat =>
      .ok { tool := "sh", name := Bytes.ofString "/bin/sh", args := place.bytes :: args }
  | r => r

/-- The call of a program by its name. Of several problems the last counts that is not just
that nothing is there. -/
def callOf (s : Shell) (path name : Letters) (args : List Letters) : Except SystemError Call :=
  let isAbsent (e : SystemError) : Bool := e = .notFound || e = .notDirectory
  go isAbsent .notFound (placesOf path name)
where
  go (isAbsent : SystemError → Bool) (e : SystemError) : List Letters → Except SystemError Call
    | [] => .error e
    | place :: places =>
        match callAt s place name args with
        | .ok c => .ok c
        | .error e' => go isAbsent (if isAbsent e' && !name.contains '/' then e else e') places

/-- The status for a program that could not be started. -/
def startStatus (e : SystemError) : Nat :=
  if [SystemError.notFound, .notDirectory, .linkLoop, .nameTooLong].contains e then 127 else 126

/-- Why a program could not be started, as the shell tells it. -/
def startReason (e : SystemError) : Letters :=
  if e = .notFound ∨ e = .notDirectory then "not found".toList else e.reason

def become {α : Type} (path : Letters) (name : Letters) (args : List Letters) : Sh α := do
  let s ← get
  match callOf s path name args with
  | .ok call =>
      let status ← ev.perform call { s.process with environment := s.environment }
      throw (.gone status)
  | .error e =>
      setStatus (startStatus e)
      warn (name ++ ": ".toList ++ startReason e)
      throw .finished

def runProgram (mode : Mode) (path : Letters) (name : Letters) (args : List Letters) : Sh Nat := do
  let s ← get
  if mode.last && !hasTraps s.toCore then become ev path name args
  -- what takes time lets work in the background be done
  if name = "sleep".toList then runJobs ev
  reap (← fork ev id (become ev path name args))

inductive Found where
  | function (body : Command)
  | builtin
  /-- A program at a path. -/
  | program (place : Letters)
  | nothing (e : SystemError)

def programOf (s : Shell) (path name : Letters) : Found :=
  let isAbsent (e : SystemError) : Bool := e = .notFound || e = .notDirectory
  go isAbsent .notFound (placesOf path name)
where
  go (isAbsent : SystemError → Bool) (e : SystemError) : List Letters → Found
    | [] => .nothing e
    | place :: places =>
        match s.kernel.files.find s.process.directory ⟨Letters.bytes place⟩ true with
        | .error e' => go isAbsent (if isAbsent e' then e else e') places
        | .ok (_, .tool _) | .ok (_, .file _ _ true) => .program place
        | .ok _ => go isAbsent .permissionDenied places

end

end TwinRun.Script
