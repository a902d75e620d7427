import TwinRun.Script.Evaluate
import TwinRun.System.World
import TwinRun.Tool.Catalogue

/-!
Programs as processes, the shell among them.

A shell starts with what its process has: the environment becomes its variables. Its arguments
say where its script is. Commands and programs run one another, to a limited depth; what goes
deeper ends as a process does that has used up its memory.
-/

namespace TwinRun.Script

/-! ### Starting a shell -/

/-- Variables that every shell has. A value given here yields to one from the environment. -/
def givenVariables : List (String × String) :=
  [("PATH", String.ofList standardPath), ("PS1", "# "), ("PS2", "> "), ("PS4", "+ ")]

def freshVariables : List (Letters × Letters) :=
  [(separatorsName, defaultSeparators), (placeName, ['1'])]

def startVariables (environment : List (Letters × Letters)) : List (Letters × Variable) :=
  let given := givenVariables.map fun (name, value) =>
    (name.toList, ({ value := some value.toList } : Variable))
  let taken := (environment.filter fun e => isName e.1).foldl (fun known (name, value) =>
    revise name (some ({ value := some value, exported := true } : Variable)) known) given.reverse
  freshVariables.foldl (fun known (name, value) =>
    revise name (some { ((known.lookup name).getD {}) with value := some value }) known) taken

/-- The way to the directory of a process. The one in its environment counts if it leads there. -/
def startHere (files : Files) (p : Process) : Letters :=
  match p.environment.lookup directoryName with
  | some path =>
      match files.find [] ⟨Letters.bytes path⟩ true with
      | .ok (l, .directory) =>
          if path.head? = some '/' ∧ l = p.directory then path else placePath p.directory
      | _ => placePath p.directory
  | none => placePath p.directory

def Core.start (files : Files) (p : Process) (name : Letters) : Core :=
  let here := startHere files p
  { process := p
    root := p.number
    name
    bindings := revise directoryName (some ({ value := some here, exported := true } : Variable))
      (startVariables p.environment)
    here
    line := 0 }

/-- Reads the options that a shell is started with. What comes back: whether the script is an
argument, and the arguments behind the options. -/
def startOptions : (fuel : Nat) → (isArgument : Bool) → List Letters → Sh (Bool × List Letters)
  | 0, isArgument, args => return (isArgument, args)
  | fuel + 1, isArgument, args => do
      match args with
      | ['-'] :: rest | ['-', '-'] :: rest => return (isArgument, rest)
      | (sign :: letters) :: rest =>
          if sign ≠ '-' ∧ sign ≠ '+' then return (isArgument, args)
          let own := letters.filter fun c => c != 'c' && c != 'l'
          let rest ← switchCluster (sign == '-') own rest
          startOptions fuel (isArgument || letters.contains 'c') rest
      | args => return (isArgument, args)

section

variable (ev : Evaluator)

/-- Runs the script that can be read from a channel. -/
def runFrom (c : Channel) : Sh Unit := do
  let s ← get
  match s.kernel.read c none with
  | .ok (script, kernel) =>
      set { s with kernel }
      let _ ← runScript ev true {} script
  | .error _ => return

def runArguments (args : List Letters) : Sh Unit := do
  let (isArgument, operands) ← startOptions (args.length + 1) false args
  match isArgument, operands with
  | true, [] => fail "-c requires an argument".toList
  | true, script :: rest =>
      modify fun s => { s with name := rest.headD s.name, args := rest.drop 1 }
      let _ ← runScript ev false {} script
  | false, [] =>
      switch 's' true
      fromInput []
  | false, file :: rest =>
      if ← hasOption 's' then fromInput operands
      else
        let c ← openFile file .read
        modify fun s => { s with name := file, args := rest }
        runFrom ev c
where
  fromInput (args : List Letters) : Sh Unit := do
    modify fun s => { s with args }
    match (← get).process.descriptors.lookup stdin with
    | some c => runFrom ev c
    | none => return

/-! ### Programs -/

/-- Does work of a tool in a process of its own. -/
def asProcess {α : Type} (call : Call) (p : Process) (work : Tool.Run → α × Tool.Run) : Sh (α × ExitStatus) := do
  let s ← get
  let (a, r) := work { name := Letters.ofBytes call.name, kernel := s.kernel, process := p }
  set { s with kernel := r.kernel }
  return (a, r.status)

def runShell (call : Call) (p : Process) : Sh ExitStatus := do
  let outer ← get
  let core := Core.start outer.kernel.files p (Letters.ofBytes call.name)
  set ({ toCore := core, kernel := outer.kernel } : Shell)
  let status ← ending ev (runArguments ev (call.args.map Letters.ofBytes))
  modify fun s => { outer with kernel := s.kernel }
  return status

/-- How the tool that starts programs tells that standard output was refused. -/
def launcher : Tool.Entry := .ending (fun _ => pure ()) 125

/-- Runs the tool that starts a program in another environment. -/
def runLauncher (call : Call) (p : Process) : Sh ExitStatus := do
  let (launch?, status) ← asProcess call p fun r =>
    let (found, r) := Tool.complete (Tool.Launch.plan (call.args.map Letters.ofBytes)) r
    (found.join, Tool.lament launcher r)
  match launch? with
  | none => return status
  | some l =>
      let p := { p with directory := l.directory, environment := l.environment }
      let path := (l.environment.lookup searchName).getD "/bin:/usr/bin".toList
      let s ← get
      match callOf { s with process := p } path l.program l.args with
      | .ok call => ev.perform call p
      | .error e =>
          let (_, status) ← asProcess call p fun r => ((), Tool.perform (fun _ => Tool.Launch.refuse l.program e) [] r)
          return status

/-- Runs a program to its end. -/
def performCall (call : Call) (p : Process) : Sh ExitStatus := do
  match call.tool with
  | "sh" => runShell ev call p
  | "env" => runLauncher ev call p
  | name =>
      match Tool.Entry.all.lookup name with
      | some entry =>
          let (_, status) ← asProcess call p fun r => ((), Tool.run entry (call.args.map Letters.ofBytes) r)
          return status
      | none => return .ofCode 127

end

/-! ### The knot -/

/-- Evaluation to a limited depth. -/
def evaluatorWithin : (depth : Nat) → Evaluator
  | 0 => { run := fun _ _ => throw overrun, perform := fun _ _ => throw overrun }
  | depth + 1 =>
      let inner := evaluatorWithin depth
      { run := evaluate inner, perform := performCall inner }

/-- How deep commands and programs may stand in one another. -/
def maxLevels : Nat := 3000

def evaluator : Evaluator := evaluatorWithin maxLevels

/-! ### Executing -/

/-- The process of a program that is started from outside. -/
def outerProcess (call : Invocation) (number input : Nat) : Process where
  number
  directory := call.directory
  descriptors := [(stdin, .source input), (stdout, call.out.elim (.stream .out) .file),
    (stderr, call.err.elim (.stream .err) .file)]
  environment := call.environment.map fun e => (Letters.ofBytes e.1, Letters.ofBytes e.2)

/-- What each call of a program does. -/
def execute : Executor := fun call files =>
  let (kernel, number) := ({ files } : Kernel).addProcess
  let (kernel, input) := kernel.addPipe
  let kernel := kernel.setPipe input { ready := Letters.ofBytes call.input }
  let p := outerProcess call number input
  let start : Shell := { toCore := Core.start files p [], kernel }
  let (status, kernel) := match evaluator.perform call.toCall p start with
    | .ok status s => (status, s.kernel)
    | .error (.gone status) s => (status, s.kernel)
    | .error _ s => (.ofCode s.status, s.kernel)
  { writes := kernel.shown.reverse.map fun (s, t) => (s, Letters.bytes t)
    files := (kernel.release files.nextHandle []).files
    status }

end TwinRun.Script
