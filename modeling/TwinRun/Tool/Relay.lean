import TwinRun.Text.BinaryFraction
import TwinRun.Tool.Basic

/-!
Tools that pass their input on to several files, or that only end.
-/

namespace TwinRun.Tool

/-! ### Several outputs -/

/-- An output: its name, and the channel that leads there. -/
abbrev Outlet := Letters × Channel

def openOutlet (access : Access) (path : Letters) : Job (Option Outlet) := do
  let r ← get
  match r.kernel.openPath r.process path access with
  | .ok (kernel, c) =>
      set { r with kernel }
      return some (path, c)
  | .error e =>
      complain (plainMessage path e) 1
      return none

/-- Writes a text to an output. One that refuses it is told. -/
def writeOutlet (t : Letters) (o : Outlet) : Job Unit := do
  let r ← get
  match r.kernel.write o.2 t with
  | .ok kernel => set { r with kernel }
  | .error e =>
      if e = .brokenPipe then throw (.ofSignal pipeSignal)
      complain (plainMessage o.1 e) 1

/-- Writes its input to standard output and to files. -/
def tee : Program := withSpec
    { flags := "aip", long := [⟨"append", 'a', none⟩, ⟨"ignore-interrupts", 'i', none⟩] } fun o => do
  let files ← o.operands.filterMapM (openOutlet (if o.has 'a' then .append else .write))
  let own := ((← get).process.descriptors.lookup stdout).map ("standard output".toList, ·)
  match ← readAll stdin with
  | .ok t => if !t.isEmpty then (own.toList ++ files).forM (writeOutlet t)
  | .error e => complain ("read error: ".toList ++ e.reason) 1

/-! ### No output -/

/-- Does nothing, successfully. -/
def succeed : Program := fun _ => pure ()

def failing : Program := fun _ => endWith 1

/-- Whether a text is a span of time. -/
def isInterval (t : Letters) : Bool :=
  let (x, rest) := BinaryFraction.read BinaryFraction.extended t
  rest ≠ t && !x.isNegative && x ≠ .undefined && [[], ['s'], ['m'], ['h'], ['d']].contains rest

/-- Waits, which takes no time here. -/
def sleep : Program := withSpec {} fun o => do
  if o.operands.isEmpty then misuse "missing operand".toList 1
  let wrong := o.operands.filter (!isInterval ·)
  for t in wrong do warn ("invalid time interval ".toList ++ quote t)
  if !wrong.isEmpty then tryHelp 1

end TwinRun.Tool
