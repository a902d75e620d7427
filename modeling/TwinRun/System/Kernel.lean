import TwinRun.ExitStatus
import TwinRun.System.Invocation
import TwinRun.Text.Letters

/-!
What processes share, and what each has of its own.

A process reads and writes through descriptors. A descriptor leads to an open file, to an end of
a pipe, or out of the system by one of the two streams of the program as a whole. Processes run
one after the other, so a pipe holds all that its writer has written before its reader starts.
-/

namespace TwinRun

inductive Channel where
  | file (h : Handle)
  /-- The end of a pipe that is read. -/
  | source (pipe : Nat)
  /-- The end of a pipe that is written. -/
  | sink (pipe : Nat)
  | stream (s : Stream)
  deriving DecidableEq, Repr

structure Pipe where
  ready : Letters := []
  /-- What has come after that, the latest first. -/
  more : List Letters := []
  /-- How much has been written in all, and how often. -/
  size : Nat := 0
  writes : Nat := 0
  deriving DecidableEq, Repr

structure Kernel where
  files : Files
  pipes : List (Nat × Pipe) := []
  nextPipe : Nat := 0
  /-- What has left by the streams, the latest first. -/
  shown : List (Stream × Letters) := []
  /-- Above the number of every process so far. -/
  nextProcess : Nat := 4321
  /-- Signals that have been sent to processes and not been taken. -/
  signals : List (Nat × Nat) := []
  deriving DecidableEq, Repr

structure Process where
  number : Nat
  /-- The processes that wait for its end, the nearest first. -/
  elders : List Nat := []
  directory : Location
  descriptors : List (Nat × Channel)
  environment : List (Letters × Letters) := []
  deriving DecidableEq, Repr

namespace SystemError

/-- The reason alone, as programs tell it. -/
def reason : SystemError → Letters
  | .errno code => Letters.ofString (describe code)
  | e => Letters.ofString e.message

end SystemError

/-- What a file is opened for. -/
inductive Access where
  | read
  /-- Emptied or newly made. -/
  | write
  | append
  /-- Read and written, made if it is not there. -/
  | update
  /-- Newly made. -/
  | fresh
  /-- Written as it is. -/
  | overwrite
  deriving DecidableEq, Repr

namespace Access

def reads : Access → Bool
  | .read | .update => true
  | _ => false

def writes : Access → Bool
  | .read => false
  | _ => true

def creates : Access → Bool
  | .read | .overwrite => false
  | _ => true

end Access

namespace Kernel

/-! ### Pipes -/

def addPipe (k : Kernel) : Kernel × Nat :=
  ({ k with pipes := (k.nextPipe, {}) :: k.pipes, nextPipe := k.nextPipe + 1 }, k.nextPipe)

def setPipe (k : Kernel) (n : Nat) (p : Pipe) : Kernel :=
  { k with pipes := (n, p) :: k.pipes.filter (·.1 ≠ n) }

def removePipe (k : Kernel) (n : Nat) : Kernel := { k with pipes := k.pipes.filter (·.1 ≠ n) }

/-- How much goes into a pipe, and how often, until nobody can be expected to read it. -/
def maxPipe : Nat := 2000000

def maxPipeWrites : Nat := 100000

/-! ### Reading and writing -/

def write (k : Kernel) (c : Channel) (t : Letters) : Except SystemError Kernel :=
  match c with
  | .file h => do return { k with files := ← k.files.write h (Letters.bytes t) }
  | .source _ => .error .badDescriptor
  | .sink n =>
      match k.pipes.lookup n with
      | none => .error .brokenPipe
      | some p =>
          if p.size > maxPipe ∨ p.writes > maxPipeWrites then .error .brokenPipe
          else .ok (k.setPipe n
            { p with more := t :: p.more, size := p.size + t.length, writes := p.writes + 1 })
  | .stream s => .ok { k with shown := (s, t) :: k.shown }

/-- Reads from a channel, at most so many bytes, or all there are. -/
def read (k : Kernel) (c : Channel) (most : Option Nat) : Except SystemError (Letters × Kernel) :=
  match c with
  | .file h => do
      let (b, files) ← k.files.readOn h most
      return (Letters.ofBytes b, { k with files })
  | .source n =>
      match k.pipes.lookup n with
      | none => .ok ([], k)
      | some p =>
          let all := if p.more.isEmpty then p.ready else p.ready ++ p.more.reverse.flatten
          match most with
          | none => .ok (all, k.setPipe n { p with ready := [], more := [] })
          | some m => .ok (all.take m, k.setPipe n { p with ready := all.drop m, more := [] })
  | .sink _ | .stream _ => .error .badDescriptor

/-- How many of these bytes are a line with its end. -/
def lineLength {α : Type} (isEnd : α → Bool) (t : List α) : Nat := (t.takeWhile (!isEnd ·)).length + 1

/-- Takes one line from a channel, with its end if it has one. -/
def readLine (k : Kernel) (c : Channel) : Except SystemError (Letters × Kernel) :=
  match c with
  | .source n =>
      match k.pipes.lookup n with
      | none => .ok ([], k)
      | some p =>
          let all := if p.more.isEmpty then p.ready else p.ready ++ p.more.reverse.flatten
          let m := lineLength (· == '\n') all
          .ok (all.take m, k.setPipe n { p with ready := all.drop m, more := [] })
  | .file h =>
      match k.files.opened.lookup h with
      | some { target := .file i, place, .. } =>
          let rest := ((k.files.content? i).getD []).drop place
          k.read c (some (lineLength (· == Bytes.newline) rest))
      | _ => k.read c none
  | c => k.read c none

/-- Gives back to a file what has been read too much of it. Pipes keep nothing. -/
def giveBack (k : Kernel) (c : Channel) (n : Nat) : Kernel :=
  match c with
  | .file h =>
      match k.files.opened.lookup h with
      | some o => { k with files := k.files.moveTo h (o.place - n) }
      | none => k
  | _ => k

/-! ### Opening -/

/-- Opens what a descriptor leads to once more. -/
def reopen (k : Kernel) (c : Channel) (access : Access) : Except SystemError (Kernel × Channel) :=
  match c with
  | .file h =>
      match k.files.opened.lookup h with
      | some o =>
          let files := match o.target, access with
            | .file i, .write => k.files.modify i fun _ => []
            | _, _ => k.files
          let (files, h) := files.attach
            { target := o.target, reads := access.reads, writes := access.writes
              appends := access = .append }
          .ok ({ k with files }, .file h)
      | none => .error .noDevice
  | .source n | .sink n => .ok (k, if access.reads then .source n else .sink n)
  | .stream s => if access.reads then .error .noDevice else .ok (k, .stream s)

def openPath (k : Kernel) (p : Process) (path : Letters) (access : Access) :
    Except SystemError (Kernel × Channel) := do
  let path : Path := ⟨Letters.bytes path⟩
  let attach (files : Files) (target : Target) : Kernel × Channel :=
    let (files, h) := files.attach
      { target, reads := access.reads, writes := access.writes, appends := access = .append }
    ({ k with files }, .file h)
  if access.creates ∧ path.endsInSlash then
    match ← k.files.resolve p.directory path true with
    | .found _ .directory => throw (if access = .fresh then .alreadyExists else .isDirectory)
    | .found _ _ => throw .notDirectory
    | .free _ _ => throw .isDirectory
  match ← k.files.resolve p.directory path true with
  | .free l slash =>
      if !access.creates then throw .notFound
      if slash then throw .isDirectory
      let (files, i) := k.files.addFile l [] false
      return attach files (.file i)
  | .found l n =>
      if access = .fresh then throw .alreadyExists
      match n with
      | .file i _ _ =>
          return attach (if access = .write then k.files.modify i fun _ => [] else k.files) (.file i)
      | .directory => if access = .read then return attach k.files (.directory l) else throw .isDirectory
      | .tool _ => if access = .read then return attach k.files (.device .null) else throw .busyText
      | .device (.descriptor d) =>
          match p.descriptors.lookup d with
          | some c => k.reopen c access
          | none => throw .notFound
      | .device .terminal => throw .noDevice
      | .device d => return attach k.files (.device d)
      | .link _ => throw .notFound

/-- The content of what a path leads to. -/
def contentOf (k : Kernel) (p : Process) (path : Letters) : Except SystemError (Letters × Kernel) := do
  let (k, c) ← k.openPath p path .read
  k.read c none

/-! ### Processes -/

def addProcess (k : Kernel) : Kernel × Nat :=
  ({ k with nextProcess := k.nextProcess + 1 }, k.nextProcess)

def send (k : Kernel) (process signal : Nat) : Kernel :=
  { k with signals := k.signals ++ [(process, signal)] }

def takeSignal (k : Kernel) (process : Nat) : Option (Nat × Kernel) :=
  (k.signals.find? (·.1 = process)).map fun s => (s.2, { k with signals := k.signals.erase s })

/-- Forgets the open files that came after a number and that nobody holds any more. -/
def release (k : Kernel) (first : Nat) (held : List Channel) : Kernel :=
  { k with files := { k.files with opened := k.files.opened.filter fun e =>
      e.1.number < first || held.contains (.file e.1) } }

end Kernel

end TwinRun
