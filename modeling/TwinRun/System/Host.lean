import TwinRun.Fault
import TwinRun.Log
import TwinRun.System.Invocation
import TwinRun.Word

/-!
What the harness asks of the system it runs on.

A host has a state and operations on it that may fail. Nothing is assumed about them here,
so what is shown about the harness for every host holds however the system behaves.
-/

namespace TwinRun

inductive EntryKind where
  | file
  | directory
  | link
  | other
  deriving DecidableEq, Repr

/-- An entry as the listing of its directory shows it. -/
structure Listed where
  name : Bytes
  /-- What it is itself, links not followed, unless the listing cannot tell. -/
  kind : Except SystemError EntryKind

inductive StageOutput where
  /-- Both streams into an artifact, through a handle each. -/
  | artifact (out err : Handle)
  /-- Standard output into a pipe; standard error is shown. -/
  | pipe
  /-- Both streams are shown. -/
  | shown
  deriving DecidableEq, Repr

/-- How a stage is to be started. -/
structure Launch where
  stage : Stage
  /-- The directory it runs in, if it is another one. -/
  directory : Option Path := none
  /-- All it can read from standard input. -/
  input : Bytes := []
  output : StageOutput
  deriving DecidableEq, Repr

/-- A started stage. -/
structure Child where
  /-- What it writes into its pipe, if it has one. -/
  piped : Bytes
  /-- What it writes elsewhere before it ends, in order. -/
  writes : List (Stream × Bytes)
  output : StageOutput
  /-- How it will end. -/
  status : ExitStatus
  deriving DecidableEq, Repr

/-- An operation of the system. After an error the state may have changed, too. -/
abbrev Operation (σ α : Type) := EStateM SystemError σ α

/-- A system with states `σ`. -/
structure Host (σ : Type) where
  makeDirectory : Path → Operation σ Unit
  /-- Whether a path leads to a directory. -/
  isDirectory : Path → σ → Bool
  /-- Whether a path leads to a regular file. -/
  isFile : Path → σ → Bool
  /-- The entries of a directory, in the order of the system. -/
  list : Path → Operation σ (List Listed)
  /-- What is in a place, links followed or not. -/
  inspect : (follow : Bool) → Path → Operation σ EntryKind
  /-- Whether two paths lead to one directory. -/
  sameDirectory : Path → Path → σ → Bool
  removeFile : Path → Operation σ Unit
  removeTree : Path → Operation σ Unit
  create : Path → Operation σ Handle
  duplicate : Handle → Operation σ Handle
  write : Handle → Bytes → Operation σ Unit
  read : Path → Operation σ Bytes
  start : Launch → Operation σ Child
  wait : Child → Operation σ ExitStatus
  note : Log.Event → σ → σ
  /-- How the program that runs on it was built. -/
  overflow : Overflow

/-- Work that may fail for good. -/
abbrev Work (σ α : Type) := EStateM Fault σ α

/-- An operation whose error becomes a fault. -/
def Operation.orFault {σ α : Type} (op : Operation σ α) (fault : SystemError → Fault) : Work σ α :=
  fun s =>
    match op s with
    | .ok a s => .ok a s
    | .error e s => .error (fault e) s

/-- What has been worked out, unless that ended in a panic. -/
def Work.orPanic {σ α : Type} : Except Panic α → Work σ α
  | .ok a => pure a
  | .error p => throw (.panic p)

/-- An operation whose error is a result. -/
def Operation.attempt {σ α : Type} (op : Operation σ α) : Work σ (Except SystemError α) :=
  fun s =>
    match op s with
    | .ok a s => .ok (.ok a) s
    | .error e s => .ok (.error e) s

namespace Host

variable {σ : Type} (host : Host σ)

def tell (e : Log.Event) : Work σ Unit := modify (host.note e)

def ask (question : σ → Bool) : Work σ Bool := do return question (← get)

/-- Makes a directory, unless it is there already. -/
def ensureDirectory (path : Path) : Operation σ Unit :=
  tryCatch (host.makeDirectory path) fun e => do
    if host.isDirectory path (← get) then return else throw e

/-- Makes a directory and, where they are missing, the directories above it. The list holds
its path and the paths above it, the nearest first; nothing is made for the empty path. -/
def makeDirectories : (paths : List Path) → Operation σ Unit
  | [] => throw .notFound
  | path :: above =>
      if path.bytes.isEmpty then return
      else tryCatch (host.makeDirectory path) fun e => do
        if e = .notFound then
          makeDirectories above
          host.ensureDirectory path
        else if host.isDirectory path (← get) then return
        else throw e

end Host

end TwinRun
