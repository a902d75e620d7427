import TwinRun.Program
import TwinRun.Script.Machine
import TwinRun.System.Layout

/-!
The program from the command line.

It makes its run on a simulated machine that starts with a copy of the current directory. What
the run has changed there is written back afterwards, and what it has shown is printed. All
decisions are made by `Program.run`; here is only what moves bytes in and out.
-/

namespace TwinRun.CommandLine

/-- Puts something into the world; what cannot be put there is left out. -/
def layOrSkip (op : Operation World Unit) (w : World) : World :=
  match op w with
  | .ok () w => w
  | .error _ w => w

/-- Copies one entry of a directory into the world. A file counts as executable if it is a
script. -/
partial def copyIn (host : Host World) (above : Path) (w : World) (entry : IO.FS.DirEntry) :
    IO World := do
  let path := above.join (.ofString entry.fileName)
  match (← entry.path.metadata).type with
  | .dir =>
      let w := layOrSkip (World.layDirectory host path) w
      (← entry.path.readDir).foldlM (copyIn host path) w
  | .file =>
      let content := (← IO.FS.readBinFile entry.path).data.toList
      return layOrSkip (World.layFile host path content (Call.interpreter? content).isSome) w
  | _ => return w

/-- Writes one entry back, unless it was there before. -/
def writeBack (before : List World.Entry) (entry : World.Entry) : IO Unit := do
  if before.contains entry then return
  match entry with
  | .file path content => IO.FS.writeBinFile path.display ⟨content.toArray⟩
  | .directory path => IO.FS.createDirAll path.display
  | .link .. => return

def entryPath : World.Entry → Path
  | .file path _ | .directory path | .link path _ => path

def removeOld (after : List World.Entry) (entry : World.Entry) : IO Unit := do
  if after.any (entryPath · == entryPath entry) then return
  match entry with
  | .file path _ => IO.FS.removeFile path.display
  | .directory path => IO.FS.removeDir path.display
  | .link .. => return

def printBytes (stream : IO.FS.Stream) (b : Bytes) : IO Unit := do
  stream.write ⟨b.toArray⟩
  stream.flush

/-- Makes the run that the arguments ask for. -/
def start (args : List String) : IO UInt32 := do
  let directives ← IO.getEnv "RUST_LOG"
  let hostFor verbosity := World.host Script.execute (Log.Filter.choose directives verbosity)
  let here := Path.ofString "."
  let entries ← (← IO.currentDir).readDir
  let w ← entries.foldlM (copyIn (hostFor 0) ⟨[]⟩) Script.machine
  let before := w.entries here
  let ending := Program.run hostFor (args.map Bytes.ofString) w
  let after := ending.system.entries here
  before.reverse.forM (removeOld after)
  after.forM (writeBack before)
  let console := ending.system.console
  printBytes (← IO.getStdout) (console.out ++ Bytes.ofString ending.out)
  printBytes (← IO.getStderr) (console.err ++ Bytes.ofString ending.err)
  return UInt32.ofNat ending.code

end TwinRun.CommandLine

def main (args : List String) : IO UInt32 := TwinRun.CommandLine.start args
