import TwinRun.Case
import TwinRun.System.Host

/-!
Finding the cases.

The cases of a directory are the regular files directly in it, links followed, whose
extension is the corpus's, in the order of their names. A directory that is not there has
none, and an entry that cannot be looked at is passed over.
-/

namespace TwinRun.Discovery

variable {σ : Type} (host : Host σ)

/-- Why an entry of a directory is passed over, in words. -/
def failureText (path : Path) (e : SystemError) : String :=
  "IO error for operation on " ++ path.display ++ ": " ++ e.message

/-- A link that leads back to the directory it is in. -/
def loopText (path dir : Path) : String :=
  "File system loop found: " ++ path.display ++ " points to an ancestor " ++ dir.display

/-- The case that an entry is, if it is one. -/
def caseOf? (extension : String) (path : Path) (kind : EntryKind) : Option Case :=
  if kind = .file ∧ path.extension? = some (Bytes.ofString extension) then Case.ofPath? path
  else none

/-- Passes over an entry. -/
def skip (dir : Path) (text : String) : Work σ (Option Case) := do
  host.tell (.entrySkipped dir text)
  return none

/-- Looks at one entry. Only a link has to be followed to tell what is there. -/
def visit (dir : Path) (extension : String) (entry : Listed) : Work σ (Option Case) := do
  let path := dir.join ⟨entry.name⟩
  match entry.kind with
  | .error e => skip host dir (failureText path e)
  | .ok .link =>
      match ← (host.inspect true path).attempt with
      | .error e => skip host dir (failureText path e)
      | .ok .directory =>
          if ← Host.ask (host.sameDirectory path dir) then skip host dir (loopText path dir)
          else return none
      | .ok kind => return caseOf? extension path kind
  | .ok kind => return caseOf? extension path kind

def inDirectory (dir : Path) (extension : String) : Work σ (List Case) := do
  if !(← Host.ask (host.isDirectory dir)) then
    host.tell (.directoryAbsent dir)
    return []
  match ← (host.list dir).attempt with
  | .error e =>
      host.tell (.entrySkipped dir (failureText dir e))
      host.tell (.directoryScanned dir 0)
      return []
  | .ok entries =>
      let sorted := entries.mergeSort fun a b => Bytes.le a.name b.name
      let cases ← sorted.filterMapM (visit host dir extension)
      host.tell (.directoryScanned dir cases.length)
      return cases

/-- The cases of several directories, one directory after the other. -/
def inDirectories (dirs : List Path) (extension : String) : Work σ (List Case) := do
  return (← dirs.mapM fun dir => inDirectory host dir extension).flatten

end TwinRun.Discovery
