import TwinRun.System.Host

/-!
The scratch directory.

It is made, if it is not there, and emptied before anything is run, so no artifact of an
earlier run can be compared. Links in it are removed as links.
-/

namespace TwinRun.Scratch

variable {σ : Type} (host : Host σ)

/-- Removes one entry, which is of the kind that the listing has shown. -/
def removeEntry (path : Path) (kind : Except SystemError EntryKind) : Work σ Unit :=
  match kind with
  | .error e => throw (.scratch path .inspect e)
  | .ok kind =>
      let remove := if kind = .directory then host.removeTree path else host.removeFile path
      remove.orFault (.scratch path .remove)

/-- Makes the directory and empties it. -/
def prepare (scratch : Path) : Work σ Unit := do
  (host.makeDirectories (scratch :: scratch.ancestors)).orFault (.scratch scratch .create)
  let entries ← (host.list scratch).orFault (.scratch scratch .list)
  entries.forM fun entry => removeEntry host (scratch.join ⟨entry.name⟩) entry.kind
  host.tell (.scratchCleared scratch entries.length)

end TwinRun.Scratch
