import TwinRun.System.World

/-!
Laying out a simulated system, and looking at what is there.

These are the means of whoever sets a scene for the harness. The harness itself only uses its
host.
-/

namespace TwinRun.World

/-- Makes a directory and those above it, where they are missing. -/
def layDirectory (host : Host World) (path : Path) : Operation World Unit :=
  host.makeDirectories (path :: path.ancestors)

def layParents (host : Host World) (path : Path) : Operation World Unit :=
  match path.ancestors with
  | [] => pure ()
  | parent :: above => host.makeDirectories (parent :: above)

def layFile (host : Host World) (path : Path) (content : Bytes) (executable : Bool) :
    Operation World Unit := do
  layParents host path
  change fun fs d => (·, ()) <$> fs.store d path content
  change fun fs d => (·, ()) <$> fs.setExecutable d path executable

def layLink (host : Host World) (path : Path) (target : Bytes) : Operation World Unit := do
  layParents host path
  change fun fs d => (·, ()) <$> fs.makeLink d path target

/-- Removes a file, a link or a whole tree. -/
def clear (host : Host World) (path : Path) : Operation World Unit := do
  if (← host.inspect false path) = .directory then host.removeTree path else host.removeFile path

/-- What is found in a tree. -/
inductive Entry where
  | file (path : Path) (content : Bytes)
  | directory (path : Path)
  | link (path : Path) (target : Bytes)
  deriving DecidableEq, Repr

/-- The entries below a place, in byte order, each directory before its contents. Links are not
followed. The places are shown as paths inside a path. -/
def entriesBelow (fs : Files) : (depth : Nat) → Path → Location → List Entry
  | 0, _, _ => []
  | depth + 1, path, l =>
      ((fs.names l).mergeSort Bytes.le).flatMap fun name =>
        let inner := path.join ⟨name⟩
        match fs.get? (l ++ [name]) with
        | some .directory => .directory inner :: entriesBelow fs depth inner (l ++ [name])
        | some (.link target) => [.link inner target]
        | some (.file _ content _) => [.file inner content]
        | some (.device _) | some (.tool _) => [.file inner []]
        | none => []

/-- Whether a path says no more than that it stays where it is. -/
def staysHere (path : Path) : Bool :=
  !path.isAbsolute && !path.bytes.isEmpty &&
    (Files.namesOf path.bytes).all fun name => name = [] || name = Path.currentName

/-- The entries below a directory; none if it is no directory. Below the current directory they
are shown by their names alone. -/
def entries (w : World) (path : Path) : List Entry :=
  match w.files.find w.directory path true with
  | .ok (l, .directory) =>
      let shown := if staysHere path then ⟨[]⟩ else path
      entriesBelow w.files (w.files.nodes.length + 1) shown l
  | _ => []

end TwinRun.World
