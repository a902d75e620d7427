import TwinRun.Text.Lossy

/-!
Paths: byte strings read as a walk through directories.

`Path.components` names the steps of the walk; repeated slashes and inner dots are no
steps. The last ordinary step is the file name, and what follows its last dot the
extension, unless that dot comes first.
-/

namespace TwinRun

/-- A path as it was written. -/
structure Path where
  bytes : Bytes
  deriving DecidableEq, Repr

inductive Component where
  | root
  | current
  | parent
  | normal (name : Bytes)
  deriving DecidableEq, Repr

namespace Path

def ofString (s : String) : Path := ⟨Bytes.ofString s⟩

def display (p : Path) : String := p.bytes.lossy

/-- The name `.`. -/
def currentName : Bytes := [Bytes.dot]

/-- The name `..`. -/
def parentName : Bytes := [Bytes.dot, Bytes.dot]

def isAbsolute (p : Path) : Bool := p.bytes.head? == some Bytes.slash

def endsInSlash (p : Path) : Bool := p.bytes.getLast? == some Bytes.slash

/-- The step that a name between two slashes stands for, if any. -/
def Component.ofName (name : Bytes) : Option Component :=
  if name = [] ∨ name = currentName then none
  else if name = parentName then some .parent
  else some (.normal name)

/-- The steps of the path. A dot is a step only at the very start. -/
def components (p : Path) : List Component :=
  let names := Bytes.splitOn Bytes.slash p.bytes
  let start :=
    if p.isAbsolute then [Component.root]
    else if names.head? = some currentName then [Component.current]
    else []
  start ++ names.filterMap Component.ofName

/-- The file name: the last step, if it is an ordinary one. -/
def fileName? (p : Path) : Option Bytes :=
  match p.components.getLast? with
  | some (.normal name) => some name
  | _ => none

/-- What follows the last dot of a file name. A name whose only dot comes first has no
extension. -/
def extensionOf (name : Bytes) : Option Bytes :=
  let after := name.reverse.takeWhile (· ≠ Bytes.dot)
  if after.length + 1 < name.length then some after.reverse else none

def extension? (p : Path) : Option Bytes := p.fileName?.bind extensionOf

/-- One path inside another. An absolute path stands for itself. -/
def join (p q : Path) : Path :=
  if q.isAbsolute then q
  else if p.bytes.isEmpty ∨ p.endsInSlash then ⟨p.bytes ++ q.bytes⟩
  else ⟨p.bytes ++ Bytes.slash :: q.bytes⟩

/-! ### Ancestors -/

/-- A step as it is written. -/
def Component.bytes : Component → Bytes
  | .root => []
  | .current => currentName
  | .parent => parentName
  | .normal name => name

def ofComponents (steps : List Component) : Path :=
  if steps = [.root] then ⟨[Bytes.slash]⟩
  else ⟨[Bytes.slash].intercalate (steps.map Component.bytes)⟩

/-- The paths above a path, the nearest first. Above a relative path is in the end the empty
path. -/
def ancestors (p : Path) : List Path :=
  let steps := p.components
  let kept := if p.isAbsolute then 1 else 0
  ((List.range steps.length).filter (kept ≤ ·)).reverse.map fun n => ofComponents (steps.take n)

end Path

end TwinRun
