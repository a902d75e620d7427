import TwinRun.Path
import TwinRun.SystemError

/-!
A tree of files.

The tree is kept flat: every file, directory and link under its location, the names from
the root down. A path is walked from a directory one name at a time, links are followed on
the way, and every operation says which error the system would give.

Files have identities. An open file names its file by the identity, so it keeps its file when
the file is moved. It also has a place in the file, where the next byte is read or written, and
all who hold its handle share that place.
-/

namespace TwinRun

/-- A place in the tree: the names from the root down. -/
abbrev Location := List Bytes

/-- Files that only exist to be read or written. -/
inductive Device where
  /-- Empty, and takes everything. -/
  | null
  /-- Takes nothing, and is read as zeros. -/
  | full
  /-- Takes everything, and is read as zeros. -/
  | zero
  /-- The terminal, which nobody has here. -/
  | terminal
  /-- What the process that opens it holds as this descriptor. -/
  | descriptor (n : Nat)
  deriving DecidableEq, Repr

/-- What may be found in a place. -/
inductive FileNode where
  | file (identity : Nat) (content : Bytes) (executable : Bool)
  | directory
  | link (target : Bytes)
  | device (d : Device)
  /-- A program of the system. -/
  | tool (name : String)
  deriving DecidableEq, Repr

/-- What an open file leads to. -/
inductive Target where
  | file (identity : Nat)
  | directory (l : Location)
  | device (d : Device)
  deriving DecidableEq, Repr

structure OpenFile where
  target : Target
  /-- Where the next byte is read or written. -/
  place : Nat := 0
  reads : Bool := false
  writes : Bool := false
  /-- What is written goes to the end, wherever the place is. -/
  appends : Bool := false
  deriving DecidableEq, Repr

/-- Stands for an open file. -/
structure Handle where
  number : Nat
  deriving DecidableEq, Repr

/-- A tree of files. The root is always there. -/
structure Files where
  nodes : List (Location × FileNode)
  /-- Above the identity of every file so far. -/
  nextIdentity : Nat
  /-- The open files by their handles. -/
  opened : List (Handle × OpenFile) := []
  /-- Above the number of every handle so far. -/
  nextHandle : Nat := 0
  deriving DecidableEq, Repr

namespace Files

/-! ### The store -/

def get? (fs : Files) (l : Location) : Option FileNode :=
  if l = [] then some .directory else fs.nodes.lookup l

/-- The names in a directory, in the order of the store. -/
def names (fs : Files) (directory : Location) : List Bytes :=
  fs.nodes.filterMap fun (l, _) =>
    if l ≠ [] ∧ l.dropLast = directory then l.getLast? else none

/-- Puts something into a place, replacing what is there. -/
def put (fs : Files) (l : Location) (n : FileNode) : Files :=
  if fs.nodes.any (·.1 == l) then
    { fs with nodes := fs.nodes.map fun e => if e.1 = l then (l, n) else e }
  else { fs with nodes := fs.nodes ++ [(l, n)] }

/-- Removes a place with everything below it. -/
def erase (fs : Files) (l : Location) : Files :=
  { fs with nodes := fs.nodes.filter fun e => !l.isPrefixOf e.1 }

def addFile (fs : Files) (l : Location) (content : Bytes) (executable : Bool) : Files × Nat :=
  ({ fs.put l (.file fs.nextIdentity content executable) with nextIdentity := fs.nextIdentity + 1 },
    fs.nextIdentity)

def modify (fs : Files) (identity : Nat) (f : Bytes → Bytes) : Files :=
  { fs with nodes := fs.nodes.map fun e =>
      match e with
      | (l, .file k content x) => if k = identity then (l, .file k (f content) x) else e
      | _ => e }

def content? (fs : Files) (identity : Nat) : Option Bytes :=
  fs.nodes.findSome? fun (_, n) =>
    match n with
    | .file k content _ => if k = identity then some content else none
    | _ => none

/-! ### Open files -/

def attach (fs : Files) (o : OpenFile) : Files × Handle :=
  let h : Handle := ⟨fs.nextHandle⟩
  ({ fs with opened := (h, o) :: fs.opened, nextHandle := fs.nextHandle + 1 }, h)

def moveTo (fs : Files) (h : Handle) (place : Nat) : Files :=
  { fs with opened := fs.opened.map fun e => if e.1 = h then (h, { e.2 with place }) else e }

/-- A content with more bytes written over it from a place on. What lies before the place and
has never been written is zero. -/
def overwrite (content : Bytes) (place : Nat) (more : Bytes) : Bytes :=
  content.take place ++ List.replicate (place - content.length) 0 ++ more ++
    content.drop (place + more.length)

def write (fs : Files) (h : Handle) (more : Bytes) : Except SystemError Files :=
  match fs.opened.lookup h with
  | none => .error .badDescriptor
  | some o =>
      if !o.writes then .error .badDescriptor
      else if more.isEmpty then .ok fs
      else match o.target with
      | .file k =>
          let content := (fs.content? k).getD []
          let place := if o.appends then content.length else o.place
          .ok ((fs.modify k fun c => overwrite c place more).moveTo h (place + more.length))
      | .device .full => .error .noSpace
      | .device _ => .ok fs
      | .directory _ => .error .isDirectory

/-- How much is read from what has no end, where all of it is asked for. -/
def endless : Nat := 1000000

/-- Reads from an open file on, at most so many bytes, or all there are. -/
def readOn (fs : Files) (h : Handle) (most : Option Nat) : Except SystemError (Bytes × Files) :=
  match fs.opened.lookup h with
  | none => .error .badDescriptor
  | some o =>
      if !o.reads then .error .badDescriptor
      else match o.target with
      | .file k =>
          let rest := ((fs.content? k).getD []).drop o.place
          let taken := match most with
            | some n => rest.take n
            | none => rest
          .ok (taken, fs.moveTo h (o.place + taken.length))
      | .device .full | .device .zero => .ok (List.replicate (most.getD endless) 0, fs)
      | .device _ => .ok ([], fs)
      | .directory _ => .error .isDirectory

/-! ### Walking -/

/-- Where a walk has ended. -/
inductive Place where
  | found (l : Location) (n : FileNode)
  /-- Nothing is there, but its directory exists. `slash`: the path ends in a slash. -/
  | free (l : Location) (slash : Bool)
  deriving DecidableEq, Repr

def maxName : Nat := 255

/-- The least length of a path that is too long. -/
def maxPath : Nat := 4096

/-- How many links are followed in one walk. -/
def maxLinks : Nat := 40

/-- The names of a path. A slash at the end leaves an empty name there. -/
def namesOf (path : Bytes) : List Bytes :=
  let names := (Bytes.splitOn Bytes.slash path).filter (· ≠ [])
  if path.getLast? = some Bytes.slash ∧ names ≠ [] then names ++ [[]] else names

/-- Walks from a directory along names. At a link on the way, or at the end if `follow`,
`jump` goes on. -/
def descend (fs : Files) (follow : Bool)
    (jump : Location → List Bytes → Except SystemError Place) :
    Location → List Bytes → Except SystemError Place
  | l, [] => .ok (.found l .directory)
  | l, name :: rest =>
      if name = [] ∨ name = Path.currentName then descend fs follow jump l rest
      else if name = Path.parentName then descend fs follow jump l.dropLast rest
      else if name.length > maxName then .error .nameTooLong
      else
        let l' := l ++ [name]
        match fs.get? l' with
        | none =>
            if rest = [] then .ok (.free l' false)
            else if rest = [[]] then .ok (.free l' true)
            else .error .notFound
        | some .directory => descend fs follow jump l' rest
        | some (.link target) =>
            if rest = [] ∧ ¬ follow then .ok (.found l' (.link target))
            else if target = [] then .error .notFound
            else jump (if target.head? = some Bytes.slash then [] else l) (namesOf target ++ rest)
        | some n => if rest = [] then .ok (.found l' n) else .error .notDirectory

/-- Walks along names and follows a limited number of links. -/
def walk (fs : Files) (follow : Bool) : (links : Nat) → Location → List Bytes →
    Except SystemError Place
  | 0 => descend fs follow fun _ _ => .error .linkLoop
  | links + 1 => descend fs follow (walk fs follow links)

def checkPath (path : Path) : Except SystemError Unit :=
  if path.bytes.hasNul then .error .nulInPath
  else if path.bytes.isEmpty then .error .notFound
  else if path.bytes.length ≥ maxPath then .error .nameTooLong
  else .ok ()

def resolve (fs : Files) (directory : Location) (path : Path) (follow : Bool) :
    Except SystemError Place := do
  checkPath path
  walk fs follow maxLinks (if path.isAbsolute then [] else directory) (namesOf path.bytes)

/-- What a path leads to from a directory. -/
def find (fs : Files) (directory : Location) (path : Path) (follow : Bool) :
    Except SystemError (Location × FileNode) := do
  match ← fs.resolve directory path follow with
  | .found l n => return (l, n)
  | .free _ _ => throw .notFound

def withoutSlash (path : Path) : Path :=
  let body := (path.bytes.reverse.dropWhile (· = Bytes.slash)).reverse
  if body.isEmpty then path else ⟨body⟩

/-! ### Operations -/

/-- Makes a directory. A link in its place is not followed. -/
def makeDirectory (fs : Files) (directory : Location) (path : Path) : Except SystemError Files := do
  checkPath path
  match ← fs.resolve directory (withoutSlash path) false with
  | .found _ _ => throw .alreadyExists
  | .free l _ => return fs.put l .directory

/-- Opens a file for writing, emptied or newly made. A slash at the end asks for a directory,
which cannot be written. -/
def create (fs : Files) (directory : Location) (path : Path) :
    Except SystemError (Files × Handle) := do
  if path.endsInSlash then
    let _ ← fs.resolve directory (withoutSlash path) false
    throw .isDirectory
  match ← fs.resolve directory path true with
  | .found _ (.file k _ _) => return (fs.modify k fun _ => []).attach { target := .file k, writes := true }
  | .found _ (.device d) => return fs.attach { target := .device d, writes := true }
  | .found _ (.tool _) => throw .permissionDenied
  | .found _ _ => throw .isDirectory
  | .free _ true => throw .isDirectory
  | .free l false =>
      let (fs, k) := fs.addFile l [] false
      return fs.attach { target := .file k, writes := true }

def store (fs : Files) (directory : Location) (path : Path) (content : Bytes) :
    Except SystemError Files := do
  let (fs, h) ← fs.create directory path
  fs.write h content

/-- Lets a file be run, or not. Other things stay as they are. -/
def setExecutable (fs : Files) (directory : Location) (path : Path) (executable : Bool) :
    Except SystemError Files := do
  match ← fs.find directory path true with
  | (l, .file k content _) => return fs.put l (.file k content executable)
  | _ => return fs

def read (fs : Files) (directory : Location) (path : Path) : Except SystemError Bytes := do
  match ← fs.find directory path true with
  | (_, .file _ content _) => return content
  | (_, .device _) | (_, .tool _) => return []
  | _ => throw .isDirectory

def list (fs : Files) (directory : Location) (path : Path) : Except SystemError (List Bytes) := do
  match ← fs.find directory path true with
  | (l, .directory) => return fs.names l
  | _ => throw .notDirectory

def removeFile (fs : Files) (directory : Location) (path : Path) : Except SystemError Files := do
  match ← fs.find directory path false with
  | (_, .directory) => throw .isDirectory
  | (l, _) => return fs.erase l

def removeTree (fs : Files) (directory : Location) (path : Path) : Except SystemError Files := do
  match ← fs.find directory path false with
  | (l, .directory) => return fs.erase l
  | _ => throw .notDirectory

/-- Removes what is in a directory. -/
def emptied (fs : Files) (directory : Location) (path : Path) : Files :=
  match fs.find directory path true with
  | .ok (l, .directory) =>
      { fs with nodes := fs.nodes.filter fun e => !(l.isPrefixOf e.1 && e.1 ≠ l) }
  | _ => fs

/-- Why a path that leads to a directory does not name it in a way that lets it be removed. -/
def namingProblem? (fs : Files) (directory : Location) (path : Path) : Option SystemError :=
  let body := withoutSlash path
  if (namesOf body.bytes).getLast? = some Path.currentName then some .invalid
  else match fs.find directory body false with
  | .ok (_, .link _) => if path.endsInSlash then some .notDirectory else none
  | _ => none

def makeLink (fs : Files) (directory : Location) (path : Path) (target : Bytes) :
    Except SystemError Files := do
  match ← fs.resolve directory path false with
  | .found _ _ => throw .alreadyExists
  | .free _ true => throw .notFound
  | .free l false => return fs.put l (.link target)

end Files

end TwinRun
