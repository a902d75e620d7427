import TwinRun.System.Host
import TwinRun.System.Invocation

/-!
A simulated system.

It consists of a tree of files, a current directory, an environment and a console. What a
program does is given by an executor: a function of how the program is called and of the files,
to what it writes, how it changes the files and how it ends. Looking for the program of a stage is
part of starting it, and whoever has no use for that may say outright what starting a stage comes
to.

A stage changes the files as soon as it is started, and its pipe can be read from then on. What
else it writes is there only once it has been waited for. Where its streams go into files, its
executor may also write there itself while it works on other files.
-/

namespace TwinRun

structure Behaviour where
  /-- What it writes, in order. -/
  writes : List (Stream × Bytes)
  /-- The files afterwards. -/
  files : Files
  status : ExitStatus
  deriving DecidableEq, Repr

/-- Says what each call of a program does. -/
abbrev Executor := Invocation → Files → Behaviour

/-- All that went to one stream. -/
def writtenTo (s : Stream) (writes : List (Stream × Bytes)) : Bytes :=
  (writes.filter (·.1 = s)).flatMap (·.2)

structure Console where
  out : Bytes := []
  err : Bytes := []
  deriving DecidableEq, Repr

structure World where
  files : Files
  directory : Location
  /-- What started programs find in their environment. -/
  environment : List (Bytes × Bytes) := []
  console : Console := {}
  deriving DecidableEq, Repr

namespace World

/-! ### Programs -/

/-- The directory that a stage is run in. -/
def launchDirectory (w : World) (launch : Launch) : Except SystemError Location :=
  match launch.directory with
  | none => .ok w.directory
  | some path => do
      match ← w.files.find w.directory path true with
      | (l, .directory) => return l
      | _ => throw .notDirectory

def display (w : World) (s : Stream) (b : Bytes) : World :=
  { w with console := match s with
      | .out => { w.console with out := w.console.out ++ b }
      | .err => { w.console with err := w.console.err ++ b } }

/-- Sends what a stage has written where it belongs, unless it goes into a pipe. A file that
takes no more is no matter of the harness. -/
def deliver (w : World) (writes : List (Stream × Bytes)) : StageOutput → World
  | .artifact out err =>
      { w with files := writes.foldl (fun fs (s, bytes) =>
          match fs.write (if s = .out then out else err) bytes with
          | .ok fs => fs
          | .error _ => fs) w.files }
  | .pipe => w.display .err (writtenTo .err writes)
  | .shown => writes.foldl (fun w (s, bytes) => w.display s bytes) w

def passable (launch : Launch) : Bool :=
  !(launch.stage.program.bytes.hasNul || launch.stage.args.any Bytes.hasNul
    || (launch.directory.any fun d => d.bytes.hasNul))

/-- The files that the streams of a stage go into. -/
def filesOf : StageOutput → Option Handle × Option Handle
  | .artifact out err => (some out, some err)
  | .pipe | .shown => (none, none)

/-- Says what starting a stage comes to: what its program does, or why it cannot be started. -/
abbrev Starter := Launch → World → Except SystemError Behaviour

/-- Looks for the program of a stage and has the executor run it. -/
def starter (execute : Executor) : Starter := fun launch w => do
  if !passable launch then throw .nulInArgument
  let directory ← w.launchDirectory launch
  let call ← Call.ofStage w.files directory launch.stage
  let (out, err) := filesOf launch.output
  return execute
    { call with directory, environment := w.environment, input := launch.input, out, err } w.files

def childOf (launch : Launch) (b : Behaviour) : Child where
  piped := if launch.output = .pipe then writtenTo .out b.writes else []
  writes := b.writes
  output := launch.output
  status := b.status

def start (starter : Starter) (launch : Launch) : Operation World Child := fun w =>
  match starter launch w with
  | .ok b => .ok (childOf launch b) { w with files := b.files }
  | .error e => .error e w

/-- Waits until a stage has written everything. -/
def wait (child : Child) : Operation World ExitStatus := fun w =>
  .ok child.status (w.deliver child.writes child.output)

/-! ### The host -/

/-- An operation that changes the files and may fail. -/
def change {α : Type} (f : Files → Location → Except SystemError (Files × α)) : Operation World α :=
  fun w =>
    match f w.files w.directory with
    | .ok (files, a) => .ok a { w with files }
    | .error e => .error e w

/-- An operation that looks at the files and may fail. -/
def look {α : Type} (f : Files → Location → Except SystemError α) : Operation World α :=
  fun w =>
    match f w.files w.directory with
    | .ok a => .ok a w
    | .error e => .error e w

/-- Removes a directory with everything below it. Where the path does not name the directory
itself, only what is in it goes. -/
def removeTree (path : Path) : Operation World Unit := fun w =>
  match w.files.removeTree w.directory path, w.files.namingProblem? w.directory path with
  | .error e, _ => .error e w
  | .ok files, none => .ok () { w with files }
  | .ok _, some e => .error e { w with files := w.files.emptied w.directory path }

def kindOf : FileNode → EntryKind
  | .file .. | .tool _ => .file
  | .directory => .directory
  | .link _ => .link
  | .device _ => .other

/-- What a listing shows of an entry. No path is walked for it. -/
def listed (fs : Files) (l : Location) (name : Bytes) : Listed where
  name
  kind := match fs.get? (l ++ [name]) with
    | some n => .ok (kindOf n)
    | none => .error .notFound

def listing (fs : Files) (directory : Location) (path : Path) :
    Except SystemError (List Listed) := do
  match ← fs.find directory path true with
  | (l, .directory) => return (fs.names l).map (listed fs l)
  | _ => throw .notDirectory

def inspection (fs : Files) (directory : Location) (follow : Bool) (path : Path) :
    Except SystemError EntryKind :=
  (fun n => kindOf n.2) <$> fs.find directory path follow

def leadsTo (kind : EntryKind) (path : Path) (w : World) : Bool :=
  match w.files.find w.directory path true with
  | .ok (_, n) => kindOf n = kind
  | .error _ => false

def sameDirectory (p q : Path) (w : World) : Bool :=
  match w.files.find w.directory p true, w.files.find w.directory q true with
  | .ok (l, .directory), .ok (l', .directory) => l = l'
  | _, _ => false

/-- The world as a host: stages start as the starter says, and events that the filter shows
appear on the console. -/
def hostOf (starter : Starter) (filter : Log.Filter) (overflow : Overflow := .wraps) :
    Host World where
  makeDirectory path := change fun fs d => (·, ()) <$> fs.makeDirectory d path
  isDirectory := leadsTo .directory
  isFile := leadsTo .file
  list path := look fun fs d => listing fs d path
  inspect follow path := look fun fs d => inspection fs d follow path
  sameDirectory := sameDirectory
  removeFile path := change fun fs d => (·, ()) <$> fs.removeFile d path
  removeTree := removeTree
  create path := change fun fs d => fs.create d path
  duplicate h := pure h
  write h more := change fun fs _ => (·, ()) <$> fs.write h more
  read path := look fun fs d => fs.read d path
  start := start starter
  wait := wait
  note event w := if filter.shows event then w.display .err (Bytes.ofString event.line) else w
  overflow := overflow

/-- The world as a host whose programs do what the executor says. -/
def host (execute : Executor) (filter : Log.Filter) : Host World := hostOf (starter execute) filter

end World

end TwinRun
