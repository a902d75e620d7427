import TwinRun.Script.Arguments

/-!
The directory that a shell works in.

A shell remembers the way it went there: a parent directory undoes the last name of that way,
wherever links have led.
-/

namespace TwinRun.Script

def placePath (l : Location) : Letters :=
  if l.isEmpty then ['/'] else l.flatMap fun name => '/' :: Letters.ofBytes name

def directoryName : Letters := "PWD".toList

def oldDirectoryName : Letters := "OLDPWD".toList

/-- The way that a path leads from another one. -/
def wayTo (here path : Letters) : Letters :=
  let start := if path.head? = some '/' then [] else (Letters.splitOn '/' here).filter (· ≠ [])
  let names := ((Letters.splitOn '/' path).filter (· ≠ [])).foldl (fun names name =>
    if name = ['.'] then names
    else if name = ['.', '.'] then names.dropLast
    else names ++ [name]) start
  let root : Letters :=
    if path.take 2 = ['/', '/'] ∧ path[2]? ≠ some '/' then ['/', '/'] else ['/']
  root ++ ['/'].intercalate names

def directoryAt? (s : Shell) (path : Letters) : Option Location :=
  match s.kernel.files.find s.process.directory ⟨Letters.bytes path⟩ true with
  | .ok (l, .directory) => some l
  | _ => none

def setHere (path : Letters) (remembers : Bool) : Sh Unit := do
  if remembers then setVariable oldDirectoryName (← get).here true
  modify fun s => { s with here := path }
  setVariable directoryName path true

/-- Goes to a directory, if it is there. -/
def goTo (physical : Bool) (path : Letters) : Sh Bool := do
  let s ← get
  let path := if physical then path else wayTo s.here path
  match directoryAt? s path with
  | none => return false
  | some l =>
      modify fun s => { s with process := { s.process with directory := l } }
      setHere (if physical then placePath l else path) true
      return true

def isPhysical (given : List (Char × Letters)) : Bool := (given.getLast?.map (·.1)) = some 'P'

/-- Whether a path says itself where it starts. -/
def isRooted (path : Letters) : Bool :=
  path.head? = some '/' ||
    match path with
    | ['.'] | '.' :: '/' :: _ | ['.', '.'] | '.' :: '.' :: '/' :: _ => true
    | _ => false

/-- Where a directory may be found that does not say where it starts. The flag tells whether the
way is to be shown. -/
def candidates (s : Core) (path : Letters) : List (Letters × Bool) :=
  if isRooted path then [(path, false)]
  else
    let dirs := match s.value? "CDPATH".toList with
      | some t => Letters.splitOn ':' t
      | none => [[]]
    dirs.map (fun d => if d.isEmpty then (path, false) else (d ++ '/' :: path, true)) ++ [(path, false)]

def cdCommand (args : List Letters) : Sh Nat := do
  let (given, rest) ← options "LP" "" args
  let s ← get
  let (path, shows) := match rest with
    | ['-'] :: _ => ((s.value? oldDirectoryName).getD [], true)
    | t :: _ => (t, false)
    | [] => ((s.value? "HOME".toList).getD [], false)
  let path := if path.isEmpty then ['.'] else path
  let found := (candidates s.toCore path).find? fun c => (directoryAt? s c.1).isSome
  let (target, told) := found.getD (path, false)
  if ← goTo (isPhysical given) target then
    if shows || told then sayLine (← get).here
    return 0
  fail ("can't cd to ".toList ++ path)

def pwdCommand (args : List Letters) : Sh Nat := do
  let (given, _) ← options "LP" "" args
  let s ← get
  sayLine (if isPhysical given then placePath s.process.directory else s.here)
  return 0

end TwinRun.Script
