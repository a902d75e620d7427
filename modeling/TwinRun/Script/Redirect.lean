import TwinRun.Script.Expand

/-!
Redirections.

The names in all redirections of a command are expanded first. Then they are opened one after
the other, and what the descriptors were before is remembered until the command has ended.
-/

namespace TwinRun.Script

inductive Target where
  | file (descriptor : Nat) (direction : Direction) (name : Letters)
  /-- Without a source the descriptor is closed. -/
  | copy (descriptor : Nat) (source : Option Nat)
  | text (descriptor : Nat) (document : Nat)
  deriving DecidableEq, Repr

/-- Why a file could not be opened, as the shell tells it. -/
def openReason (creating : Bool) (e : SystemError) : Letters :=
  if e = .notFound ∨ e = .notDirectory then
    (if creating then "Directory nonexistent" else "No such file").toList
  else e.reason

def openFile (name : Letters) (access : Access) : Sh Channel := do
  let s ← get
  match s.kernel.openPath s.process name access with
  | .ok (kernel, c) => set { s with kernel }; return c
  | .error e =>
      fail ("cannot ".toList ++ (if access.creates then "create " else "open ").toList ++ name ++
        ": ".toList ++ openReason access.creates e)

/-- Makes a descriptor lead somewhere, or nowhere. -/
def setDescriptor (n : Nat) (c : Option Channel) : Sh Unit :=
  modify fun s =>
    let others := s.process.descriptors.filter (·.1 ≠ n)
    { s with process := { s.process with descriptors := match c with
        | some c => (n, c) :: others
        | none => others } }

/-- A pipe from which a text can be read. -/
def pipeOf (t : Letters) : Sh Channel := do
  let s ← get
  let (kernel, n) := s.kernel.addPipe
  set { s with kernel := kernel.setPipe n { ready := t } }
  return .source n

section

variable (output : Command → Sh Letters)

def prepare : Redirection → Sh Target
  | .file n direction name => do return .file n direction (← expandText output Manner.single name)
  | .copy n source => do
      match ← expandText output Manner.single source with
      | ['-'] => return .copy n none
      | [d] => if d.isDigit then return .copy n (some (d.toNat - '0'.toNat)) else bad
      | _ => bad
  | .text n document => return .text n document
where
  bad : Sh Target := fail "Syntax error: Bad fd number".toList

def prepareAll (rs : List Redirection) : Sh (List Target) := rs.mapM (prepare output)

/-- How a file is opened. An option protects files that are there already. -/
def accessOf (direction : Direction) (name : Letters) : Sh Access := do
  match direction with
  | .input => return .read
  | .both => return .update
  | .append => return .append
  | .replacing => return .write
  | .output =>
      let s ← get
      if !s.options.contains 'C' then return .write
      match s.kernel.files.find s.process.directory ⟨Letters.bytes name⟩ true with
      | .ok (_, .file ..) | .ok (_, .tool _) => return .fresh
      | .ok _ => return .overwrite
      | .error _ => return .fresh

/-- Where a descriptor is to lead. Nothing comes back if it already does. -/
def channelOf : Target → Sh (Option (Option Channel))
  | .file _ direction name => do return some (some (← openFile name (← accessOf direction name)))
  | .copy n source =>
      if source = some n then return none
      else match source with
      | none => return some none
      | some m => do
          match (← get).process.descriptors.lookup m with
          | some c => return some (some c)
          | none => fail (Letters.ofNat m ++ ": ".toList ++ SystemError.badDescriptor.reason)
  | .text _ document => do
      let w := ((← get).texts.lookup document).getD []
      return some (some (← pipeOf (← expandText output Manner.document w)))

def Target.descriptor : Target → Nat
  | .file n _ _ | .copy n _ | .text n _ => n

abbrev Redirected := List (Nat × Option Channel)

/-- Redirects one descriptor after the other, up to a failure. -/
def redirect : Redirected → List Target → Sh (Redirected × Bool)
  | before, [] => return (before, true)
  | before, t :: ts => do
      let found ← tryCatch (some <$> channelOf output t) fun
        | .failed => return none
        | f => throw f
      match found with
      | none => return (before, false)
      | some none => redirect before ts
      | some (some c) =>
          let n := t.descriptor
          let old := (← get).process.descriptors.lookup n
          setDescriptor n c
          redirect (if before.any (·.1 = n) then before else (n, old) :: before) ts

/-- Gives descriptors back what they were. -/
def restore (before : Redirected) : Sh Unit := do
  for (n, c) in before do setDescriptor n c

end

end TwinRun.Script
