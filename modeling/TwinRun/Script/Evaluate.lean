import TwinRun.Script.Builtin

/-!
Evaluating commands.

Every command has a status, which stays that of the shell until the next one has ended. In a
strict shell a command that fails ends it, unless its result is looked at. While commands are
passed over, because a loop or a function is being left, nothing is evaluated and the status
stays what it was.
-/

namespace TwinRun.Script

section

variable (ev : Evaluator)

/-! ### Redirected commands -/

/-- Forgets files that have been opened from a number on and that nobody holds any more. -/
def forget (first : Nat) : Sh Unit :=
  modify fun s =>
    let waiting := s.jobs.flatMap fun j => (j.work.map fun w => w.1.process.descriptors).getD []
    { s with kernel := s.kernel.release first ((s.process.descriptors ++ waiting).map (·.2)) }

/-- Does something under redirections. A redirection that fails has a status of its own. -/
def under (targets : List Target) (keep : Bool) (failed : Sh Nat) (work : Redirected → Sh Nat) : Sh Nat := do
  let first := (← get).kernel.files.nextHandle
  let (before, ok) ← redirect (outputOf ev) [] targets
  if keep && ok then work before
  else ensuring (if ok then work before else failed) do
    restore before
    if !targets.isEmpty then forget first

def redirectStatus : Nat := 2

/-! ### Simple commands -/

/-- The fields of words up to the first word that has any. -/
def fill : List Word → Sh (List Letters × List Word)
  | [] => return ([], [])
  | w :: ws => do
      let fields ← expandFields (outputOf ev) w
      if fields.isEmpty then fill ws else return (fields, ws)

def builtin? (name : Letters) : Option Builtin := (builtins ev).lookup (String.ofList name)

/-- What is known of a command when its first words have been expanded. -/
structure Head where
  fields : List Letters := []
  /-- Fields in front of the command that have been passed over. -/
  passed : List Letters := []
  /-- The words still to be expanded. -/
  words : List Word := []
  /-- Functions are not looked at. -/
  direct : Bool := false
  /-- The search path, if it is a standard one. -/
  path : Option Letters := none
  /-- Whether errors end the shell and assignments stay; nothing for a program or a function. -/
  special : Option Bool := none
  assigns : Bool := false

/-- Whether an argument of `command` is made of options for running something. -/
def isPathOption (t : Letters) : Bool :=
  match t with
  | '-' :: c :: cs => (c :: cs).all (· = 'p')
  | _ => false

/-- Passes over the options of `command`. The flag tells whether a command follows that is to be
run; if not, `command` itself has to do something with them. -/
def passOptions : (fuel : Nat) → Head → Sh (Bool × Head)
  | 0, h => return (false, h)
  | fuel + 1, h => do
      let (fields, words) ← if h.fields.isEmpty then fill ev h.words else pure (h.fields, h.words)
      let h := { h with fields, words }
      match fields with
      | [] => return (false, h)
      | t :: rest =>
          let next := { h with fields := rest, passed := h.passed ++ [t] }
          if t = ['-', '-'] then
            let (fields, words) ← if rest.isEmpty then fill ev words else pure (rest, words)
            return (!fields.isEmpty, { next with fields, words })
          else if isPathOption t then passOptions fuel { next with path := some standardPath }
          else return (!(t.head? = some '-' && t.length > 1), h)

/-- Finds out what command the first field names. -/
def findHead : (fuel : Nat) → Head → Sh Head
  | 0, h => return h
  | fuel + 1, h => do
      match h.fields with
      | [] => return h
      | name :: rest =>
          if !h.direct && ((← get).functions.lookup name).isSome then return h
          match builtin? ev name with
          | none => return h
          | some b =>
              let h := { h with special := some (h.special.getD b.special), assigns := b.assigns }
              if name ≠ "command".toList then return h
              let (runs, inner) ← passOptions ev (rest.length + h.words.length + 2)
                { h with fields := rest, passed := h.passed ++ [name] }
              if runs then findHead fuel { inner with direct := true }
              else
                let options := inner.passed.drop h.passed.length
                return { h with fields := options ++ inner.fields, words := inner.words, path := none }

/-- The fields of the words that are left. -/
def fillAll (h : Head) : Sh (List Letters) := do
  let more ← h.words.mapM fun w =>
    if h.assigns && w.isAssignment then do
      return [← expandText (outputOf ev) Manner.value w]
    else expandFields (outputOf ev) w
  return h.fields ++ more.flatten

/-- Runs a command of the shell under its name. -/
def callBuiltin (name : Option Letters) (work : Sh Nat) : Sh Nat := do
  let saved := (← get).command
  modify fun s => { s with command := name }
  ensuring (do
      let n ← work
      let n ← match ← deliver with
        | none => pure n
        | some _ => do
            warn (name.getD [] ++ ": I/O error".toList)
            pure (n ||| 1)
      setStatus n
      return n)
    (modify fun s => { s with command := saved })

/-- Runs a function with arguments of its own. -/
def callFunction (mode : Mode) (body : Command) (args : List Letters) : Sh Nat := do
  let outer ← get
  modify fun s => { s with args, optionPlace := 1, optionOffset := none, loops := 0 }
  ensuring (do let _ ← ev.run { tested := mode.tested } body)
    (modify fun s => { s with
      args := outer.args
      optionPlace := outer.optionPlace
      optionOffset := outer.optionOffset
      loops := outer.loops
      skip := match s.skip with
        | some (.back _) => none
        | other => other })
  return (← get).status

/-- A text with expansions, as if it stood in the script. -/
def expandLoose (t : Letters) : Sh Letters := do
  let p : PendingText := ⟨0, ['\n'], false, true⟩
  let reading : Reading Word := do
    let first ← Reading.takeJoined
    let s ← Lexer.scan (Parser.substitution (Parser.grammar Parser.maxDepth))
      (Parser.rightParen (Parser.grammar Parser.maxDepth)) (some p) first
    return s.parts.reverse
  match reading { segments := [{ rest := t }] } with
  | .ok w _ => expandText (outputOf ev) Manner.document w
  | .error .. => return t

/-- Shows a command before it is run, where standard error led before its redirections. -/
def trace (before : Redirected) (words : List Letters) : Sh Unit := do
  let s ← get
  if !s.options.contains 'x' then return
  let start ← expandLoose ev ((s.value? "PS4".toList).getD [])
  let channel := match before.lookup stderr with
    | some c => c
    | none => s.process.descriptors.lookup stderr
  let s ← get
  match channel.map fun c => s.kernel.write c (start ++ [' '].intercalate words ++ ['\n']) with
  | some (.ok kernel) => set { s with kernel }
  | _ => return

/-- Gives variables their values; what comes back shows them. -/
def assignAll (isLocal : Bool) (exported : Bool) (assignments : List Word) : Sh (List Letters) :=
  assignments.mapM fun w => do
    let t ← expandText (outputOf ev) Manner.value w
    if isLocal then makeLocal t true
    else
      let (name, value) := splitAssignment t
      setVariable name (value.getD []) exported
    return t

def runFields (mode : Mode) (h : Head) (fields : List Letters) : Sh Nat := do
  match fields with
  | [] => callBuiltin none (return (← get).outputStatus)
  | name :: args =>
      let s ← get
      match if h.direct then none else s.functions.lookup name with
      | some body => callFunction ev mode body args
      | none =>
          match builtin? ev name with
          | some b =>
              tryCatch (callBuiltin (some name) (b.body mode args)) fun f => do
                if f = .failed ∧ h.special ≠ some true then return (← get).status
                throw f
          | none =>
              let path := h.path.getD (searchPath s.toCore)
              if name.contains '/' then runProgram ev mode path name args
              else match programOf s path name with
              | .nothing e =>
                  warn (name ++ ": ".toList ++ startReason e)
                  setStatus 127
                  return 127
              | _ =>
                  if !s.known.contains name then modify fun s => { s with known := name :: s.known }
                  runProgram ev mode path name args

def runSimple (mode : Mode) (assignments words : List Word) (rs : List Redirection) : Sh Nat := do
  modify fun s => { s with outputStatus := 0 }
  let (fields, words) ← fill ev words
  let h ← findHead ev (words.length + fields.length + 1) { fields, words }
  let fields ← fillAll ev h
  let isExec := fields.head? = some "exec".toList && h.special.isSome
  let isLocal := !fields.isEmpty && h.special ≠ some true
  if isLocal then modify fun s => { s with scopes := [] :: s.scopes }
  let targets ← prepareAll (outputOf ev) rs
  ensuring
    (under ev targets isExec (do
        setStatus redirectStatus
        if h.special = some true then throw .failed
        return redirectStatus) fun before => do
      let assigned ← assignAll ev isLocal (isExec && fields.length > 1) assignments
      trace ev before (assigned ++ h.passed ++ fields)
      runFields ev mode h fields)
    (if isLocal then leaveScope else return)

/-! ### Compound commands -/

/-- Runs commands whose output each goes to the next one. -/
def runPipe (mode : Mode) (commands : List Command) : Sh Nat := do
  let statuses ← start none commands
  statuses.forM announce
  afterChild
  return (statuses.getLast?.map codeOf).getD 0
where
  start (input : Option Nat) : List Command → Sh (List ExitStatus)
    | [] => return []
    | c :: cs => do
        let s ← get
        let (kernel, output) := if cs.isEmpty then (s.kernel, none) else
          let (kernel, n) := s.kernel.addPipe
          (kernel, some n)
        set { s with kernel }
        let change (s : Core) : Core :=
          let s := match input with
            | some n => connect stdin (.source n) s
            | none => s
          match output with
          | some n => connect stdout (.sink n) s
          | none => s
        let status ← fork ev change do
          let _ ← ev.run { mode with last := true } c
        match input with
        | some n => modify fun s => { s with kernel := s.kernel.removePipe n }
        | none => pure ()
        return status :: (← start output cs)

/-- Runs a command in a shell of its own, which may be this one if nothing comes after it. -/
def runSubshell (mode : Mode) (c : Command) (rs : List Redirection) : Sh Nat := do
  let targets ← prepareAll (outputOf ev) rs
  let work : Sh Unit := do
    let (_, ok) ← redirect (outputOf ev) [] targets
    if !ok then
      setStatus redirectStatus
      throw .failed
    let _ ← ev.run { mode with last := true } c
  if mode.last && !hasTraps (← get).toCore then
    work
    return (← get).status
  reap (← fork ev id work)

/-- A redirection to what its words have been expanded to. -/
def settled : Target → Redirection
  | .file n direction name => .file n direction (name.map .escaped)
  | .copy n source => .copy n (match source with
      | some m => Word.ofLetters (Letters.ofNat m)
      | none => [.letter '-'])
  | .text n document => .text n document

def runBackground (line : Nat) (c : Command) (rs : List Redirection) : Sh Nat := do
  let targets ← prepareAll (outputOf ev) rs
  startJob (if targets.isEmpty then c else .redirected line c (targets.map settled))
  return 0

/-- Takes notice of commands being passed over, at the end of a round of a loop. -/
def skipRound : Sh (Option Skip) := do
  match (← get).skip with
  | some (.leave n) => counted .leave n
  | some (.again n) => counted .again n
  | other => return other
where
  /-- One loop less has to be left. -/
  counted (again : Nat → Skip) (n : Nat) : Sh (Option Skip) := do
    if n ≤ 1 then
      modify fun s => { s with skip := none }
      return some (again 0)
    modify fun s => { s with skip := some (again (n - 1)) }
    return some (.leave (n - 1))

def goesOn : Option Skip → Bool
  | none | some (.again _) => true
  | _ => false

def inLoop (work : Sh Nat) : Sh Nat := do
  modify fun s => { s with loops := s.loops + 1 }
  let n ← work
  modify fun s => { s with loops := s.loops - 1 }
  return n

/-- Runs a body as long as a condition has a result. -/
def runLoop (mode : Mode) (result : Bool) (condition body : Command) : Sh Nat :=
  inLoop (repeatFrom (fun status => do
    let i ← ev.run { tested := true } condition
    let skip ← skipRound
    match skip with
    | some (.back _) => return (false, i)
    | some s => return (goesOn (some s), status)
    | none =>
        if (i = 0) ≠ result then return (false, status)
        let status ← ev.run { tested := mode.tested } body
        return (goesOn (← skipRound), status)) maxRounds 0)

/-- Runs a body for every value of a variable. -/
def runIteration (mode : Mode) (name : Letters) (words : List Word) (body : Command) : Sh Nat := do
  let values := (← words.mapM (expandFields (outputOf ev))).flatten
  inLoop do
    let (_, status) ← repeatFrom (fun (values, status) => do
      match values with
      | [] => return (false, ([], status))
      | value :: values =>
          setVariable name value
          let status ← ev.run { tested := mode.tested } body
          return (goesOn (← skipRound), (values, status))) maxRounds (values, 0)
    return status

/-- Runs the first clause with a pattern that fits. -/
def runSelection (mode : Mode) (value : Letters) : List (List Word × Command) → Sh Nat
  | [] => return 0
  | (patterns, c) :: clauses => do
      if (← get).skip.isSome then return 0
      let fitting ← patterns.anyM fun w => do
        return (← expandPattern (outputOf ev) w).fits value
      if !fitting then runSelection mode value clauses
      else if isNothing c then return 0
      else ev.run mode c

/-- What a command does. Its status comes back, and whether its failure ends a strict shell. -/
def runOne (mode : Mode) (c : Command) : Sh (Nat × Bool) := do
  let inLine (line : Nat) : Sh Unit := modify fun s => { s with line }
  let plain (work : Sh Nat) : Sh (Nat × Bool) := do return (← work, false)
  let checked (work : Sh Nat) : Sh (Nat × Bool) := do return (← work, true)
  let whole (n : Nat) : Sh (Nat × Bool) := return (n, false)
  match c with
  | .nothing => whole (← get).status
  | .simple line assignments words rs =>
      inLine line
      checked (runSimple ev mode assignments words rs)
  | .pipe cs background =>
      checked (if background then do startJob (.pipe cs false); return 0 else runPipe ev mode cs)
  | .negation c => do whole (if (← ev.run { tested := true } c) = 0 then 1 else 0)
  | .both first second =>
      let n ← ev.run { tested := true } first
      if n ≠ 0 || (← get).skip.isSome then whole (← get).status else plain (ev.run mode second)
  | .either first second =>
      let n ← ev.run { tested := true } first
      if n = 0 || (← get).skip.isSome then whole (← get).status else plain (ev.run mode second)
  | .sequence first second =>
      let _ ← ev.run { tested := mode.tested } first
      if (← get).skip.isSome then whole (← get).status else plain (ev.run mode second)
  | .background line c rs =>
      if line > 0 then inLine line
      checked (runBackground ev line c rs)
  | .subshell line c rs =>
      inLine line
      checked (runSubshell ev mode c rs)
  | .redirected line c rs =>
      inLine line
      let targets ← prepareAll (outputOf ev) rs
      plain (under ev targets false (return redirectStatus) fun _ => ev.run { tested := mode.tested } c)
  | .choice condition yes no =>
      let n ← ev.run { tested := true } condition
      if (← get).skip.isSome then whole (← get).status
      else if n = 0 then plain (ev.run mode yes)
      else match no with
        | some c => plain (ev.run mode c)
        | none => whole 0
  | .loop result condition body => plain (runLoop ev mode result condition body)
  | .iteration line name words body =>
      inLine line
      plain (runIteration ev mode name words body)
  | .selection line word clauses =>
      inLine line
      plain (do runSelection ev mode (← expandText (outputOf ev) Manner.single word) clauses)
  | .definition _ name body =>
      modify fun s => { s with functions := revise name (some body) s.functions }
      whole 0

/-- Runs a command with all that goes with it: signals are heeded before and after it, and
failure ends a strict shell. -/
def evaluate (mode : Mode) (c : Command) : Sh Nat := do
  if !(← hasOption 'n') then
    runTraps ev
    let (n, checked) ← runOne ev mode c
    setStatus n
    runTraps ev
    if checked && n ≠ 0 && !mode.tested && (← hasOption 'e') then throw .finished
  if mode.last then throw .finished
  return (← get).status

end

end TwinRun.Script
