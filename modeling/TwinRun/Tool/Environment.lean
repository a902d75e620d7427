import TwinRun.Tool.Basic

/-!
The environment of a process: showing it, and starting a program in another one.

The options that lead to the other environment may come in one argument, which is split like a
line of a script: at blanks, with quotation marks and backslashes.
-/

namespace TwinRun.Tool

abbrev Environment := List (Letters × Letters)

namespace Environment

/-- Gives a name a value, in its place or at the end. -/
def set (name value : Letters) (known : Environment) : Environment :=
  if known.any (·.1 = name) then known.map fun e => if e.1 = name then (name, value) else e
  else known ++ [(name, value)]

def unset (name : Letters) (known : Environment) : Environment := known.filter (·.1 ≠ name)

def print (ending : Char) (known : Environment) : Job Unit :=
  known.forM fun (name, value) => emit (name ++ '=' :: value ++ [ending])

end Environment

/-- Prints what is in the environment: all of it, or the values of some names. -/
def printenv : Program := withSpec
    { flags := "0", ordered := true, code := 2, long := [⟨"null", '0', none⟩] } fun o => do
  let ending := if o.has '0' then '\x00' else '\n'
  let known : Environment := (← get).process.environment
  if o.operands.isEmpty then known.print ending
  else for name in o.operands do
    match known.lookup name with
    | some value => emit (value ++ [ending])
    | none => endWith 1

/-! ### Splitting -/

inductive SplitProblem where
  | openQuote
  | backslashAtEnd
  | badEscape (c : Char)
  | endInQuotes
  | badVariable (t : Letters)
  deriving DecidableEq, Repr

namespace SplitProblem

def message : SplitProblem → Letters
  | .openQuote => "no terminating quote in -S string".toList
  | .backslashAtEnd => "invalid backslash at end of string in -S".toList
  | .badEscape c => "invalid sequence ".toList ++ ['\'', '\\', c, '\''] ++ " in -S".toList
  | .endInQuotes => "'\\c' must not appear in double-quoted -S string".toList
  | .badVariable t => "only $\x7bVARNAME\x7d expansion is supported, error at: ".toList ++ t

end SplitProblem

structure Splitting where
  /-- The arguments so far, the latest first. -/
  done : List Letters := []
  /-- The argument at hand, backwards. -/
  current : Option Letters := none
  /-- Inside which quotation marks. -/
  mark : Option Char := none
  deriving DecidableEq, Repr

namespace Splitting

def add (s : Splitting) (t : Letters) : Splitting := { s with current := some (t.reverse ++ s.current.getD []) }

def close (s : Splitting) : Splitting :=
  match s.current with
  | some t => { s with done := t.reverse :: s.done, current := none }
  | none => s

def isNameLetter (c : Char) : Bool := c.isAlphanum || c == '_'

/-- The name of a variable in braces, and what follows it. -/
def reference? (t : Letters) : Option (Letters × Letters) :=
  match t with
  | '\x7b' :: rest =>
      let name := rest.takeWhile isNameLetter
      if name.isEmpty ∨ name.head?.any Char.isDigit then none
      else match rest.drop name.length with
      | '\x7d' :: rest => some (name, rest)
      | _ => none
  | _ => none

def split (known : Environment) : (fuel : Nat) → Splitting → Letters → Except SplitProblem (List Letters)
  | 0, s, _ => .ok s.close.done.reverse
  | fuel + 1, s, t =>
      let go := split known fuel
      match t with
      | [] => if s.mark.isSome then .error .openQuote else .ok s.close.done.reverse
      | c :: rest =>
          if (c == '\'' || c == '"') && s.mark.all (· == c) then
            go { s.add [] with mark := if s.mark.isSome then none else some c } rest
          else if Letters.isSpace c && s.mark.isNone then go s.close rest
          else if c == '#' && s.mark.isNone && s.current.isNone then .ok s.close.done.reverse
          else if c == '\\' && !(s.mark = some '\'' && rest.head? ≠ some '\\' && rest.head? ≠ some '\'') then
            match rest with
            | [] => .error .backslashAtEnd
            | d :: rest =>
                if "\"#$'\\".toList.contains d then go (s.add [d]) rest
                else match d with
                | '_' => if s.mark = some '"' then go (s.add [' ']) rest else go s.close rest
                | 'c' => if s.mark = some '"' then .error .endInQuotes else .ok s.close.done.reverse
                | 'f' => go (s.add ['\x0c']) rest
                | 'n' => go (s.add ['\n']) rest
                | 'r' => go (s.add ['\r']) rest
                | 't' => go (s.add ['\t']) rest
                | 'v' => go (s.add ['\x0b']) rest
                | d => .error (.badEscape d)
          else if c == '$' && s.mark ≠ some '\'' then
            match reference? rest with
            | none => .error (.badVariable (c :: rest))
            | some (name, rest) =>
                match known.lookup name with
                | some value => go (s.add value) rest
                | none => go s rest
          else go (s.add [c]) rest

end Splitting

/-! ### Another environment -/

structure Surroundings where
  clear : Bool := false
  unset : List Letters := []
  nul : Bool := false
  directory : Option Letters := none
  verbose : Bool := false
  deriving DecidableEq, Repr

structure Launch where
  program : Letters
  args : List Letters
  environment : Environment
  directory : Location
  deriving DecidableEq, Repr

namespace Launch

def spec : OptionSpec where
  flags := "iv0 \t\n\x0b\x0c\r"
  valued := "uCS"
  long := [⟨"ignore-environment", 'i', none⟩, ⟨"null", '0', none⟩, ⟨"unset", 'u', some true⟩,
    ⟨"chdir", 'C', some true⟩, ⟨"debug", 'v', none⟩, ⟨"split-string", 'S', some true⟩]
  ordered := true
  code := 125

def inLineHint : Letters := "use -[v]S to pass options in shebang lines".toList

/-- Takes one option into account. For one that is split its arguments come back. -/
def take (known : Environment) (s : Surroundings) (c : Char) (value : Letters) :
    Job (Surroundings × List Letters) := do
  match c with
  | 'i' => return ({ s with clear := true }, [])
  | 'v' => return ({ s with verbose := true }, [])
  | '0' => return ({ s with nul := true }, [])
  | 'u' => return ({ s with unset := s.unset ++ [value] }, [])
  | 'C' => return ({ s with directory := some value }, [])
  | 'S' =>
      match Splitting.split known (value.length + 1) {} value with
      | .ok args =>
          if s.verbose then
            tell ("split -S:  ".toList ++ quote value ++ ['\n'])
            let shown := args.map fun a => quote a ++ ['\n']
            tell (" into:    ".toList ++ "     &    ".toList.intercalate shown)
          return (s, args)
      | .error p => fail p.message 125
  | c =>
      warn (OptionProblem.unknownLetter c).message
      misuse inLineHint 125

/-- Reads the options in front of the names and the program. -/
def readOptions (known : Environment) : (fuel : Nat) → Surroundings → List Letters → Job (Surroundings × List Letters)
  | 0, s, args => return (s, args)
  | fuel + 1, s, args => do
      match args with
      | ['-', '-'] :: rest => return (s, rest)
      | ('-' :: c :: cs) :: rest =>
          let given : Except OptionProblem (List (Char × Letters) × List Letters) := do
            if c = '-' then
              let (option, usesNext) ← spec.readNamed cs rest.head?
              return ([option], if usesNext then rest.drop 1 else rest)
            match ← spec.readCluster (c :: cs), rest with
            | (given, none), rest => return (given, rest)
            | (given, some w), value :: rest => return (given ++ [(w, value)], rest)
            | (_, some w), [] => throw (.missingValue w)
          match given with
          | .error p => misuse p.message spec.code
          | .ok (given, rest) =>
              let (s, more) ← given.foldlM (fun (s, more) (c, value) => do
                let (s, args) ← take known s c value
                return (s, more ++ args)) (s, ([] : List Letters))
              readOptions known fuel s (more ++ rest)
      | args => return (s, args)

def directoryOf (path : Letters) : Job Location := do
  let cannot (e : SystemError) : Job Location :=
    fail ("cannot change directory to ".toList ++ quoteName path ++ ": ".toList ++ e.reason) 125
  match ← look fun fs d => fs.find d (pathOf path) true with
  | .ok (l, .directory) => return l
  | .ok _ => cannot .notDirectory
  | .error e => cannot e

/-- Finds out what is to be started. Without a program the environment is printed. -/
def plan (args : List Letters) : Job (Option Launch) := do
  let r ← get
  let known : Environment := r.process.environment
  let total := (args.map List.length).foldl (· + ·) 0
  let (s, rest) ← readOptions known (4 * total + 4 * args.length + 4) {} args
  let (s, rest) := match rest with
    | ['-'] :: rest => ({ s with clear := true }, rest)
    | rest => (s, rest)
  let talk (t : Letters) : Job Unit := if s.verbose then tell (t ++ ['\n']) else pure ()
  let assignments := rest.takeWhile (·.contains '=')
  let command := rest.drop assignments.length
  if s.nul && !command.isEmpty then misuse "cannot specify --null (-0) with command".toList 125
  if s.directory.isSome && command.isEmpty then
    misuse "must specify command with --chdir (-C)".toList 125
  if s.clear then talk "cleaning environ".toList
  else for name in s.unset do
    talk ("unset:    ".toList ++ name)
    if name.isEmpty || name.contains '=' then
      fail ("cannot unset ".toList ++ quote name ++ ": Invalid argument".toList) 125
  let start : Environment := if s.clear then [] else s.unset.foldl (fun known name => known.unset name) known
  let environment ← assignments.foldlM (fun (known : Environment) t => do
    talk ("setenv:   ".toList ++ t)
    let (name, value) := Letters.cut (· == '=') t
    return known.set name (value.getD [])) start
  match command with
  | [] =>
      environment.print (if s.nul then '\x00' else '\n')
      return none
  | program :: args =>
      let directory ← match s.directory with
        | none => pure r.process.directory
        | some path =>
            talk ("chdir:    ".toList ++ quoteName path)
            directoryOf path
      talk ("executing: ".toList ++ program)
      for (a, k) in command.zipIdx do
        talk ("   arg[".toList ++ Letters.ofNat k ++ "]= ".toList ++ quote a)
      return some { program, args, environment, directory }

/-- Tells that the program could not be started. -/
def refuse (program : Letters) (e : SystemError) : Job Unit := do
  warn (quote program ++ ": ".toList ++ e.reason)
  if e = .notFound && program.contains ' ' then warn inLineHint
  endWith (if e = .notFound then 127 else 126)

end Launch

end TwinRun.Tool
