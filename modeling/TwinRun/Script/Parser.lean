import TwinRun.Script.Lexer

/-!
Reading commands.

The grammar is read one complete command at a time, up to the end of a line, so that a command
is run before the next one is read. A command may hold lists of commands, and so may a word in
it; both go back to one function, which is a parameter until the knot is tied by `grammar`.
-/

namespace TwinRun.Script

/-- Commands whose name no function may take. -/
def specialCommands : List String := [
  ".", ":", "break", "continue", "eval", "exec", "exit", "export", "readonly", "return", "set",
  "shift", "times", "trap", "unset"]

/-- What is read as a list of commands. -/
inductive ListKind where
  /-- A line of the script. -/
  | line
  /-- At least one command, up to a keyword or parenthesis. -/
  | block
  /-- Any number of commands. -/
  | loose
  deriving DecidableEq, Repr

/-- The parts of the grammar that refer to themselves. -/
structure Recursion where
  list : ListKind → Reading (Option Command)
  command : Reading Command

namespace Parser

variable (g : Recursion)


/-- What the lexer reads substitutions with. -/
def substitution : Grammar := ⟨do return (← g.list .loose).getD .nothing⟩

/-- Reads the parenthesis that closes a substitution. Texts that it asks for and that have not
come are empty. -/
def closing (token : Reading Token) : Reading Unit := do
  if (← token) ≠ .rightParen then Reading.unexpected (some .rightParen)
  modify fun r => { r with
    texts := r.pending.map (fun p => (p.number, [])) ++ r.texts
    pending := [] }

/-- The parenthesis that closes a substitution; inside it no substitution is read any more. -/
def rightParen : Reading Unit :=
  closing (Lexer.checked (substitution g) (pure ()))

def token : Reading Token := Lexer.checked (substitution g) (rightParen g)

def texts : Reading Unit := Lexer.texts (substitution g) (rightParen g)

def expect (t : Token) : Reading Unit := do
  if (← token g) ≠ t then Reading.unexpected (some t)

/-- Reads a list of commands that has to be there. -/
def block : Reading Command := do return (← g.list .block).getD .nothing

/-! ### Redirections -/

def target : Reading Redirection := do
  let o := (← get).redirection
  match o with
  | .text .. => Reading.check { mark := true }
  | _ => pure ()
  if (← token g) ≠ .word then Reading.unexpected none
  let r ← get
  match o with
  | .file n d => return .file n d r.word
  | .copy n => return .copy n r.word
  | .text n dropsTabs =>
      let p : PendingText := ⟨r.nextText, r.word.literal, dropsTabs, !r.quoted⟩
      set { r with pending := r.pending ++ [p], nextText := r.nextText + 1 }
      return .text n p.number

def redirections : Reading (List Redirection) := do
  Reading.check .command
  Reading.loop (fun (rs : List Redirection) => do
    if (← token g) = .redirection then return .inl ((← target g) :: rs)
    Reading.again
    return .inr rs.reverse) Reading.maxRounds []

/-! ### Simple commands -/

/-- A simple command being read, with the last parts first. -/
structure Simple where
  assignments : List Word := []
  words : List Word := []
  redirections : List Redirection := []

/-- Reads a function, from its opening parenthesis on. -/
def function (name : Word) : Reading Command := do
  expect g .rightParen
  match name.plain? with
  | none => Reading.fail "Syntax error: Bad function name"
  | some name =>
      if !isName name || specialCommands.any (·.toList == name) then
        Reading.fail "Syntax error: Bad function name"
      Reading.check .commandBelow
      let line := (← get).line
      return .definition line name (← g.command)

def simple (line : Nat) : Reading Command :=
  Reading.loop (fun (s : Simple) => do
    Reading.check { aliases := s.words.isEmpty }
    match ← token g with
    | .word =>
        let w := (← get).word
        if s.words.isEmpty && w.isAssignment then return .inl { s with assignments := w :: s.assignments }
        return .inl { s with words := w :: s.words }
    | .redirection => return .inl { s with redirections := (← target g) :: s.redirections }
    | t =>
        match t, s with
        | .leftParen, { assignments := [], words := [name], redirections := [] } =>
            return .inr (← function g name)
        | _, _ =>
            Reading.again
            return .inr (.simple line s.assignments.reverse s.words.reverse s.redirections.reverse))
    Reading.maxRounds {}

/-! ### Compound commands -/

/-- The rest of a choice, after its keyword. -/
def choice : Reading Command := do
  let branch : Reading (Command × Command) := do
    let condition ← block g
    expect g (.keyword .consequence)
    return (condition, ← block g)
  let (branches, no) ← Reading.loop (fun (branches : List (Command × Command)) => do
    let branches := (← branch) :: branches
    match ← token g with
    | .keyword .elseIf => return .inl branches
    | .keyword .otherwise => return .inr (branches, some (← block g))
    | _ =>
        Reading.again
        return .inr (branches, none)) Reading.maxRounds []
  expect g (.keyword .choiceEnd)
  let whole := branches.foldl (fun no (condition, yes) => some (.choice condition yes no)) no
  return whole.getD .nothing

def body : Reading Command := do
  let c ← block g
  expect g (.keyword .bodyEnd)
  return c

/-- The rest of a loop over words. -/
def iteration (line : Nat) : Reading Command := do
  let bad {α : Type} : Reading α := Reading.fail "Syntax error: Bad for loop variable"
  if (← token g) ≠ .word then bad
  let r ← get
  match if r.quoted then none else r.word.plain? with
  | none => bad
  | some name =>
      if !isName name then bad
      Reading.check .commandBelow
      let words ←
        if (← token g) = .keyword .among then do
          let words ← Reading.loop (fun (words : List Word) => do
            if (← token g) = .word then return .inl ((← get).word :: words)
            return .inr words.reverse) Reading.maxRounds []
          let t := (← get).token
          if t ≠ .newline ∧ t ≠ .semicolon then Reading.unexpected none
          pure words
        else do
          if (← get).token ≠ .semicolon then Reading.again
          pure [Word.allArguments]
      Reading.check .commandBelow
      expect g (.keyword .bodyStart)
      return .iteration line name words (← body g)

/-- The patterns of a clause, up to their parenthesis. -/
def patterns : Reading (List Word) :=
  Reading.loop (fun (ps : List Word) => do
    let ps := (← get).word :: ps
    if (← token g) = .pipe then
      let _ ← token g
      return .inl ps
    if (← get).token ≠ .rightParen then Reading.unexpected (some .rightParen)
    return .inr ps.reverse) Reading.maxRounds []

def selection (line : Nat) : Reading Command := do
  expect g .word
  let word := (← get).word
  Reading.check .commandBelow
  expect g (.keyword .among)
  let start : Checks := { newlines := true, keywords := true }
  let clauses ← Reading.loop (fun (clauses : List (List Word × Command)) => do
    Reading.check start
    let t ← token g
    if t = .keyword .selectionEnd then return .inr clauses.reverse
    if t = .leftParen then
      let _ ← token g
    let ps ← patterns g
    let c := (← g.list .loose).getD .nothing
    let clauses := (ps, c) :: clauses
    Reading.check start
    match ← token g with
    | .keyword .selectionEnd => return .inr clauses.reverse
    | .endClause => return .inl clauses
    | _ => Reading.unexpected (some .endClause)) Reading.maxRounds []
  return .selection line word clauses

def command : Reading Command := do
  let line := (← get).line
  let compound (c : Command) : Reading Command := do
    let rs ← redirections g
    if rs.isEmpty then return c
    match c with
    | .subshell line c _ => return .subshell line c rs
    | c => return .redirected line c rs
  match ← token g with
  | .keyword .choice => compound (← choice g)
  | .keyword .repeatWhile | .keyword .repeatUntil =>
      let result := (← get).token = .keyword .repeatWhile
      let condition ← block g
      expect g (.keyword .bodyStart)
      compound (.loop result condition (← body g))
  | .keyword .iteration => compound (← iteration g line)
  | .keyword .selection => compound (← selection g line)
  | .leftParen =>
      let c ← block g
      expect g .rightParen
      compound (.subshell line c [])
  | .keyword .groupStart =>
      let c ← block g
      expect g (.keyword .groupEnd)
      compound c
  | .word | .redirection =>
      Reading.again
      simple g line
  | _ => Reading.unexpected none

def pipeline : Reading Command := do
  let negated := (← token g) = .keyword .negation
  if negated then Reading.check .command else Reading.again
  let first ← command g
  let rest ← Reading.loop (fun (rest : List Command) => do
    if (← token g) = .pipe then
      Reading.check .commandBelow
      return .inl ((← command g) :: rest)
    Reading.again
    return .inr rest.reverse) Reading.maxRounds []
  let c := if rest.isEmpty then first else .pipe (first :: rest) false
  return if negated then .negation c else c

/-- Reads commands joined by `&&` and `||`. -/
def conditional : Reading Command := do
  let first ← pipeline g
  Reading.loop (fun (c : Command) => do
    match ← token g with
    | .and =>
        Reading.check .commandBelow
        return .inl (.both c (← pipeline g))
    | .or =>
        Reading.check .commandBelow
        return .inl (.either c (← pipeline g))
    | _ =>
        Reading.again
        return .inr c) Reading.maxRounds first

def inBackground : Command → Command
  | .pipe cs _ => .pipe cs true
  | .redirected line c rs => .background line c rs
  | c => .background 0 c []

/-- Reads a list of commands. Nothing comes back at the end of the script. -/
def list (kind : ListKind) : Reading (Option Command) := do
  let checks : Checks := { Checks.command with newlines := kind ≠ .line }
  Reading.loop (fun (found : Option Command) => do
    Reading.check checks
    let t ← token g
    if t = .newline then
      texts g
      return .inr (some (found.getD .nothing))
    if t = .endOfFile then return .inr (← ended found)
    Reading.again
    if t.endsList && (kind = .loose || (kind = .block && found.isSome)) then
      return .inr (some (found.getD .nothing))
    let c ← conditional g
    let t ← token g
    let c := if t = .background then inBackground c else c
    let found := match found with
      | none => c
      | some before => .sequence before c
    match t with
    | .endOfFile => return .inr (← ended (some found))
    | .newline =>
        Reading.again
        return .inl (some found)
    | .background | .semicolon => return .inl (some found)
    | _ =>
        if kind = .line then Reading.unexpected none
        Reading.again
        return .inr (some found)) Reading.maxRounds none
where
  ended (found : Option Command) : Reading (Option Command) := do
    texts g
    modify fun r => { r with token := .endOfFile, pushedBack := true }
    return if kind = .line then found else some (found.getD .nothing)

/-- The grammar, for scripts whose commands do not stand deeper in one another. -/
def grammar : (depth : Nat) → Recursion
  | 0 => ⟨fun _ => Reading.fail "Syntax error: too deep", Reading.fail "Syntax error: too deep"⟩
  | depth + 1 =>
      let g := grammar depth
      ⟨list g, command g⟩

/-- How deep commands may stand in one another. -/
def maxDepth : Nat := 400

/-- Reads the next line with all that belongs to it; nothing at the end. -/
def next : Reading (Option Command) := do
  modify fun r => { r with pushedBack := false, checks := {}, pending := [] }
  (grammar maxDepth).list .line

def atEnd (r : Reader) : Bool := r.pushedBack && r.token = .endOfFile

end Parser

end TwinRun.Script
