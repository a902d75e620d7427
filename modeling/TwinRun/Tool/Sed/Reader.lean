import TwinRun.Tool.Regex.Reader
import TwinRun.Tool.Sed.Basic

/-!
Reading scripts of the stream editor.

A problem is told with the number of letters that have been read when it is found.
-/

namespace TwinRun.Tool.Sed

structure Source where
  rest : Letters
  /-- How many letters have been read. -/
  used : Nat := 0
  /-- How many blocks are open. -/
  blocks : Nat := 0
  /-- This is the start of the whole script. -/
  first : Bool := false
  /-- The script asks to print nothing of itself. -/
  quiet : Bool := false
  deriving DecidableEq, Repr

/-- What is wrong with a script, and where. -/
structure Problem where
  place : Nat
  message : Letters
  deriving DecidableEq, Repr

/-- Reading, which may fail. -/
abbrev Reading := EStateM Problem Source

namespace Reading

def bad {α : Type} (message : Letters) : Reading α := do throw ⟨(← get).used, message⟩

def refuse {α : Type} (message : String) : Reading α := bad message.toList

def next : Reading (Option Char) := do
  let s ← get
  match s.rest with
  | [] => return none
  | c :: rest =>
      set { s with rest, used := s.used + 1 }
      return some c

/-- Gives a letter back that has been taken. -/
def back (c : Option Char) : Reading Unit :=
  match c with
  | some c => modify fun s => { s with rest := c :: s.rest, used := s.used - 1 }
  | none => pure ()

def takeWhile (p : Char → Bool) : Reading Letters := do
  let s ← get
  let t := s.rest.takeWhile p
  set { s with rest := s.rest.drop t.length, used := s.used + t.length }
  return t

def isBlank (c : Char) : Bool := c == ' ' || c == '\t'

/-- Takes the next letter that is no blank. -/
def nextVisible : Reading (Option Char) := do
  let _ ← takeWhile isBlank
  next

/-- Takes a number; zero, if there is none. -/
def number : Reading Nat := do return Letters.valueIn 10 (← takeWhile Char.isDigit)

def endOfInstruction : Reading Unit := do
  let c ← nextVisible
  match c with
  | none | some '\n' | some ';' => return
  | some '\x7d' | some '#' => back c
  | some _ => refuse "extra characters after command"

/-- Takes a name that ends with the line. -/
def fileName : Reading Letters := do
  let _ ← takeWhile isBlank
  let t ← takeWhile (· != '\n')
  let _ ← next
  if t.isEmpty then refuse "missing filename in r/R/w/W commands"
  return t

def labelName : Reading Letters := do
  let _ ← takeWhile isBlank
  takeWhile fun c => !(Letters.isSpace c || c == ';' || c == '\x7d')

/-! ### Delimited texts -/

/-- How much of a text belongs to brackets that have been opened, with the closing one. -/
def bracketLength (t : Letters) : Nat :=
  let start := match t with
    | '^' :: ']' :: _ => 2
    | '^' :: _ | ']' :: _ => 1
    | _ => 0
  go (t.length + 1) start (t.drop start)
where
  go : Nat → Nat → Letters → Nat
    | 0, n, _ | _, n, [] => n
    | _, n, ']' :: _ => n + 1
    | fuel + 1, n, '[' :: c :: rest =>
        if [':', '.', '='].contains c then
          match Regex.upTo c rest with
          | some (name, after) => go fuel (n + name.length + 4) after
          | none => go fuel (n + 1) (c :: rest)
        else go fuel (n + 1) (c :: rest)
    | fuel + 1, n, _ :: rest => go fuel (n + 1) rest

/-- Takes a text up to a delimiter, which a backslash makes an ordinary letter; in a pattern,
brackets do so, too. Nothing, if the delimiter is missing. -/
def delimited (delimiter : Char) (isPattern : Bool) : (fuel : Nat) → Letters → Reading (Option Letters)
  | 0, _ => return none
  | fuel + 1, done => do
      match ← next with
      | none => return none
      | some '\n' =>
          back (some '\n')
          return none
      | some '\\' =>
          if delimiter = '\\' then return some done.reverse
          match ← next with
          | none => return none
          | some c =>
              if c = delimiter then
                delimited delimiter isPattern fuel (if !isPattern && c = '&' then c :: '\\' :: done else c :: done)
              else if isPattern && c = '\n' then delimited delimiter isPattern fuel ('\n' :: done)
              else delimited delimiter isPattern fuel (c :: '\\' :: done)
      | some c =>
          if c = delimiter then return some done.reverse
          if isPattern && c = '[' then
            let s ← get
            let n := bracketLength s.rest
            let inner := s.rest.take n
            if inner.contains '\n' then
              set { s with rest := s.rest.dropWhile (· != '\n'), used := s.used + (s.rest.takeWhile (· != '\n')).length }
              return none
            set { s with rest := s.rest.drop n, used := s.used + n }
            delimited delimiter isPattern fuel (inner.reverse ++ '[' :: done)
          else delimited delimiter isPattern fuel (c :: done)

def text (delimiter : Char) (isPattern : Bool) : Reading (Option Letters) := do
  delimited delimiter isPattern ((← get).rest.length + 1) []

end Reading

open Reading

/-! ### Escapes -/

/-- A letter that is given by its number behind a backslash, and what follows it. -/
def numbered? : Letters → Option (Char × Letters)
  | kind :: rest =>
      let base := match kind with
        | 'd' => 10
        | 'o' => 8
        | 'x' => 16
        | _ => 0
      let digits := if base = 0 then [] else Letters.digitsIn base (rest.take (if base = 16 then 2 else 3))
      if digits.isEmpty then none
      else some (Char.ofNat (Letters.valueIn base digits % 256), rest.drop digits.length)
  | [] => none

/-- A letter that a letter behind a backslash stands for. -/
def namedLetter? : Char → Option Char
  | 'a' => some '\x07'
  | 'f' => some '\x0c'
  | 'n' => some '\n'
  | 'r' => some '\r'
  | 't' => some '\t'
  | 'v' => some '\x0b'
  | _ => none

/-- Resolves letters that are given by number in a pattern; they stand for themselves. -/
def resolveNumbered : (fuel : Nat) → Letters → Letters
  | 0, t => t
  | _, [] => []
  | fuel + 1, '\\' :: rest =>
      match numbered? rest with
      | some (c, rest) =>
          (if "*.[]\\^$/+?\x7b\x7d()|".toList.contains c then ['\\', c] else [c]) ++ resolveNumbered fuel rest
      | none =>
          match rest with
          | c :: rest => '\\' :: c :: resolveNumbered fuel rest
          | [] => ['\\']
  | fuel + 1, c :: rest => c :: resolveNumbered fuel rest

/-- Compiles a pattern; an empty one is the one used last. -/
def readPattern (extended : Bool) (manner : Regex.Manner) (t : Letters) : Reading Pattern := do
  if t.isEmpty then return ⟨none, manner⟩
  match Regex.read { extended, escapes := true, strict := true } (resolveNumbered (t.length + 1) t) with
  | .ok r => return ⟨some r, manner⟩
  | .error p => bad p.message

def consText (t : Letters) : List Replacement → List Replacement
  | .text u :: rest => .text (t ++ u) :: rest
  | rest => .text t :: rest

def readReplacement : (fuel : Nat) → Letters → List Replacement
  | 0, _ | _, [] => []
  | fuel + 1, '\\' :: c :: rest =>
      if c.isDigit then .group (c.toNat - '0'.toNat) :: readReplacement fuel rest
      else match c with
      | 'U' => .casing .upper :: readReplacement fuel rest
      | 'L' => .casing .lower :: readReplacement fuel rest
      | 'E' => .casing .keep :: readReplacement fuel rest
      | 'u' => .next .upper :: readReplacement fuel rest
      | 'l' => .next .lower :: readReplacement fuel rest
      | c =>
          match numbered? (c :: rest), namedLetter? c with
          | some (d, rest), _ => consText [d] (readReplacement fuel rest)
          | none, some d => consText [d] (readReplacement fuel rest)
          | none, none => consText [c] (readReplacement fuel rest)
  | fuel + 1, '&' :: rest => .group 0 :: readReplacement fuel rest
  | fuel + 1, c :: rest => consText [c] (readReplacement fuel rest)

/-- What backslashes make of the letters in a translation. -/
def unescape : Letters → Letters
  | '\\' :: c :: rest => (namedLetter? c).getD c :: unescape rest
  | c :: rest => c :: unescape rest
  | [] => []

/-! ### Addresses -/

/-- Takes the letters behind the pattern of an address. -/
def patternFlags : (fuel : Nat) → Regex.Manner → Reading Regex.Manner
  | 0, m => return m
  | fuel + 1, m => do
      let c ← nextVisible
      match c with
      | some 'I' => patternFlags fuel { m with ignoreCase := true }
      | some 'M' => patternFlags fuel { m with lines := true }
      | c =>
          back c
          return m

/-- Reads the address that starts with a letter, if one does. -/
def readAddress (extended : Bool) (c : Option Char) : Reading (Option (Address ⊕ RangeEnd)) := do
  match c with
  | some '$' => return some (.inl .last)
  | some '/' => pattern '/'
  | some '\\' =>
      match ← next with
      | some d => pattern d
      | none => refuse "unterminated address regex"
  | some '+' =>
      let _ ← takeWhile isBlank
      return some (.inr (.after (← number)))
  | some '~' =>
      let _ ← takeWhile isBlank
      return some (.inr (.multiple (← number)))
  | some d =>
      if !d.isDigit then return none
      back c
      let n ← number
      let c ← nextVisible
      if c ≠ some '~' then
        back c
        return some (.inl (.line n))
      let _ ← takeWhile isBlank
      let step ← number
      return some (.inl (if step = 0 then .line n else .every n step))
  | none => return none
where
  pattern (delimiter : Char) : Reading (Option (Address ⊕ RangeEnd)) := do
    match ← text delimiter true with
    | none => refuse "unterminated address regex"
    | some t =>
        let manner ← patternFlags ((← get).rest.length + 1) {}
        return some (.inl (.matching (← readPattern extended manner t)))

/-- Reads the addresses of an instruction. What comes back with them is the letter behind them. -/
def readSelection (extended : Bool) (c : Option Char) : Reading (Selection × Option Char) := do
  match ← readAddress extended c with
  | none => return (.all, c)
  | some (.inr _) => refuse "invalid usage of +N or ~N as first address"
  | some (.inl a) =>
      let c ← nextVisible
      if c ≠ some ',' then
        if a = .line 0 then refuse "invalid usage of line address 0"
        return (.one a, c)
      match ← readAddress extended (← nextVisible) with
      | none => refuse "unexpected `,'"
      | some stop =>
          let c ← nextVisible
          let stop := match stop with
            | .inl b => .at b
            | .inr b => b
          let isPattern := match stop with
            | .at (.matching _) => true
            | _ => false
          if a = .line 0 ∧ isPattern = false then refuse "invalid usage of line address 0"
          return (.range a stop, c)

/-! ### Texts -/

/-- Takes the text of an instruction up to the end of its last line. -/
def readTextLines : (fuel : Nat) → Reading Letters
  | 0 => return []
  | fuel + 1 => do
      match ← next with
      | none | some '\n' => return ['\n']
      | some '\\' =>
          match ← next with
          | none => return ['\n']
          | some c =>
              let s ← get
              match numbered? (c :: s.rest) with
              | some (d, rest) =>
                  set { s with rest, used := s.used + (s.rest.length - rest.length) }
                  return d :: (← readTextLines fuel)
              | none => return (namedLetter? c).getD c :: (← readTextLines fuel)
      | some c => return c :: (← readTextLines fuel)

/-- Takes the text of an instruction: what stands in the line, or in the lines after a
backslash. -/
def readText : Reading Letters := do
  let c ← nextVisible
  match c with
  | none => refuse "expected \\ after `a', `c' or `i'"
  | some '\\' =>
      let blanks ← takeWhile isBlank
      match ← next with
      | none => return []
      | some '\n' =>
          if (← get).rest.isEmpty then return []
          body
      | d =>
          back d
          return blanks ++ (← body)
  | c =>
      back c
      body
where
  body : Reading Letters := do readTextLines ((← get).rest.length + 1)

/-! ### Instructions -/

def readFlags : (fuel : Nat) → (seen : Option Nat) → Substitution → Reading Substitution
  | 0, _, s => return s
  | fuel + 1, seen, s => do
      let c ← next
      match c with
      | some 'i' | some 'I' => readFlags fuel seen { s with pattern := { s.pattern with manner := { s.pattern.manner with ignoreCase := true } } }
      | some 'm' | some 'M' => readFlags fuel seen { s with pattern := { s.pattern with manner := { s.pattern.manner with lines := true } } }
      | some 'p' =>
          if s.print then refuse "multiple `p' options to `s' command"
          readFlags fuel seen { s with print := true }
      | some 'g' =>
          if s.global then refuse "multiple `g' options to `s' command"
          readFlags fuel seen { s with global := true }
      | some 'w' => return { s with file := some (← fileName) }
      | some '\x7d' | some '#' =>
          back c
          return s
      | none | some '\n' | some ';' => return s
      | some d =>
          if isBlank d then readFlags fuel seen s
          else if d.isDigit then
            if seen.isSome then refuse "multiple number options to `s' command"
            back c
            let n ← number
            if n = 0 then refuse "number option to `s' command may not be zero"
            readFlags fuel (some n) { s with occurrence := n }
          else refuse "unknown option to `s'"

def readSubstitution (extended : Bool) : Reading Action := do
  let unterminated {α : Type} : Reading α := refuse "unterminated `s' command"
  match ← next with
  | none | some '\n' | some '\\' => unterminated
  | some delimiter =>
      let some pattern ← text delimiter true | unterminated
      let some replacement ← text delimiter false | unterminated
      let parts := readReplacement (replacement.length + 1) replacement
      let s ← readFlags ((← get).rest.length + 1) none { pattern := ⟨none, {}⟩, replacement := parts }
      let p ← readPattern extended s.pattern.manner pattern
      let highest := parts.foldl (fun n part =>
        match part with
        | .group k => max n k
        | _ => n) 0
      match p.regex with
      | some r =>
          if r.groupCount < highest then
            bad ("invalid reference \\".toList ++ Letters.ofNat highest ++ " on `s' command's RHS".toList)
      | none => pure ()
      return .substitute { s with pattern := p }

def readTranslation : Reading Action := do
  let unterminated {α : Type} : Reading α := refuse "unterminated `y' command"
  match ← next with
  | none | some '\n' | some '\\' => unterminated
  | some delimiter =>
      let some source ← text delimiter false | unterminated
      let some target ← text delimiter false | unterminated
      let source := unescape source
      let target := unescape target
      if source.length ≠ target.length then refuse "strings for `y' command are different lengths"
      endOfInstruction
      return .translate (source.zip target)

def readAction (extended : Bool) (selection : Selection) (c : Char) : Reading Action := do
  let plain (a : Action) : Reading Action := do
    endOfInstruction
    return a
  let counted : Reading (Option Nat) := do
    let c ← nextVisible
    back c
    let n ← if c.any Char.isDigit then some <$> number else pure none
    endOfInstruction
    return n
  let quit (print : Bool) : Reading Action := do
    match selection with
    | .range _ _ => refuse "command only uses one address"
    | _ => return .quit print ((← counted).getD 0)
  match c with
  | 'p' => plain .print
  | 'P' => plain .printFirstLine
  | 'd' => plain .delete
  | 'D' => plain .deleteFirstLine
  | 'n' => plain .next
  | 'N' => plain .joinNext
  | '=' => plain .number
  | 'F' => plain .fileName
  | 'z' => plain .empty
  | 'h' => plain .hold
  | 'H' => plain .holdMore
  | 'g' => plain .get
  | 'G' => plain .getMore
  | 'x' => plain .exchange
  | 'l' => return .display (← counted)
  | 'q' => quit true
  | 'Q' => quit false
  | 'a' => return .append (← readText)
  | 'i' => return .insert (← readText)
  | 'c' => return .change (← readText)
  | 'r' => return .readFile (← fileName)
  | 'R' => return .readLine (← fileName)
  | 'w' => return .writeLine (← fileName)
  | 'W' => return .writeFirstLine (← fileName)
  | 'b' => do
      let l ← labelName
      plain (.jump l)
  | 't' => do
      let l ← labelName
      plain (.jumpIfReplaced l)
  | 'T' => do
      let l ← labelName
      plain (.jumpUnlessReplaced l)
  | ':' =>
      if selection ≠ .all then refuse ": doesn't want any addresses"
      let l ← labelName
      if l.isEmpty then refuse "\":\" lacks a label"
      return .label l
  | 's' => readSubstitution extended
  | 'y' => readTranslation
  | '\x7b' =>
      modify fun s => { s with blocks := s.blocks + 1 }
      return .open
  | '\x7d' =>
      let s ← get
      if s.blocks = 0 then refuse "unexpected `\x7d'"
      if selection ≠ .all then refuse "\x7d doesn't want any addresses"
      set { s with blocks := s.blocks - 1 }
      plain .close
  | c => bad ("unknown command: `".toList ++ c :: ['\''])

/-- Passes over a comment. One at the very start may ask for quiet. -/
def readComment : Reading Unit := do
  let s ← get
  let t ← takeWhile (· != '\n')
  let _ ← next
  if t = ['n'] ∧ s.first ∧ s.used = 1 then modify fun s => { s with quiet := true }

def readInstructions (extended : Bool) : (fuel : Nat) → Reading (List Instruction)
  | 0 => return []
  | fuel + 1 => do
      let _ ← takeWhile fun c => Letters.isSpace c || c == ';'
      let c ← next
      if c.isNone then return []
      let (selection, c) ← readSelection extended c
      let (negated, c) ← if c = some '!' then do
          let c ← nextVisible
          if c = some '!' then refuse "multiple `!'s"
          pure (true, c)
        else pure (false, c)
      match c with
      | none => refuse "missing command"
      | some '#' =>
          if selection ≠ .all then refuse "comments don't accept any addresses"
          readComment
          readInstructions extended fuel
      | some c =>
          let action ← readAction extended selection c
          return ⟨selection, negated, action⟩ :: (← readInstructions extended fuel)

def readPiece (extended : Bool) (first : Bool) (blocks : Nat) (t : Letters) :
    Except Problem (List Instruction × Source) :=
  match readInstructions extended (t.length + 1) { rest := t, first, blocks } with
  | .ok is s => .ok (is, s)
  | .error p _ => .error p

end TwinRun.Tool.Sed
