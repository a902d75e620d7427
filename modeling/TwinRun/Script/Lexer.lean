import TwinRun.Script.Reader

/-!
Reading words and tokens.

A word is read letter by letter. What a letter means depends on the innermost quotes, braces or
parentheses that are open; they are kept in a stack of layers. An expansion with a word in it is
a level: its parts are collected until its brace is closed. Scripts in substitutions are read by
the parser, which is a parameter here.
-/

namespace TwinRun.Script

/-- The parser, for what the lexer cannot read itself. -/
structure Grammar where
  /-- A list of commands that may be empty. -/
  commands : Reading Command

/-- The surroundings of a letter. -/
inductive Setting where
  /-- Outside of quotes. -/
  | base
  /-- In double quotes. -/
  | double
  /-- In single quotes. -/
  | single
  | arithmetic
  deriving DecidableEq, Repr

/-- A layer of open quotes, braces or parentheses. -/
structure Layer where
  setting : Setting
  /-- Whether we are in double quotes. -/
  doubled : Bool := false
  /-- How many braces are open. -/
  braces : Nat := 0
  /-- How many of them are in double quotes. -/
  quotedBraces : Nat := 0
  /-- Inside double quotes that are inside a brace. -/
  inner : Bool := false
  /-- The layer was added for a brace. -/
  forBrace : Bool := false
  /-- How many parentheses are open. -/
  parens : Nat := 0
  deriving Repr

/-- An expansion whose end has not been read. -/
inductive OpenPart where
  | parameter (name : Letters) (operation : Operation) (colon : Bool)
  | arithmetic

/-- A word being read. Parts are collected with the last first. -/
structure Scan where
  /-- The letter at hand. -/
  letter : Option Char
  parts : Word := []
  /-- Open expansions, each with the parts before it. -/
  levels : List (OpenPart × Word) := []
  layers : List Layer
  quoted : Bool := false
  /-- A line of a text starts here. -/
  lineStart : Bool := true

namespace Scan

def top (s : Scan) : Layer := s.layers.headD { setting := .base }

def modifyTop (s : Scan) (f : Layer → Layer) : Scan :=
  { s with layers := f s.top :: s.layers.tail }

def add (s : Scan) (p : Part) : Scan := { s with parts := p :: s.parts }

/-- Adds a letter, protected where it would mean something else. -/
def addLetter (s : Scan) (c : Char) : Scan := s.add (.letter c)

def addEscaped (s : Scan) (c : Char) : Scan := s.add (.escaped c)

/-- Starts an expansion with a word in it. -/
def push (s : Scan) (p : OpenPart) : Scan :=
  { s with levels := (p, s.parts) :: s.levels, parts := [] }

def pop (s : Scan) : Scan :=
  match s.levels with
  | (.parameter name operation colon, before) :: levels =>
      { s with levels, parts := .parameter name operation colon s.parts.reverse :: before }
  | (.arithmetic, before) :: levels =>
      { s with levels, parts := .arithmetic s.parts.reverse :: before }
  | [] => s

def dropLayer (s : Scan) : Scan := { s with layers := s.layers.tail }

end Scan

/-! ### Letters -/

/-- Letters that patterns and tildes make something of. In quotes they are protected. -/
def isTelling (c : Char) : Bool := "!*?[=~:/-]".toList.contains c

def endsWord (c : Char) : Bool := "<>();&| \t".toList.contains c

namespace Lexer

/-- The next letter of a word. Lines are not joined in single quotes. -/
def following (s : Scan) : Reading Scan := do
  let letter ← if s.top.setting = .single then Reading.take else Reading.takeJoined
  return { s with letter, lineStart := false }

/-- What a backslash does with the letter after it. -/
def backslash (text : Option PendingText) (s : Scan) : Reading Scan := do
  match ← Reading.take with
  | none => return s.addEscaped '\\'
  | some c =>
      let t := s.top
      let kept := t.doubled && c != '\\' && c != '`' && c != '$'
        && (c != '"' || (text.isSome && t.braces == 0)) && (c != '}' || t.braces == 0)
      let s := if kept then s.addEscaped '\\' else s
      return { s.addEscaped c with quoted := true }

def mark (text : Option PendingText) (s : Scan) : Scan :=
  if text.isNone then s.add .quotes else s

/-- Double quotes turn around inside braces. -/
def toggle (text : Option PendingText) (s : Scan) : Scan :=
  mark text (if s.top.braces > 0 then s.modifyTop fun t => { t with inner := !t.inner } else s)

def closeQuotes (text : Option PendingText) (c : Char) (s : Scan) : Scan :=
  if text.isSome && s.top.braces == 0 then s.addLetter c
  else
    let s := if s.top.quotedBraces == 0
      then s.modifyTop fun t => { t with setting := .base, doubled := false } else s
    let s := { s with quoted := true }
    if c = '"' then toggle text s else mark text s

def closeBrace (s : Scan) : Scan :=
  let t := s.top
  if !t.inner && t.braces > 0 then
    let t' := { t with braces := t.braces - 1 }
    let s :=
      if t'.braces = 0 && t.forBrace then s.dropLayer
      else { s with layers :=
          (if t.quotedBraces > 0 then { t' with quotedBraces := t.quotedBraces - 1 } else t') :: s.layers.tail }
    s.pop
  else s.addLetter '}'

def closeParen (s : Scan) : Reading Scan := do
  let t := s.top
  if t.parens > 0 then
    return (s.addLetter ')').modifyTop fun t => { t with parens := t.parens - 1 }
  let c ← Reading.takeJoined
  if c = some ')' then return s.dropLayer.pop
  Reading.giveBack c
  return s.addLetter ')'

/-! ### Substitutions -/

def readScript (work : Reading Command) : Reading Command := do
  let pending := (← get).pending
  modify fun r => { r with pending := [] }
  let c ← work
  modify fun r => { r with pending }
  return c

/-- The script between backquotes. Inside, a backslash protects only a few letters. -/
def backquoted (doubled : Bool) : Reading Letters :=
  Reading.loop (fun (t : Letters) => do
    match ← Reading.takeJoined with
    | some '`' => return .inr t.reverse
    | some '\\' =>
        match ← Reading.take with
        | some c =>
            let bare := c == '\\' || c == '`' || c == '$' || (doubled && c == '"')
            return .inl (c :: if bare then t else '\\' :: t)
        | none => return .inl ('\\' :: t)
    | some '\n' =>
        Reading.nextLine
        return .inl ('\n' :: t)
    | some c => return .inl (c :: t)
    | none => Reading.fail "Syntax error: EOF in backquote substitution") Reading.maxRounds []

def backquotes (g : Grammar) (s : Scan) : Reading Scan := do
  let t ← backquoted s.top.doubled
  let outer ← get
  let c ← readScript do
    modify fun r => { r with segments := [{ rest := t }], line := 1 }
    let c ← g.commands
    modify fun r => { r with segments := outer.segments, line := outer.line, pushedBack := false }
    return c
  return s.add (.output c)

def parentheses (g : Grammar) (s : Scan) (rightParen : Reading Unit) : Reading Scan := do
  let c ← readScript do
    let c ← g.commands
    rightParen
    return c
  return s.add (.output c)

/-- What the letters after a parameter in braces make of its value. The flag tells whether the
pattern that follows is read as outside of quotes. -/
def operation (c : Option Char) : Reading (Operation × Bool × Bool) := do
  let plain (c : Option Char) : Option Operation :=
    match c with
    | some '}' => some .value
    | some '-' => some .orElse
    | some '+' => some .replace
    | some '?' => some .demand
    | some '=' => some .assign
    | _ => none
  let doubledUp (c : Char) : Reading Bool := do
    let d ← Reading.takeJoined
    if d = some c then return true
    Reading.giveBack d
    return false
  match c with
  | some ':' =>
      match plain (← Reading.takeJoined) with
      | some .value | none => return (.invalid, true, false)
      | some o => return (o, true, false)
  | some '%' => return (.dropEnd (← doubledUp '%'), false, true)
  | some '#' => return (.dropStart (← doubledUp '#'), false, true)
  | c => return ((plain c).getD .invalid, false, false)

/-- The name of a parameter, the operation as far as the name tells it, and the letter after
both. -/
def parameterName (inBraces : Bool) (c : Char) : Reading (Letters × Option Operation × Option Char) := do
  if startsName c then
    let (rest, after) ← Reading.takeWhile isNameLetter
    return (c :: rest, none, after)
  if c.isDigit then
    if inBraces then
      let (rest, after) ← Reading.takeWhile Char.isDigit
      return (c :: rest, none, after)
    return ([c], none, ← Reading.takeJoined)
  if c = '}' then return ([], some .invalid, some c)
  let d ← Reading.takeJoined
  if inBraces ∧ c = '#' then
    match d with
    | some d' =>
        if startsName d' then
          let (rest, after) ← Reading.takeWhile isNameLetter
          return (d' :: rest, some .length, after)
        if d'.isDigit then
          let (rest, after) ← Reading.takeWhile Char.isDigit
          return (d' :: rest, some .length, after)
        let e ← Reading.takeJoined
        if d' = '}' ∨ e ≠ some '}' then
          Reading.giveBack e
          return (['#'], none, some d')
        if isSpecialParameter d' then return ([d'], some .length, e)
        return ([], some .invalid, e)
    | none => return (['#'], none, none)
  if isSpecialParameter c then return ([c], none, d)
  return ([], some .invalid, d)

/-- Reads a parameter, from the letter after the dollar sign. -/
def parameter (c : Char) (s : Scan) : Reading Scan := do
  if c ≠ '{' then
    let (name, _, after) ← parameterName false c
    Reading.giveBack after
    return s.add (.parameter name .value false [])
  match ← Reading.takeJoined with
  | none => start [] .invalid false false s
  | some c =>
      let (name, told, after) ← parameterName true c
      match told with
      | some .length =>
          if after = some '}' then
            Reading.giveBack after
            start name .length false false s
          else
            Reading.giveBack after
            start name .invalid false false s
      | some o =>
          Reading.giveBack after
          start name o false false s
      | none =>
          let (o, colon, outside) ← operation after
          if o = .value then return s.add (.parameter name .value false [])
          start name o colon outside s
where
  /-- Starts the word of an expansion in braces. -/
  start (name : Letters) (o : Operation) (colon outside : Bool) (s : Scan) : Reading Scan := do
    let t := s.top
    let setting : Setting :=
      if outside then .base else if t.setting = .arithmetic then .double else t.setting
    let s :=
      if setting ≠ t.setting || t.inner then
        { s with layers :=
            { setting, doubled := setting ≠ .base, forBrace := true } :: s.layers }
      else s
    let s := s.modifyTop fun t =>
      { t with braces := t.braces + 1
               quotedBraces := if t.doubled then t.quotedBraces + 1 else t.quotedBraces }
    return s.push (.parameter name o colon)

def dollar (g : Grammar) (rightParen : Reading Unit) (s : Scan) : Reading Scan := do
  let c ← Reading.takeJoined
  let literal : Reading Scan := do
    Reading.giveBack c
    return s.addLetter '$'
  if (← get).checks.mark then literal
  else match c with
  | some '(' =>
      let d ← Reading.takeJoined
      if d = some '(' then
        return { s with layers := { setting := .arithmetic, doubled := true } :: s.layers }.push .arithmetic
      Reading.giveBack d
      parentheses g s rightParen
  | some c => if c = '{' || startsName c || isSpecialParameter c then parameter c s else literal
  | none => literal

/-! ### Words -/

/-- What is done with a letter: the word goes on, or has ended. -/
def step (g : Grammar) (rightParen : Reading Unit) (text : Option PendingText) (s : Scan) :
    Reading (Scan ⊕ Scan) := do
  let go (work : Reading Scan) : Reading (Scan ⊕ Scan) := do return .inl (← following (← work))
  match s.letter with
  | none => return .inr s
  | some c =>
      let t := s.top
      if c = '\n' then
        if t.setting = .base ∧ t.braces = 0 then return .inr s
        Reading.nextLine
        return .inl { s.addLetter c with letter := ← Reading.take, lineStart := true }
      if t.setting = .single then
        if c = '\'' then go (pure (closeQuotes text c s))
        else go (pure (if text.isNone && (isTelling c || c = '\\') then s.addEscaped c else s.addLetter c))
      else if c = '\\' then go (backslash text s)
      else if c = '`' then
        if (← get).checks.mark then go (pure { s.addLetter c with quoted := true })
        else go (backquotes g s)
      else if c = '$' then go (dollar g rightParen s)
      else if c = '}' then go (pure (closeBrace s))
      else match t.setting with
      | .double =>
          if c = '"' then go (pure (closeQuotes text c s))
          else go (pure (if isTelling c then s.addEscaped c else s.addLetter c))
      | .arithmetic =>
          if c = '(' then go (pure ((s.addLetter c).modifyTop fun t => { t with parens := t.parens + 1 }))
          else if c = ')' then go (closeParen s)
          else go (pure (s.addLetter c))
      | _ =>
          if c = '\'' then go (pure (mark text (s.modifyTop fun t => { t with setting := .single })))
          else if c = '"' then
            go (pure (toggle text (s.modifyTop fun t => { t with setting := .double, doubled := true })))
          else if endsWord c ∧ t.braces = 0 then return .inr s
          else go (pure (s.addLetter c))

/-- At the start of a line of a text: ends the text, if the line is its mark. -/
def atLineStart (text : PendingText) (s : Scan) : Reading Scan := do
  let s ← if text.dropsTabs ∧ s.letter = some '\t' then do
      let tabs := (← Reading.upcoming).takeWhile (· == '\t')
      Reading.dropLetters tabs.length
      pure { s with letter := ← Reading.take }
    else pure s
  match s.letter with
  | none => return s
  | some c =>
      let line := (c :: (← Reading.upcoming)).takeWhile (· ≠ '\n')
      if line = text.mark ∧ c ≠ '\n' then
        Reading.dropLetters text.mark.length
        Reading.nextLine
        return { s with letter := none }
      else if text.mark = [] ∧ c = '\n' then
        Reading.nextLine
        return { s with letter := none }
      return s

/-- Reads a word, or a text up to its mark. -/
def scan (g : Grammar) (rightParen : Reading Unit) (text : Option PendingText) (first : Option Char) :
    Reading Scan := do
  let setting : Setting := match text with
    | none => .base
    | some p => if p.expands then .double else .single
  let start : Scan := { letter := first, layers := [{ setting, doubled := setting = .double }] }
  let s ← Reading.loop (fun s => do
    match text with
    | some p => if s.lineStart then step g rightParen text (← atLineStart p s) else step g rightParen text s
    | none => step g rightParen text s) Reading.maxRounds start
  let t := s.top
  if t.setting = .arithmetic then Reading.fail "Syntax error: Missing '))'"
  if t.setting ≠ .base ∧ text.isNone then Reading.fail "Syntax error: Unterminated quoted string"
  if t.braces ≠ 0 then Reading.fail "Syntax error: Missing '\x7d'"
  return s

def redirection (c : Char) (descriptor : Option Nat) : Reading Token := do
  let d ← Reading.takeJoined
  let open' (redirection : OpenRedirection) : Reading Token := do
    modify fun r => { r with redirection }
    Reading.found .redirection
  let plain (redirection : OpenRedirection) : Reading Token := do
    Reading.giveBack d
    open' redirection
  if c = '>' then
    let n := descriptor.getD 1
    match d with
    | some '>' => open' (.file n .append)
    | some '|' => open' (.file n .replacing)
    | some '&' => open' (.copy n)
    | _ => plain (.file n .output)
  else
    let n := descriptor.getD 0
    match d with
    | some '<' =>
        let e ← Reading.takeJoined
        if e ≠ some '-' then Reading.giveBack e
        open' (.text n (e = some '-'))
    | some '&' => open' (.copy n)
    | some '>' => open' (.file n .both)
    | _ => plain (.file n .input)

/-- Reads a word or, where it is a digit or nothing in front of an angle, a redirection. -/
def word (g : Grammar) (rightParen : Reading Unit) (first : Char) : Reading Token := do
  let s ← scan g rightParen none (some first)
  let descriptor? : Option (Option Nat) :=
    match s.parts with
    | [] => some none
    | [.letter d] => if d.isDigit then some (some (d.toNat - '0'.toNat)) else none
    | _ => none
  match s.letter, descriptor? with
  | some '>', some n => if s.quoted then finish s else redirection '>' n
  | some '<', some n => if s.quoted then finish s else redirection '<' n
  | _, _ => finish s
where
  finish (s : Scan) : Reading Token := do
    Reading.giveBack s.letter
    modify fun r => { r with word := s.parts.reverse, quoted := s.quoted }
    Reading.found .word

/-! ### Tokens -/

def comment : Reading Unit :=
  Reading.loop (fun _ => do
    let c ← Reading.take
    if c = some '\n' ∨ c = none then
      Reading.giveBack c
      return .inr ()
    return .inl ()) Reading.maxRounds ()

def token (g : Grammar) (rightParen : Reading Unit) : Reading Token := do
  let r ← get
  if r.pushedBack then
    set { r with pushedBack := false }
    return r.token
  let twice (c : Char) (one two : Token) : Reading Token := do
    let d ← Reading.takeJoined
    if d = some c then Reading.found two
    else
      Reading.giveBack d
      Reading.found one
  Reading.loop (fun _ => do
    match ← Reading.takeJoined with
    | some ' ' | some '\t' => return .inl ()
    | some '#' =>
        comment
        return .inl ()
    | some '\n' =>
        Reading.nextLine
        return .inr (← Reading.found .newline)
    | none => return .inr (← Reading.found .endOfFile)
    | some '&' => return .inr (← twice '&' .background .and)
    | some '|' => return .inr (← twice '|' .pipe .or)
    | some ';' => return .inr (← twice ';' .semicolon .endClause)
    | some '(' => return .inr (← Reading.found .leftParen)
    | some ')' => return .inr (← Reading.found .rightParen)
    | some c => return .inr (← word g rightParen c)) Reading.maxRounds ()

/-- Reads the texts that are due at a line end. -/
def texts (g : Grammar) (rightParen : Reading Unit) : Reading Unit := do
  let pending := (← get).pending
  modify fun r => { r with pending := [] }
  pending.forM fun p => do
    let first ← if p.expands then Reading.takeJoined else Reading.take
    let s ← scan g rightParen (some p) first
    modify fun r => { r with texts := (p.number, s.parts.reverse) :: r.texts }

/-- Reads the next token with keywords and aliases as they are looked for. -/
def checked (g : Grammar) (rightParen : Reading Unit) : Reading Token := do
  let wanted := (← get).checks
  Reading.loop (fun (wanted : Checks) => do
    let t ← Reading.loop (fun _ => do
      let t ← token g rightParen
      if wanted.newlines ∧ t = .newline then
        texts g rightParen
        Reading.check {}
        return .inl ()
      return .inr t) Reading.maxRounds ()
    let r ← get
    let wanted := wanted.union r.checks
    set { r with checks := {} }
    if t ≠ .word ∨ r.quoted then return .inr t
    match r.word.plain? with
    | none => return .inr t
    | some name =>
        match if wanted.keywords then Keyword.ofLetters? name else none with
        | some k => return .inr (← Reading.found (.keyword k))
        | none =>
            match if wanted.aliases ∧ !r.busy.contains name then r.aliases.lookup name else none with
            | some value =>
                let spaced := value.getLast?.any fun c => c == ' ' || c == '\t'
                unless value.isEmpty do
                  modify fun r => { r with
                    segments := { rest := value, alias? := some name, spaced } :: r.segments
                    busy := name :: r.busy }
                return .inl wanted
            | none => return .inr t) Reading.maxRounds wanted

end Lexer

end TwinRun.Script
