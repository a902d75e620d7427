import TwinRun.Yaml.Token

/-!
Scanning scalars: plain, quoted and block.

Line breaks inside plain and quoted scalars are folded: a single break becomes a space,
further breaks stay. A folded block scalar does the same between lines that do not start
with a blank; a literal one keeps every break.
-/

namespace TwinRun.Yaml

/-! ### Folding -/

/-- Blanks and breaks met since the last character of a scalar. -/
structure Gap where
  /-- Blanks on the line of that character, last one first. -/
  blanks : List Char := []
  /-- Whether a break has been met. -/
  broken : Bool := false
  /-- The first break. -/
  first : List Char := []
  /-- Further breaks, last one first. -/
  more : List Char := []
  deriving DecidableEq, Repr

namespace Gap

/-- A blank; only those before the first break count. -/
def blank (g : Gap) (c : Char) : Gap := if g.broken then g else { g with blanks := c :: g.blanks }

def lineBreak (g : Gap) (b : Char) : Gap :=
  if g.broken then { g with more := b :: g.more }
  else { g with blanks := [], broken := true, first := [b] }

/-- What the gap contributes to the scalar, last character first. -/
def folded (g : Gap) : List Char :=
  if ¬ g.broken then g.blanks
  else if g.first = ['\n'] then (if g.more.isEmpty then [' '] else g.more)
  else g.more ++ g.first

end Gap

/-! ### Plain scalars -/

structure Scanned where
  text : String
  cursor : Cursor
  /-- A plain scalar was followed by a line break. -/
  broken : Bool := false

/-- Whether a plain scalar ends at this character, given what follows. -/
def endsPlain (inFlow : Bool) (c : Char) (rest : List Char) : Bool :=
  (c == ':' && blankOrEnd rest) || (inFlow && isFlowIndicator c)

/-- Scans a plain scalar. `text` holds what has been read, last character first; `gap` the
blanks and breaks since; `indent` is the column that continuation lines must reach. -/
def scanPlain (inFlow : Bool) (indent : Nat) (text : List Char) (gap : Gap) (inGap : Bool) :
    (rest : List Char) → Mark → Except Problem Scanned
  | [], m => .ok ⟨String.ofList text.reverse, ⟨[], m⟩, gap.broken⟩
  | c :: rest, m =>
      let stop : Except Problem Scanned :=
        .ok ⟨String.ofList text.reverse, ⟨c :: rest, m⟩, gap.broken⟩
      if isBlank c then
        if gap.broken && m.column < indent && c == '\t' then .error .tabIndentation
        else scanPlain inFlow indent text (gap.blank c) true rest (Cursor.step c m)
      else if isBreak c then
        scanPlain inFlow indent text (gap.lineBreak c) true rest (Cursor.nextLine m)
      else if inGap && ((!inFlow && m.column < indent)
          || (m.column == 0 && isDocumentMark (c :: rest)) || c == '#') then stop
      else if inFlow && c == ':' && (rest.head?.any fun d => isFlowIndicator d || d == '?') then
        .error .unexpectedColon
      else if endsPlain inFlow c rest then stop
      else scanPlain inFlow indent (c :: (gap.folded ++ text)) {} false rest (Cursor.step c m)

/-! ### Quoted scalars -/

/-- The character after a backslash that stands for a character of its own. -/
def escapedChar? : Char → Option Char
  | '0' => some '\x00'
  | 'a' => some '\x07'
  | 'b' => some '\x08'
  | 't' | '\t' => some '\t'
  | 'n' => some '\n'
  | 'v' => some '\x0b'
  | 'f' => some '\x0c'
  | 'r' => some '\r'
  | 'e' => some '\x1b'
  | ' ' => some ' '
  | '"' => some '"'
  | '/' => some '/'
  | '\\' => some '\\'
  | 'N' => some '\u0085'
  | '_' => some '\u00A0'
  | 'L' => some '\u2028'
  | 'P' => some '\u2029'
  | _ => none

/-- How many hexadecimal digits follow the character after a backslash. -/
def escapeLength? : Char → Option Nat
  | 'x' => some 2
  | 'u' => some 4
  | 'U' => some 8
  | _ => none

def hexValue? (c : Char) : Option Nat :=
  if '0' ≤ c ∧ c ≤ '9' then some (c.toNat - 48)
  else if 'a' ≤ c ∧ c ≤ 'f' then some (c.toNat - 87)
  else if 'A' ≤ c ∧ c ≤ 'F' then some (c.toNat - 55)
  else none

/-- The character with this code, given by `length` hexadecimal digits. -/
def coded? (length : Nat) (digits : List Char) : Option Char :=
  if digits.length < length then none
  else do
    let value ← (digits.take length).foldlM (fun v c => (hexValue? c).map (16 * v + ·)) 0
    if h : value.isValidChar then some (Char.ofNatAux value h) else none

/-- Scans a quoted scalar from behind its opening quote. `owed` characters of an escape
sequence are passed over before the next one is read. -/
def scanQuoted (quote : Char) (text : List Char) (gap : Gap) (owed : Nat) :
    (rest : List Char) → Mark → Except Problem Scanned
  | [], _ => .error .unfinishedScalar
  | c :: rest, m =>
      let text' := gap.folded ++ text
      let next := Cursor.step c m
      if owed > 0 then scanQuoted quote text gap (owed - 1) rest next
      else if m.column == 0 && isDocumentMark (c :: rest) then .error .unfinishedScalar
      else if isBlank c then scanQuoted quote text (gap.blank c) 0 rest next
      else if isBreak c then
        scanQuoted quote text (gap.lineBreak c) 0 rest (Cursor.nextLine m)
      else if c == quote then
        if quote == '\'' && rest.head? == some '\'' then
          scanQuoted quote ('\'' :: text') {} 1 rest next
        else .ok ⟨String.ofList text'.reverse, ⟨rest, next⟩, false⟩
      else if quote == '"' && c == '\\' then
        match rest with
        | [] => .error .badEscape
        | d :: rest' =>
            if isBreak d then scanQuoted quote text' { broken := true } 0 rest' (Cursor.nextLine next)
            else match escapedChar? d, escapeLength? d with
              | some e, _ => scanQuoted quote (e :: text') {} 0 rest' (Cursor.step d next)
              | none, some length =>
                  match coded? length rest' with
                  | some e => scanQuoted quote (e :: text') {} length rest' (Cursor.step d next)
                  | none => .error .badEscape
              | none, none => .error .badEscape
      else scanQuoted quote (c :: text') {} 0 rest next

/-! ### Block scalars -/

/-- What becomes of the line breaks at the end of a block scalar. -/
inductive Chomping where
  | strip
  | clip
  | keep
  deriving DecidableEq, Repr

structure BlockHeader where
  chomping : Chomping := .clip
  /-- Indentation relative to the parent, if given. -/
  increment : Option Nat := none

def chompingOf? : Char → Option Chomping
  | '+' => some .keep
  | '-' => some .strip
  | _ => none

/-- Reads an indentation indicator, which may not be zero. -/
def incrementOf (c : Char) : Except Problem (Option Nat) :=
  if c == '0' then .error .badBlockHeader
  else if c.isDigit then .ok (some (c.toNat - 48))
  else .ok none

/-- Reads the header, its two parts in either order, up to the end of its line. -/
def scanBlockHeader (c : Cursor) : Except Problem (BlockHeader × Cursor) := do
  let (header, c) ← match c.rest with
    | [] => pure (({} : BlockHeader), c)
    | a :: rest =>
        match chompingOf? a with
        | some chomping =>
            match rest with
            | [] => pure ({ chomping }, c.skip 1)
            | b :: _ =>
                match ← incrementOf b with
                | some n => pure ({ chomping, increment := some n }, c.skip 2)
                | none => pure ({ chomping }, c.skip 1)
        | none =>
            match ← incrementOf a with
            | none => pure ({}, c)
            | some n =>
                match rest.head?.bind chompingOf? with
                | some chomping => pure ({ chomping, increment := some n }, c.skip 2)
                | none => pure ({ increment := some n }, c.skip 1)
  let c := c.skipWhile isBlank
  let c := if c.head? == some '#' then c.skipWhile (fun x => !isBreak x) else c
  if breakOrEnd c.rest then pure (header, c.skipBreak) else throw .badBlockHeader

/-- The empty lines in front of a line of content. -/
structure Breaks where
  cursor : Cursor
  /-- The breaks, last one first. -/
  breaks : List Char
  /-- The widest indentation met. -/
  widest : Nat

/-- Passes over indentation and empty lines. With no indentation known yet (`none`) all
spaces are indentation. -/
def scanBreaks (indent : Option Nat) (breaks : List Char) (widest : Nat) :
    (rest : List Char) → Mark → Except Problem Breaks
  | [], m => .ok ⟨⟨[], m⟩, breaks, max widest m.column⟩
  | c :: rest, m =>
      let inside := indent.all (m.column < ·)
      if inside && c == ' ' then scanBreaks indent breaks widest rest (Cursor.step c m)
      else if inside && c == '\t' then .error .tabIndentation
      else if isBreak c then
        scanBreaks indent (c :: breaks) (max widest m.column) rest (Cursor.nextLine m)
      else .ok ⟨⟨c :: rest, m⟩, breaks, max widest m.column⟩

/-- A block scalar between two lines; texts have their last character first. -/
structure BlockText where
  text : List Char := []
  /-- The break after the last line. -/
  leading : List Char := []
  /-- The breaks of the empty lines after it. -/
  trailing : List Char := []
  /-- Whether the last line started with a blank. -/
  blank : Bool := false

/-- Adds a line: first the breaks before it, folded where that applies. -/
def BlockText.addLine (literal : Bool) (b : BlockText) (line : List Char) : BlockText :=
  let blank := line.head?.any isBlank
  let joined :=
    if !literal && b.leading == ['\n'] && !b.blank && !blank then
      (if b.trailing.isEmpty then [' '] else [])
    else b.leading
  { text := line.reverse ++ b.trailing ++ joined ++ b.text, blank }

def BlockText.finish (chomping : Chomping) (b : BlockText) : String :=
  let text := match chomping with
    | .strip => b.text
    | .clip => b.leading ++ b.text
    | .keep => b.trailing ++ b.leading ++ b.text
  String.ofList text.reverse

/-- Scans lines of content as long as they have the indentation. Each takes a character, so
the length of the text bounds their number. -/
def scanBlockLines (literal : Bool) (indent : Nat) (chomping : Chomping) :
    (fuel : Nat) → BlockText → Cursor → Except Problem Scanned
  | 0, b, c => .ok ⟨b.finish chomping, c, false⟩
  | fuel + 1, b, c =>
      if c.mark.column = indent ∧ ¬ c.rest.isEmpty then do
        let line := c.rest.takeWhile (fun x => !isBreak x)
        let b := b.addLine literal line
        let c := c.skip line.length
        let leading := c.breakText
        let c := c.skipBreak
        let breaks ← scanBreaks (some indent) [] 0 c.rest c.mark
        scanBlockLines literal indent chomping fuel
          { b with leading, trailing := breaks.breaks } breaks.cursor
      else .ok ⟨b.finish chomping, c, false⟩

/-- Scans a block scalar from behind its indicator. `parent` is one more than the column of
the enclosing block, or zero at the top. -/
def scanBlock (literal : Bool) (parent : Nat) (c : Cursor) : Except Problem Scanned := do
  let (header, c) ← scanBlockHeader c
  let given := header.increment.map (fun n => if parent = 0 then n else parent - 1 + n)
  let breaks ← scanBreaks given [] 0 c.rest c.mark
  let indent := given.getD (max (max breaks.widest parent) 1)
  scanBlockLines literal indent header.chomping (breaks.cursor.rest.length + 1)
    { trailing := breaks.breaks } breaks.cursor

end TwinRun.Yaml
