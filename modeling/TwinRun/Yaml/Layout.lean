import TwinRun.Yaml.Property
import TwinRun.Yaml.Scalar

/-!
The tokens of a text.

Besides the tokens that characters stand for there are those that indentation stands for:
a line further to the right opens a block, one further to the left closes it. And a colon
turns what stands before it into a key. As that is noticed late, the place where a key may
have started is remembered, and the tokens that announce the key go there once its colon
is met. A key ends on its line and within 1024 bytes.
-/

namespace TwinRun.Yaml

/-- A place where a key may have started. -/
structure PossibleKey where
  /-- How many tokens stand before it. -/
  position : Nat
  mark : Mark
  /-- Whether only a key may stand here. -/
  required : Bool
  deriving DecidableEq, Repr

/-- The longest distance between the start of a key and its colon. -/
def maxKeyLength : Nat := 1024

/-- The state between two tokens. -/
structure Layout where
  cursor : Cursor
  /-- The tokens so far, last one first. -/
  tokens : List Token := []
  /-- The columns of the open blocks, innermost first. -/
  blocks : List Nat := []
  /-- The possible key in the innermost collection. -/
  key : Option PossibleKey := none
  /-- Those of the collections around it, one for each open flow collection. -/
  outerKeys : List (Option PossibleKey) := []
  /-- Whether a key may start here. -/
  keyAllowed : Bool := true
  deriving DecidableEq, Repr

namespace Layout

def inFlow (l : Layout) : Bool := !l.outerKeys.isEmpty

def column (l : Layout) : Nat := l.cursor.mark.column

def inside (l : Layout) : Nat :=
  match l.blocks with
  | [] => 0
  | column :: _ => column + 1

def emit (l : Layout) (t : Token) : Layout := { l with tokens := t :: l.tokens }

/-- Puts a token in the place where `position` tokens stand before it. -/
def insert (l : Layout) (position : Nat) (t : Token) : Layout :=
  let later := l.tokens.length - position
  { l with tokens := l.tokens.take later ++ t :: l.tokens.drop later }

/-- Opens a block at a column, unless one is open there. -/
def openBlock (l : Layout) (column position : Nat) (t : Token) : Layout :=
  if l.inFlow || column < l.inside then l
  else { l.insert position t with blocks := column :: l.blocks }

def openBlockHere (l : Layout) (t : Token) : Layout := l.openBlock l.column l.tokens.length t

/-- Closes the blocks at or behind a column. Flow collections ignore indentation. -/
def closeBlocks (l : Layout) (column : Nat) : Layout :=
  if l.inFlow then l
  else
    let closed := l.blocks.takeWhile (column ≤ ·)
    { l with
      blocks := l.blocks.drop closed.length
      tokens := List.replicate closed.length .blockEnd ++ l.tokens }

/-! ### Possible keys -/

def withoutKey : Option PossibleKey → Except Problem (Option PossibleKey)
  | none => .ok none
  | some k => if k.required then .error .missingColon else .ok none

/-- Gives up the key in the innermost collection. -/
def dropKey (l : Layout) : Except Problem Layout := do
  return { l with key := ← withoutKey l.key }

/-- Remembers that a key may start here, if it may. -/
def saveKey (l : Layout) : Except Problem Layout := do
  if !l.keyAllowed then return l
  let l ← l.dropKey
  return { l with key := some ⟨l.tokens.length, l.cursor.mark, !l.inFlow && l.inside = l.column + 1⟩ }

/-- Gives up a key that started too far away. -/
def expireKey (m : Mark) (key : Option PossibleKey) : Except Problem (Option PossibleKey) :=
  match key with
  | none => .ok none
  | some k =>
      if k.mark.line < m.line || k.mark.index + maxKeyLength < m.index then withoutKey key
      else .ok key

def expireKeys (l : Layout) : Except Problem Layout := do
  let outerKeys ← l.outerKeys.mapM (expireKey l.cursor.mark)
  return { l with key := ← expireKey l.cursor.mark l.key, outerKeys }

/-! ### Between tokens -/

/-- Passes over blanks, comments and breaks. In a block a break allows a key again, and
where a key may start no tab is passed over. A byte order mark may start a line. -/
def passBlanks (inFlow : Bool) : (keyAllowed comment : Bool) → List Char → Mark → Bool × Cursor
  | keyAllowed, _, [], m => (keyAllowed, ⟨[], m⟩)
  | keyAllowed, comment, c :: rest, m =>
      if isBreak c then passBlanks inFlow (keyAllowed || !inFlow) false rest (Cursor.nextLine m)
      else if comment || c == ' ' || (c == '\t' && (inFlow || !keyAllowed))
          || (c == byteOrderMark && m.column == 0) then
        passBlanks inFlow keyAllowed comment rest (Cursor.step c m)
      else if c == '#' then passBlanks inFlow keyAllowed true rest (Cursor.step c m)
      else (keyAllowed, ⟨c :: rest, m⟩)

def toNextToken (l : Layout) : Layout :=
  let (keyAllowed, cursor) := passBlanks l.inFlow l.keyAllowed false l.cursor.rest l.cursor.mark
  { l with keyAllowed, cursor }

/-! ### Tokens -/

/-- Passes over the characters of a token. -/
def skip (l : Layout) (n : Nat) : Layout := { l with cursor := l.cursor.skip n }

/-- Ends everything that cannot reach into another document. -/
def leaveDocument (l : Layout) : Except Problem Layout := do
  return { ← (l.closeBlocks 0).dropKey with keyAllowed := false }

def directive (l : Layout) : Except Problem Layout := do
  let l ← l.leaveDocument
  let (token, cursor) ← scanDirective (l.cursor.skip 1)
  return { l with cursor }.emit token

def documentMark (l : Layout) (t : Token) : Except Problem Layout := do
  return (← l.leaveDocument).emit t |>.skip 3

def openFlow (l : Layout) (t : Token) : Except Problem Layout := do
  let l ← l.saveKey
  return { l with key := none, outerKeys := l.key :: l.outerKeys, keyAllowed := true }
    |>.emit t |>.skip 1

def closeFlow (l : Layout) (t : Token) : Except Problem Layout := do
  let l ← l.dropKey
  return { l with
      key := l.outerKeys.head?.join, outerKeys := l.outerKeys.tail, keyAllowed := false }
    |>.emit t |>.skip 1

def flowEntry (l : Layout) : Except Problem Layout := do
  return { ← l.dropKey with keyAllowed := true } |>.emit .flowEntry |>.skip 1

/-- Opens a block for an indicator that stands where a key might start. -/
def openFor (l : Layout) (t : Token) (problem : Problem) : Except Problem Layout :=
  if l.inFlow then .ok l
  else if l.keyAllowed then .ok (l.openBlockHere t)
  else .error problem

def blockEntry (l : Layout) : Except Problem Layout := do
  let l ← (← l.openFor .blockSequenceStart .misplacedEntry).dropKey
  return { l with keyAllowed := true } |>.emit .blockEntry |>.skip 1

def explicitKey (l : Layout) : Except Problem Layout := do
  let l ← (← l.openFor .blockMappingStart .misplacedKey).dropKey
  return { l with keyAllowed := !l.inFlow } |>.emit .key |>.skip 1

/-- A colon: what stands before it on the line is its key, if there is something. -/
def value (l : Layout) : Except Problem Layout := do
  match l.key with
  | some k =>
      return { (l.insert k.position .key).openBlock k.mark.column k.position .blockMappingStart with
          key := none, keyAllowed := false }
        |>.emit .value |>.skip 1
  | none =>
      let l ← l.openFor .blockMappingStart .misplacedValue
      return { l with keyAllowed := !l.inFlow } |>.emit .value |>.skip 1

def anchor (l : Layout) (token : String → Token) : Except Problem Layout := do
  let l ← l.saveKey
  let (name, cursor) ← scanAnchor (l.cursor.skip 1)
  return { l with cursor, keyAllowed := false }.emit (token name)

def tag (l : Layout) : Except Problem Layout := do
  let l ← l.saveKey
  let (token, cursor) ← scanTag l.inFlow l.cursor
  return { l with cursor, keyAllowed := false }.emit token

def blockScalar (l : Layout) (literal : Bool) : Except Problem Layout := do
  let l ← l.dropKey
  let s ← scanBlock literal l.inside (l.cursor.skip 1)
  return { l with cursor := s.cursor, keyAllowed := true }.emit
    (.scalar s.text (if literal then .literal else .folded))

def quoted (l : Layout) (quote : Char) (style : ScalarStyle) : Except Problem Layout := do
  let l ← l.saveKey
  let c := l.cursor.skip 1
  let s ← scanQuoted quote [] {} 0 c.rest c.mark
  return { l with cursor := s.cursor, keyAllowed := false }.emit (.scalar s.text style)

/-- A plain scalar. A break behind it has been passed over, so a key may start again. -/
def plain (l : Layout) : Except Problem Layout := do
  let l ← l.saveKey
  let s ← scanPlain l.inFlow l.inside [] {} false l.cursor.rest l.cursor.mark
  return { l with cursor := s.cursor, keyAllowed := s.broken }.emit (.scalar s.text .plain)

def token (l : Layout) (c : Char) (rest : List Char) : Except Problem Layout :=
  let atStart := l.column = 0
  let opens := l.inFlow || blankOrEnd rest
  if atStart ∧ c = '%' then l.directive
  else if atStart ∧ isDocumentMark (c :: rest) then
    l.documentMark (if c = '-' then .documentStart else .documentEnd)
  else match c with
    | '[' => l.openFlow .flowSequenceStart
    | '{' => l.openFlow .flowMappingStart
    | ']' => l.closeFlow .flowSequenceEnd
    | '}' => l.closeFlow .flowMappingEnd
    | ',' => l.flowEntry
    | '*' => l.anchor .alias
    | '&' => l.anchor .anchor
    | '!' => l.tag
    | '\'' => l.quoted c .singleQuoted
    | '"' => l.quoted c .doubleQuoted
    | '|' => if l.inFlow then .error .unknownCharacter else l.blockScalar true
    | '>' => if l.inFlow then .error .unknownCharacter else l.blockScalar false
    | '-' => if blankOrEnd rest then l.blockEntry else l.plain
    | '?' => if opens then l.explicitKey else l.plain
    | ':' => if opens then l.value else l.plain
    | _ => if isBlank c || isIndicator c then .error .unknownCharacter else l.plain

/-- All tokens. Each takes a character, so the length of the text bounds their number. -/
def tokensFrom : (fuel : Nat) → Layout → Except Problem (List Token)
  | 0, l => .ok l.tokens.reverse
  | fuel + 1, l => do
      let l ← l.toNextToken.expireKeys
      let l := l.closeBlocks (l.column + 1)
      match l.cursor.rest with
      | [] => return (← (l.closeBlocks 0).dropKey).tokens.reverse
      | c :: rest => tokensFrom fuel (← l.token c rest)

end Layout

/-- The text with one spelling for line breaks, if all its characters may occur. -/
def printable? (cs : List Char) : Option (List Char) :=
  if cs.all isPrintable then some (unifyBreaks cs) else none

def tokens (cs : List Char) : Except Problem (List Token) :=
  match printable? cs with
  | some body => Layout.tokensFrom (body.length + 2) { cursor := ⟨body, {}⟩ }
  | none => .error .unprintable

end TwinRun.Yaml
