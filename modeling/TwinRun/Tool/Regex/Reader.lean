import TwinRun.Text.Integer
import TwinRun.Tool.Regex.Basic

/-!
Reading regular expressions in the two classic notations.

The basic notation marks groups, counts and alternatives with a backslash, the extended one does
not. Anchors and repetitions are letters of the basic notation where they cannot be meant.
-/

namespace TwinRun.Tool.Regex

/-- What is wrong with an expression. -/
inductive Problem where
  | emptyBracket
  | openBracket
  | openGroup
  | strayClose
  | openBrace
  | counts
  | range
  | className
  | backslash
  | reference
  | nothingRepeated
  | tooBig
  deriving DecidableEq, Repr

namespace Problem

def message : Problem → Letters
  | .emptyBracket => "Invalid regular expression".toList
  | .openBracket => "Unmatched [, [^, [:, [., or [=".toList
  | .openGroup => "Unmatched ( or \\(".toList
  | .strayClose => "Unmatched ) or \\)".toList
  | .openBrace => "Unmatched \\\x7b".toList
  | .counts => "Invalid content of \\\x7b\\\x7d".toList
  | .range => "Invalid range end".toList
  | .className => "Invalid character class name".toList
  | .backslash => "Trailing backslash".toList
  | .reference => "Invalid back reference".toList
  | .nothingRepeated => "Invalid preceding regular expression".toList
  | .tooBig => "Regular expression too big".toList

end Problem

structure Style where
  extended : Bool := false
  /-- Letters behind a backslash can stand for blanks and line breaks. -/
  escapes : Bool := false
  /-- What makes no sense in the extended notation is refused, not taken as letters. -/
  strict : Bool := false
  deriving DecidableEq, Repr

/-! ### Brackets -/

/-- The text up to a mark and a closing bracket. -/
def upTo (mark : Char) : Letters → Option (Letters × Letters)
  | c :: ']' :: rest => if c = mark then some ([], rest) else (upTo mark (']' :: rest)).map fun (t, r) => (c :: t, r)
  | c :: rest => (upTo mark rest).map fun (t, r) => (c :: t, r)
  | [] => none

/-- An item in brackets: a class, or a letter. -/
def readItem (escapes : Bool) (t : Letters) : Except Problem ((CharRanges ⊕ Char) × Letters) :=
  match t with
  | '[' :: ':' :: rest =>
      match upTo ':' rest with
      | some (name, rest) =>
          match classRanges.lookup (String.ofList name) with
          | some ranges => .ok (.inl ranges, rest)
          | none => .error .className
      | none => .error .openBracket
  | '[' :: '=' :: rest =>
      match upTo '=' rest with
      | some ([c], rest) => .ok (.inl [(c, c)], rest)
      | some _ => .error .className
      | none => .error .openBracket
  | '[' :: '.' :: rest =>
      match upTo '.' rest with
      | some ([c], rest) => .ok (.inr c, rest)
      | some _ => .error .className
      | none => .error .openBracket
  | '\\' :: 'n' :: rest => .ok (if escapes then (.inr '\n', rest) else (.inr '\\', 'n' :: rest))
  | '\\' :: 't' :: rest => .ok (if escapes then (.inr '\t', rest) else (.inr '\\', 't' :: rest))
  | '\\' :: ']' :: rest => .ok (.inr '\\', ']' :: rest)
  | c :: rest => .ok (.inr c, rest)
  | [] => .error .openBracket

/-- Reads the inside of brackets up to the closing one, which may be the first letter itself. -/
def readItems (escapes : Bool) : (fuel : Nat) → (first : Bool) → Letters → Except Problem (CharRanges × Letters)
  | 0, _, _ | _, _, [] => .error .openBracket
  | fuel + 1, first, t => do
      match first, t with
      | false, ']' :: rest => return ([], rest)
      | _, t =>
          let (item, rest) ← readItem escapes t
          match item, rest with
          | _, ['-'] => throw .openBracket
          | .inl _, '-' :: c :: _ =>
              if c ≠ ']' then throw .range
              more item rest fuel
          | .inr low, '-' :: c :: rest' =>
              if c = ']' then more item rest fuel
              else
                match ← readItem escapes (c :: rest') with
                | (.inr high, rest) =>
                    if high < low then throw .range
                    let (ranges, rest) ← readItems escapes fuel false rest
                    return ((low, high) :: ranges, rest)
                | (.inl _, _) => throw .range
          | _, rest => more item rest fuel
where
  more (item : CharRanges ⊕ Char) (rest : Letters) (fuel : Nat) : Except Problem (CharRanges × Letters) := do
    let (ranges, rest) ← readItems escapes fuel false rest
    return (match item with
      | .inl r => r ++ ranges
      | .inr c => (c, c) :: ranges, rest)

def readBrackets (escapes : Bool) (t : Letters) : Except Problem (Regex × Letters) := do
  let (negated, t) := match t with
    | '^' :: t => (true, t)
    | t => (false, t)
  if t.isEmpty then throw .emptyBracket
  let (ranges, rest) ← readItems escapes (t.length + 1) true t
  return (.set negated ranges, rest)

/-! ### Marks -/

inductive Mark where
  | open
  | close
  | bar
  | star
  | plus
  | question
  | brace
  | caret
  | dollar
  | bracket
  | group (number : Nat)
  | letter (c : Char)
  /-- An expression of its own that can be repeated. -/
  | item (r : Regex)
  /-- One that cannot. -/
  | anchor (r : Regex)
  deriving DecidableEq, Repr

/-- A mark that needs a backslash in one notation and none in the other. -/
def sharedMark? : Char → Option Mark
  | '(' => some .open
  | ')' => some .close
  | '|' => some .bar
  | '+' => some .plus
  | '?' => some .question
  | '\x7b' => some .brace
  | _ => none

/-- What a backslash makes of a letter. -/
def escaped (s : Style) (c : Char) : Mark :=
  if '1' ≤ c ∧ c ≤ '9' then .group (c.toNat - '0'.toNat)
  else match c with
    | 'w' => .item (.set false wordRanges)
    | 'W' => .item (.set true wordRanges)
    | 's' => .item (.set false spaceRanges)
    | 'S' => .item (.set true spaceRanges)
    | 'b' => .anchor (.wordEdge false)
    | 'B' => .anchor (.wordEdge true)
    | '<' => .anchor .wordStart
    | '>' => .anchor .wordEnd
    | '\x60' => .anchor .textStart
    | '\'' => .anchor .textEnd
    | c =>
        match s.extended, sharedMark? c with
        | false, some m => m
        | _, _ =>
            if s.escapes then
              match c with
              | 'n' => .letter '\n'
              | 't' => .letter '\t'
              | 'f' => .letter '\x0c'
              | 'v' => .letter '\x0b'
              | 'a' => .letter '\x07'
              | 'r' => .letter '\r'
              | c => .letter c
            else .letter c

def readMark (s : Style) : Letters → Except Problem (Option Mark × Letters)
  | [] => .ok (none, [])
  | ['\\'] => .error .backslash
  | '\\' :: c :: rest => .ok (some (escaped s c), rest)
  | '*' :: rest => .ok (some .star, rest)
  | '.' :: rest => .ok (some (.item (.set true [])), rest)
  | '^' :: rest => .ok (some .caret, rest)
  | '$' :: rest => .ok (some .dollar, rest)
  | '[' :: rest => .ok (some .bracket, rest)
  | c :: rest =>
      match s.extended, sharedMark? c with
      | true, some m => .ok (some m, rest)
      | _, _ => .ok (some (.letter c), rest)

/-! ### Counts -/

/-- The greatest count. -/
def maxCount : Nat := 32767

def afterBrace? (s : Style) : Letters → Option Letters
  | '\\' :: '\x7d' :: rest => if s.extended then none else some rest
  | '\x7d' :: rest => if s.extended then some rest else none
  | _ => none

/-- Reads counts behind their opening brace; nothing if the brace is a letter. -/
def readCounts (s : Style) (t : Letters) : Except Problem (Option (Nat × Option Nat × Letters)) := do
  let number (t : Letters) : Option Nat × Letters :=
    let ds := t.takeWhile Char.isDigit
    (if ds.isEmpty then none else some (Letters.valueIn 10 ds), t.drop ds.length)
  let malformed : Except Problem (Option (Nat × Option Nat × Letters)) :=
    if s.extended && !s.strict then .ok none
    else .error (if t.all fun c => c.isDigit || c == ',' then .openBrace else .counts)
  let (least, rest) := number t
  match least, rest, afterBrace? s rest with
  | none, ',' :: rest, _ | some _, ',' :: rest, none =>
      let (most, rest) := number rest
      match afterBrace? s rest with
      | none => malformed
      | some rest =>
          let least := least.getD 0
          if most.any (· < least) then throw .counts
          if max least (most.getD 0) > maxCount then throw .tooBig
          return some (least, most, rest)
  | none, _, some _ => if s.extended && !s.strict then return none else throw .counts
  | none, _, none => malformed
  | some n, _, some rest =>
      if n > maxCount then throw .tooBig
      return some (n, some n, rest)
  | some _, _, none => malformed

/-- Reads the counts that follow an expression. In the strict notation with backslashes stars and
braces do not follow another count. -/
def readRepetitions (s : Style) : (fuel : Nat) → (counted : Bool) → Regex → Letters → Except Problem (Regex × Letters)
  | 0, _, r, t => .ok (r, t)
  | fuel + 1, counted, r, t => do
      let refused := counted && s.strict && !s.extended
      match ← readMark s t with
      | (some .star, t) =>
          if refused then throw .nothingRepeated
          readRepetitions s fuel true (.repeated r 0 none) t
      | (some .plus, t) => readRepetitions s fuel true (.repeated r 1 none) t
      | (some .question, t) => readRepetitions s fuel true (.repeated r 0 (some 1)) t
      | (some .brace, rest) =>
          if refused then throw .nothingRepeated
          match ← readCounts s rest with
          | some (least, most, rest) => readRepetitions s fuel true (.repeated r least most) rest
          | none => return (r, t)
      | _ => return (r, t)

/-! ### Expressions -/

/-- What has been read of an expression: how many groups have been opened, which have been
closed, and the rest. -/
structure Reader where
  opened : Nat := 0
  closed : List Nat := []
  rest : Letters
  deriving DecidableEq, Repr

/-- Whether an anchor for the end may stand before this. -/
def endsHere (s : Style) (t : Letters) : Bool :=
  match readMark s t with
  | .ok (none, _) | .ok (some .close, _) | .ok (some .bar, _) => true
  | _ => false

def letterSet (c : Char) : Regex := .set false [(c, c)]

/-- Reads alternatives up to the end or, inside a group, its closing mark. `done` is what has
been read of the alternative at hand; `first`: nothing that could be repeated. -/
def readAlternatives (s : Style) (inside : Bool) : (fuel : Nat) → (done : Regex) → (first : Bool) → Reader →
    Except Problem (Regex × Reader)
  | 0, _, _, _ => .error .tooBig
  | fuel + 1, done, first, p => do
      let join (r : Regex) : Regex := if done = .empty then r else .then done r
      let item (r : Regex) (p : Reader) : Except Problem (Regex × Reader) := do
        let (r, rest) ← readRepetitions s p.rest.length false r p.rest
        readAlternatives s inside fuel (join r) false { p with rest }
      let anchor (r : Regex) (p : Reader) : Except Problem (Regex × Reader) :=
        readAlternatives s inside fuel (join r) true p
      let (mark, rest) ← readMark s p.rest
      let p' := { p with rest }
      let repetition (c : Char) : Except Problem (Regex × Reader) :=
        if s.extended then
          if s.strict then .error .nothingRepeated else readAlternatives s inside fuel done true p'
        else item (letterSet c) p'
      match mark with
      | none => if inside then throw .openGroup else return (done, p)
      | some .close =>
          if inside then return (done, p)
          else if s.extended && !s.strict then item (letterSet ')') p'
          else throw .strayClose
      | some .bar =>
          let (r, p) ← readAlternatives s inside fuel .empty true p'
          return (.either done r, p)
      | some .open =>
          let number := p.opened + 1
          let (r, q) ← readAlternatives s true fuel .empty true { p' with opened := number }
          match ← readMark s q.rest with
          | (some .close, rest) => item (.group number r) { q with rest, closed := number :: q.closed }
          | _ => throw .openGroup
      | some .bracket =>
          let (r, rest) ← readBrackets s.escapes rest
          item r { p with rest }
      | some .caret =>
          if first ∨ s.extended then anchor .lineStart p' else item (letterSet '^') p'
      | some .dollar =>
          if s.extended ∨ endsHere s rest then anchor .lineEnd p' else item (letterSet '$') p'
      | some (.group n) =>
          if p.closed.contains n then item (.again n) p' else throw .reference
      | some .star => if first then repetition '*' else item (letterSet '*') p'
      | some .plus => if first then repetition '+' else item (letterSet '+') p'
      | some .question => if first then repetition '?' else item (letterSet '?') p'
      | some .brace =>
          if s.strict then throw .nothingRepeated
          if !s.extended then item (letterSet '\x7b') p'
          else match ← readCounts s rest with
          | some (_, _, rest) => readAlternatives s inside fuel done true { p with rest }
          | none => item (letterSet '\x7b') p'
      | some (.item r) => item r p'
      | some (.anchor r) => anchor r p'
      | some (.letter c) => item (letterSet c) p'

def read (s : Style) (t : Letters) : Except Problem Regex := do
  let (r, _) ← readAlternatives s false (2 * t.length + 2) .empty true { rest := t }
  return r

def groupCount : Regex → Nat
  | .then r q | .either r q => max r.groupCount q.groupCount
  | .repeated r _ _ => r.groupCount
  | .group n r => max n r.groupCount
  | _ => 0

end TwinRun.Tool.Regex
