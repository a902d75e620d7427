import TwinRun.Text.BinaryFraction
import TwinRun.Text.Integer
import TwinRun.Tool.Basic

/-!
Sort keys.

A key is a part of a line, from one place to another, and a way to compare such parts. Places are
given by field and letter. Fields lie between separators; without a separator a field is a run of
letters with the blanks in front of it.
-/

namespace TwinRun.Tool

/-- How parts of lines are compared. -/
structure Collation where
  /-- Blanks at the start of a place do not count. -/
  skipsStart : Bool := false
  skipsEnd : Bool := false
  /-- Letters, digits and blanks alone count. -/
  dictionary : Bool := false
  printable : Bool := false
  folds : Bool := false
  numeric : Bool := false
  fraction : Bool := false
  sized : Bool := false
  month : Bool := false
  version : Bool := false
  reverse : Bool := false
  deriving DecidableEq, Repr

namespace Collation

/-- Switches what a letter stands for; blanks at the start, at the end, or both. -/
def switch? (start stop : Bool) (o : Collation) : Char → Option Collation
  | 'b' => some { o with skipsStart := o.skipsStart || start, skipsEnd := o.skipsEnd || stop }
  | 'd' => some { o with dictionary := true, printable := false }
  | 'i' => some { o with printable := !o.dictionary }
  | 'f' => some { o with folds := true }
  | 'g' => some { o with fraction := true }
  | 'h' => some { o with sized := true }
  | 'M' => some { o with month := true }
  | 'n' => some { o with numeric := true }
  | 'V' => some { o with version := true }
  | 'r' => some { o with reverse := true }
  | _ => none

def letters (o : Collation) : Letters :=
  [(o.dictionary, 'd'), (o.folds, 'f'), (o.fraction, 'g'), (o.sized, 'h'), (o.printable, 'i'),
    (o.month, 'M'), (o.numeric, 'n'), (o.version, 'V')].filterMap fun (on, c) =>
      if on then some c else none

/-- Whether more than one way to compare is asked for. -/
def isContradictory (o : Collation) : Bool :=
  ([o.numeric, o.fraction, o.sized, o.month, o.version || o.dictionary || o.printable].filter id).length > 1

def isPlain (o : Collation) : Bool := o = {}

/-! ### Values -/

def isBlank (c : Char) : Bool := c == ' ' || c == '\t' || c == '\n'

/-- A decimal number at the start of a text: its digits without point, and how many of them are
behind the point. -/
def leadingDecimal (t : Letters) : Int × Nat × Letters :=
  let (negative, t) := match t.dropWhile isBlank with
    | '-' :: t => (true, t)
    | t => (false, t)
  let whole := t.takeWhile Char.isDigit
  let rest := t.drop whole.length
  let behind := match rest with
    | '.' :: rest => rest.takeWhile Char.isDigit
    | _ => []
  let n := Letters.valueIn 10 (whole ++ behind)
  (if negative then -(n : Int) else n, behind.length,
    if behind.isEmpty then rest else rest.drop (behind.length + 1))

def compareDecimals (a b : Int × Nat × Letters) : Ordering :=
  compare (a.1 * Int.pow 10 b.2.1) (b.1 * Int.pow 10 a.2.1)

/-- The rank of the letter for a size behind a number. -/
def sizeRank (a : Int × Nat × Letters) : Int :=
  let rank := match a.2.2 with
    | 'k' :: _ => 1
    | c :: _ => ("KMGTPEZY".toList.idxOf? c).elim 0 (· + 1)
    | [] => 0
  if a.1 < 0 then -(rank : Int) else if a.1 = 0 then 0 else rank

def monthNames : List String :=
  ["JAN", "FEB", "MAR", "APR", "MAY", "JUN", "JUL", "AUG", "SEP", "OCT", "NOV", "DEC"]

/-- The number of a month from 1 on; 0 for what is none. -/
def monthOf (t : Letters) : Nat :=
  let start := (t.dropWhile isBlank).take 3
  (monthNames.idxOf? (String.ofList (start.map Char.toUpper))).elim 0 (· + 1)

/-- Where a text stands among numbers: what is none, what is undefined, and the numbers. -/
def fractionRank (t : Letters) : Nat × BinaryFraction :=
  let (x, rest) := BinaryFraction.read BinaryFraction.extended t
  if rest = t then (0, .undefined)
  else match x with
  | .undefined => (1, x)
  | .infinite true => (2, x)
  | .infinite false => (4, x)
  | x => (3, x)

/-- Compares two numbers that are given by sign, digits and power of two. -/
def compareFractions (a b : Letters) : Ordering :=
  let (i, x) := fractionRank a
  let (j, y) := fractionRank b
  match compare i j, x, y with
  | .eq, .finite s m e, .finite s' m' e' =>
      let low := min e e'
      let value (s : Bool) (m : Nat) (e : Int) : Int :=
        let n : Int := m * Int.pow 2 (e - low).toNat
        if s then -n else n
      compare (value s m e) (value s' m' e')
  | o, _, _ => o

/-- The order of letters between digits of versions: a tilde, then the end, letters, others. -/
def versionRank : Option Char → Int
  | some '~' => -2
  | none => -1
  | some c => if c.isDigit then 0 else if c.isAlpha then c.toNat else c.toNat + 256

/-- Compares versions: stretches without digits and numbers in turn. -/
def compareVersions : (fuel : Nat) → Letters → Letters → Ordering
  | 0, _, _ => .eq
  | fuel + 1, a, b =>
      if a.isEmpty && b.isEmpty then .eq
      else
        let words (t : Letters) : Letters := t.takeWhile (!Char.isDigit ·)
        let wa := words a
        let wb := words b
        let place (t : Letters) (whole : Letters) (k : Nat) : Option Char :=
          t[k]?.orElse fun _ => whole[k]?
        let differing := (List.range (max wa.length wb.length)).find? fun k =>
          versionRank (place wa a k) ≠ versionRank (place wb b k)
        match differing with
        | some k => compare (versionRank (place wa a k)) (versionRank (place wb b k))
        | none =>
            let a := a.drop wa.length
            let b := b.drop wb.length
            let na := a.takeWhile Char.isDigit
            let nb := b.takeWhile Char.isDigit
            match compare (Letters.valueIn 10 na) (Letters.valueIn 10 nb) with
            | .eq => compareVersions fuel (a.drop na.length) (b.drop nb.length)
            | o => o

def compareLetters (a b : Letters) : Ordering :=
  if a = b then .eq else if Letters.le a b then .lt else .gt

def counted (o : Collation) (t : Letters) : Letters :=
  let t := if o.dictionary then t.filter fun c => c.isAlphanum || isBlank c
    else if o.printable then t.filter fun c => ' ' ≤ c && c ≤ '~'
    else t
  if o.folds then t.map Char.toUpper else t

/-- Compares two texts without regard to reversal. -/
def compareForward (o : Collation) (a b : Letters) : Ordering :=
  if o.numeric then compareDecimals (leadingDecimal a) (leadingDecimal b)
  else if o.fraction then compareFractions a b
  else if o.sized then
    let x := leadingDecimal a
    let y := leadingDecimal b
    (compare (sizeRank x) (sizeRank y)).then (compareDecimals x y)
  else if o.month then compare (monthOf a) (monthOf b)
  else if o.version then
    let a := o.counted a
    let b := o.counted b
    (compareVersions (a.length + b.length + 1) a b).then (compareLetters a b)
  else compareLetters (o.counted a) (o.counted b)

def compareParts (o : Collation) (a b : Letters) : Ordering :=
  if o.reverse then (o.compareForward a b).swap else o.compareForward a b

end Collation

/-- A part of a line, and how it is compared. -/
structure Key where
  /-- Fields and letters in front of the part. -/
  field : Nat := 0
  letter : Nat := 0
  /-- The field in which the part ends, counted from 0, and the letters of that field in it; no
  letters stand for all. Nothing: the end of the line. -/
  stop : Option (Nat × Nat) := none
  order : Collation := {}
  deriving DecidableEq, Repr

namespace Key

def dropFields (separator : Option Char) : Nat → Letters → Letters
  | 0, t => t
  | n + 1, t =>
      dropFields separator n (match separator with
        | some c => (t.dropWhile (· != c)).drop 1
        | none => (t.dropWhile Collation.isBlank).dropWhile (!Collation.isBlank ·))

/-- What is left of a line where the part of a key starts. -/
def start (separator : Option Char) (k : Key) (line : Letters) : Letters :=
  let t := dropFields separator k.field line
  (if k.order.skipsStart then t.dropWhile Collation.isBlank else t).drop k.letter

/-- How much of a line is left where the part of a key ends. -/
def leftAtStop (separator : Option Char) (k : Key) (line : Letters) : Nat :=
  match k.stop with
  | none => 0
  | some (field, 0) =>
      let t := dropFields separator field line
      match separator with
      | some c => (t.dropWhile (· != c)).length
      | none => ((t.dropWhile Collation.isBlank).dropWhile (!Collation.isBlank ·)).length
  | some (field, n) =>
      let t := dropFields separator field line
      ((if k.order.skipsEnd then t.dropWhile Collation.isBlank else t).drop n).length

def part (separator : Option Char) (k : Key) (line : Letters) : Letters :=
  let t := k.start separator line
  t.take (t.length - k.leftAtStop separator line)

def compareAll (separator : Option Char) (keys : List Key) (a b : Letters) : Ordering :=
  match keys with
  | [] => .eq
  | k :: ks =>
      (k.order.compareParts (k.part separator a) (k.part separator b)).then (compareAll separator ks a b)

def readOrder (start stop : Bool) (k : Key) : Letters → Key × Letters
  | [] => (k, [])
  | c :: rest =>
      match k.order.switch? start stop c with
      | some order => readOrder start stop { k with order } rest
      | none => (k, c :: rest)

/-- Reads a count, which must be there. -/
def readCount (what : String) (t : Letters) : Except Letters (Nat × Letters) :=
  let ds := t.takeWhile Char.isDigit
  if ds.isEmpty then .error (what.toList ++ ": invalid count at start of ".toList ++ quote t)
  else .ok (Letters.valueIn 10 ds, t.drop ds.length)

def read (t : Letters) : Except Letters Key := do
  let bad (what : String) : Letters := what.toList ++ ": invalid field specification ".toList ++ quote t
  let (field, rest) ← readCount "invalid number at field start" t
  if field = 0 then throw (bad "field number is zero")
  let (letter, rest) ← match rest with
    | '.' :: rest => do
        let (n, rest) ← readCount "invalid number after '.'" rest
        if n = 0 then throw (bad "character offset is zero")
        pure (n - 1, rest)
    | rest => pure (0, rest)
  let (k, rest) := readOrder true false { field := field - 1, letter } rest
  match rest with
  | [] => return k
  | ',' :: rest =>
      let (field, rest) ← readCount "invalid number after ','" rest
      if field = 0 then throw (bad "field number is zero")
      let (letter, rest) ← match rest with
        | '.' :: rest => readCount "invalid number after '.'" rest
        | rest => pure (0, rest)
      let (k, rest) := readOrder false true { k with stop := some (field - 1, letter) } rest
      if rest.isEmpty then return k else throw (bad "stray character in field spec")
  | _ => throw (bad "stray character in field spec")

end Key

end TwinRun.Tool
