import TwinRun.Tool.Format

/-!
Tools that print without end, or up to a limit.

A sequence of numbers is shown with as many places as the numbers that it is made from. Its
numbers are the first one and multiples of the step added to it, each rounded.
-/

namespace TwinRun.Tool

/-- How much is collected before it is written. -/
def chunkSize : Nat := 65536

/-- How many such chunks an endless tool writes at most. -/
def maxChunks : Nat := 200

/-! ### The same again -/

/-- Writes a chunk again and again, until it is refused. -/
def writeAgain (t : Letters) : (fuel : Nat) → Job Unit
  | 0 => throw (.ofSignal 9)
  | fuel + 1 => do
      match ← writeTo stdout t with
      | none => writeAgain t fuel
      | some e => fail ("standard output: ".toList ++ e.reason) 1

/-- Prints its arguments again and again. -/
def yes : Program := withSpec {} fun o => do
  let line := (if o.operands.isEmpty then ['y'] else [' '].intercalate o.operands) ++ ['\n']
  writeAgain (List.replicate (chunkSize / line.length + 1) line).flatten maxChunks

/-! ### Numbers -/

/-- A number that a sequence is made from. -/
structure Bound where
  value : BinaryFraction
  /-- How many letters it takes. -/
  width : Int := 0
  /-- How many places it has behind the point, if that can be told. -/
  places : Option Nat := none
  deriving DecidableEq, Repr

namespace Bound

def one : Bound := ⟨.finite false 1 0, 1, some 0⟩

/-- How a decimal number is written: its width and its places. The power of ten moves the
point. -/
def layout (t : Letters) : Int × Nat :=
  let (before, after) := Letters.cut (· == '.') t
  let fraction : Option Letters := after.map fun t => t.takeWhile fun c => c != 'e' && c != 'E'
  let places := (fraction.map List.length).getD 0
  let width : Int := t.length + match fraction with
    | none => 0
    | some [] => -1
    | some _ => if before.getLast?.any Char.isDigit then 0 else 1
  match Letters.cut (· == 'e') (t.map fun c => if c == 'E' then 'e' else c) with
  | (_, none) => (width, places)
  | (mantissa, some power) =>
      let n := (Letters.leadingInteger 10 power).1
      let width := width - (power.length + 1) + n.natAbs
      if n < 0 then
        (width + if fraction.isNone || mantissa.getLast? = some '.' then 1 else 0,
          places + n.natAbs)
      else (width, places - n.toNat)

def read (t : Letters) : Job Bound := do
  let (value, rest) := BinaryFraction.read BinaryFraction.extended t
  if !rest.isEmpty ∨ t.isEmpty then misuse ("invalid floating point argument: ".toList ++ quote t) 1
  let t' := t.dropWhile fun c => Letters.isSpace c || c == '+'
  match value with
  | .undefined => misuse ("invalid ".toList ++ quote "not-a-number".toList ++ " argument: ".toList ++ quote t) 1
  | .infinite _ => return { value, places := if t'.contains '.' then none else some 0 }
  | .finite .. =>
      if t'.any fun c => c == 'x' || c == 'X' then
        return { value, places := if t'.any fun c => c == '.' || c == 'p' then none else some 0 }
      let (width, places) := layout t'
      return ⟨value, width, some places⟩

end Bound

structure NumberLayout where
  before : Letters := []
  directive : Directive := {}
  style : BinaryFraction.Style := .fixed
  upper : Bool := false
  after : Letters := []

namespace NumberLayout

/-- The number itself, without the text around it. -/
def number (l : NumberLayout) (x : BinaryFraction) : Letters := l.directive.showFraction l.style l.upper x

def format (l : NumberLayout) (x : BinaryFraction) : Letters := l.before ++ l.number x ++ l.after

def default (equalWidth : Bool) (first step last : Bound) : NumberLayout :=
  match first.places, step.places, last.places with
  | some f, some s, some l =>
      let places := max f s
      let firstWidth := first.width + (places - f : Nat) + if f = 0 && places ≠ 0 then 1 else 0
      let lastWidth := last.width + ((places : Int) - l) +
        (if l ≠ 0 && places = 0 then -1 else if l = 0 && places ≠ 0 then 1 else 0)
      { directive :=
          if equalWidth then { zeros := true, width := (max firstWidth lastWidth).toNat, precision := some places }
          else { precision := some places } }
  | _, _, _ => { style := .general }

/-- A text up to a directive: two percent signs stand for one. -/
def literal : Letters → Letters × Option Letters
  | [] => ([], none)
  | '%' :: '%' :: rest => let (t, more) := literal rest; ('%' :: t, more)
  | '%' :: rest => ([], some rest)
  | c :: rest => let (t, more) := literal rest; (c :: t, more)

def read (t : Letters) : Job NumberLayout := do
  let problem {α : Type} (what : Letters) : Job α := fail ("format ".toList ++ quote t ++ what) 1
  match literal t with
  | (_, none) => problem " has no % directive".toList
  | (before, some rest) =>
      let (d, rest) := Formatter.readFlags ['\''] {} rest
      let width := rest.takeWhile Char.isDigit
      let rest := rest.drop width.length
      let (precision, rest) := match rest with
        | '.' :: rest =>
            let ds := rest.takeWhile Char.isDigit
            (some (Letters.valueIn 10 ds), rest.drop ds.length)
        | rest => (none, rest)
      let rest := if rest.head? = some 'L' then rest.drop 1 else rest
      match rest with
      | [] => problem " ends in %".toList
      | c :: rest =>
          match styleOf? c.toLower with
          | none => problem (" has unknown %".toList ++ c :: " directive".toList)
          | some style =>
              match literal rest with
              | (_, some _) => problem " has too many % directives".toList
              | (after, none) =>
                  let directive := { d with width := Letters.valueIn 10 width, precision }
                  return { before, directive, style, upper := c.isUpper, after }
where
  styleOf? : Char → Option BinaryFraction.Style
    | 'f' => some .fixed
    | 'e' => some .scientific
    | 'g' => some .general
    | 'a' => some BinaryFraction.extended.hexadecimal
    | _ => none

end NumberLayout

structure Progression where
  first : BinaryFraction
  step : BinaryFraction
  last : BinaryFraction

namespace Progression

/-- Whether a number is beyond the last one. -/
def isBeyond (p : Progression) (x : BinaryFraction) : Bool :=
  if p.step.isNegative && !p.step.isZero then x.less p.last else p.last.less x

def item (p : Progression) (k : Nat) : BinaryFraction :=
  if k = 0 then p.first else p.first.plus BinaryFraction.extended (p.step.times BinaryFraction.extended k)

/-- Whether a number beyond the last one is still to be shown, since it is shown as the last one
is and not as the one before it. -/
def isExtra (layout : NumberLayout) (p : Progression) (before x : BinaryFraction) : Bool :=
  let shown := layout.number x
  let (value, rest) := BinaryFraction.read BinaryFraction.extended shown
  rest.isEmpty && !value.less p.last && !p.last.less value && layout.number before ≠ shown

/-- Prints the numbers from a place on. `size` is how much has been collected. -/
def print (layout : NumberLayout) (separator : Letters) (p : Progression) :
    (fuel : Nat) → (k size chunks : Nat) → Job Unit
  | 0, _, _, _ => throw (.ofSignal 9)
  | fuel + 1, k, size, chunks => do
      let x := p.item k
      let shown := layout.format x
      emit shown
      let next := p.item (k + 1)
      if p.isBeyond next then
        if p.isExtra layout x next then emit (separator ++ layout.format next)
        emit ['\n']
      else
        emit separator
        let size := size + shown.length + separator.length
        if size < chunkSize then print layout separator p fuel (k + 1) size chunks
        else
          flush
          if chunks = 0 then throw (.ofSignal 9)
          if (← get).refusal.isNone then print layout separator p fuel (k + 1) 0 (chunks - 1)

end Progression

/-- More numbers than are ever printed. -/
def maxNumbers : Nat := 100000000

def seq : Program := withSpec
    { flags := "w", valued := "fs", ordered := true, numbers := true
      long := [⟨"format", 'f', some true⟩, ⟨"separator", 's', some true⟩, ⟨"equal-width", 'w', none⟩] } fun o => do
  if o.operands.isEmpty then misuse "missing operand".toList 1
  match o.operands[3]? with
  | some t => misuse ("extra operand ".toList ++ quote t) 1
  | none => pure ()
  let layout? ← (o.value? 'f').mapM NumberLayout.read
  if layout?.isSome && o.has 'w' then
    misuse "format string may not be specified when printing equal width strings".toList 1
  let (first, step, last) ← match o.operands with
    | [f, s, l] => do
        let first ← Bound.read f
        let step ← Bound.read s
        if step.value.isZero then misuse ("invalid Zero increment value: ".toList ++ quote s) 1
        pure (first, step, ← Bound.read l)
    | [f, l] => do pure (← Bound.read f, Bound.one, ← Bound.read l)
    | operands => do pure (Bound.one, Bound.one, ← Bound.read (operands.headD []))
  let layout := layout?.getD (.default (o.has 'w') first step last)
  let p : Progression := ⟨first.value, step.value, last.value⟩
  if !p.isBeyond p.first then p.print layout ((o.value? 's').getD ['\n']) maxNumbers 0 0 maxChunks

end TwinRun.Tool
