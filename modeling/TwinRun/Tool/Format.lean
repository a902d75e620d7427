import TwinRun.Text.BinaryFraction
import TwinRun.Text.Integer
import TwinRun.Tool.Basic

/-!
Printing by a format.

A format is text with directives in it, each of which shows an argument. It is gone through
until the arguments are used up. What is made of escapes, and how problems are told, is
different for the shell and for the tool of its own: that is the `Dialect`.
-/

namespace TwinRun.Tool

/-! ### Showing values -/

/-- How a value is to be shown. -/
structure Directive where
  left : Bool := false
  zeros : Bool := false
  plus : Bool := false
  blank : Bool := false
  alternate : Bool := false
  width : Nat := 0
  precision : Option Nat := none
  deriving DecidableEq, Repr

namespace Directive

/-- Fills a text up to the width. -/
def pad (d : Directive) (t : Letters) : Letters :=
  let gap := d.width - t.length
  if d.left then t ++ List.replicate gap ' ' else List.replicate gap ' ' ++ t

/-- Fills a number up to the width, with zeros behind its mark if they are asked for. -/
def padNumber (d : Directive) (zeros : Bool) (mark digits : Letters) : Letters :=
  if zeros && d.zeros && !d.left then
    mark ++ List.replicate (d.width - mark.length - digits.length) '0' ++ digits
  else d.pad (mark ++ digits)

/-- The sign that a number is shown with. -/
def signMark (d : Directive) (negative : Bool) : Letters :=
  if negative then ['-'] else if d.plus then ['+'] else if d.blank then [' '] else []

/-- Digits with zeros in front as the precision asks. Zero itself has no digits if none are
asked for. -/
def withPrecision (d : Directive) (n : Nat) (digits : Letters) : Letters :=
  match d.precision with
  | some 0 => if n = 0 then [] else digits
  | some p => List.replicate (p - digits.length) '0' ++ digits
  | none => digits

def showSigned (d : Directive) (n : Int) : Letters :=
  d.padNumber d.precision.isNone (d.signMark (n < 0)) (d.withPrecision n.natAbs (Letters.ofNat n.natAbs))

/-- Shows a number without sign in a base. -/
def showUnsigned (d : Directive) (base : Nat) (upper : Bool) (n : Nat) : Letters :=
  let cased (t : Letters) : Letters := if upper then t.map Char.toUpper else t
  let digits := d.withPrecision n (Nat.toDigits base n)
  let digits := if d.alternate && base = 8 && digits.head? ≠ some '0' then '0' :: digits else digits
  let mark := if d.alternate && base = 16 && n ≠ 0 then "0x".toList else []
  d.padNumber d.precision.isNone (cased mark) (cased digits)

def showFraction (d : Directive) (style : BinaryFraction.Style) (upper : Bool) (x : BinaryFraction) : Letters :=
  let isNumber := match x with
    | .finite .. => true
    | _ => false
  d.padNumber isNumber (d.signMark x.isNegative) (x.magnitude style upper d.alternate d.precision)

def showText (d : Directive) (t : Letters) : Letters :=
  d.pad (match d.precision with
    | some p => t.take p
    | none => t)

end Directive

/-! ### Escapes -/

/-- The value of octal digits, as one byte. -/
def octalLetter (ds : Letters) : Char := Char.ofNat (Letters.valueIn 8 ds % 256)

/-- A letter that a backslash makes another one. -/
def namedEscape? : Char → Option Char
  | 'n' => some '\n'
  | 't' => some '\t'
  | 'r' => some '\r'
  | 'a' => some '\x07'
  | 'b' => some '\x08'
  | 'f' => some '\x0c'
  | 'v' => some '\x0b'
  | 'e' => some '\x1b'
  | '\\' => some '\\'
  | _ => none

inductive Escape where
  | text (t rest : Letters)
  /-- The output ends here. -/
  | stop
  | bad (message : Letters)
  deriving DecidableEq, Repr

/-- Why the output ends at an escape. -/
inductive EscapeEnd where
  | stopped
  | refused (message : Letters)
  deriving DecidableEq, Repr

/-- Resolves the escapes of a text, up to one at which the output ends. -/
def resolveEscapes (read : Letters → Escape) : (fuel : Nat) → Letters → Letters × Option EscapeEnd
  | 0, t => (t, none)
  | _, [] => ([], none)
  | fuel + 1, '\\' :: rest =>
      match read rest with
      | .stop => ([], some .stopped)
      | .bad message => ([], some (.refused message))
      | .text shown rest =>
          let (t, ending) := resolveEscapes read fuel rest
          (shown ++ t, ending)
  | fuel + 1, c :: rest =>
      let (t, ending) := resolveEscapes read fuel rest
      (c :: t, ending)

/-! ### Formats -/

inductive ArgumentProblem where
  | noNumber
  | notOnlyNumber
  | outOfRange
  deriving DecidableEq, Repr

/-- What is different for different programs. -/
structure Dialect where
  precision : BinaryFraction.Precision
  /-- Reads an escape of the format, behind its backslash. -/
  formatEscape : Letters → Escape
  /-- Reads an escape of an argument. -/
  argumentEscape : Letters → Escape
  /-- Letters that may stand in front of a conversion and say nothing. -/
  sizes : Letters
  /-- More letters that may stand behind the percent sign and say nothing. -/
  flags : Letters
  /-- Whether a conversion goes with what stands between it and the percent sign. -/
  permits : Letters → Char → Bool
  /-- A quotation mark alone is zero. -/
  markIsNumber : Bool
  /-- A number out of range is told before letters that follow it. -/
  rangeFirst : Bool
  /-- A number is a letter behind a quotation mark. The flag: more letters follow. -/
  aboutLetter : Letters → Job Unit
  complain : Letters → ArgumentProblem → Job Unit
  /-- Refuses a directive, given as it stands. Printing ends. -/
  refuse : Letters → Job Unit
  /-- Refuses a directive at the end of the format that says nothing. Printing ends. -/
  refuseOpen : Letters → Job Unit
  /-- Refuses an escape. Printing ends. -/
  refuseEscape : Letters → Job Unit

/-- Formatting at work: the arguments to come, and whether one has been used. -/
structure Formatter where
  args : List Letters
  used : Bool := false
  stopped : Bool := false
  deriving DecidableEq, Repr

abbrev Formatting := StateT Formatter Job

namespace Formatter

variable (dialect : Dialect)

/-- Takes the next argument, if there is one. -/
def take? : Formatting (Option Letters) := do
  let f ← get
  match f.args with
  | [] => set { f with used := true }; return none
  | a :: args => set { f with args, used := true }; return some a

/-- What an argument is worth as a number. -/
def numeric {α : Type} (none' : α) (letter : Char → α) (read : Letters → α × Letters × Bool) :
    Formatting α := do
  match ← take? with
  | none => return none'
  | some t =>
      match t with
      | '\'' :: c :: more | '"' :: c :: more =>
          if !more.isEmpty then dialect.aboutLetter more
          return letter c
      | t =>
          if dialect.markIsNumber && (t = ['\''] || t = ['"']) then return none'
          let (value, rest, inRange) := read t
          if !inRange && (dialect.rangeFirst || rest.isEmpty) then dialect.complain t .outOfRange
          else if !rest.isEmpty then
            dialect.complain t (if rest = t then .noNumber else .notOnlyNumber)
          return value

def signed : Formatting Int :=
  numeric dialect 0 (fun c => (c.toNat : Int)) fun t =>
    let (n, rest) := Letters.leadingInteger 0 t
    let kept := max Letters.leastSigned (min Letters.greatestSigned n)
    (kept, rest, kept = n)

def unsigned : Formatting Nat :=
  numeric dialect 0 Char.toNat fun t =>
    let (n, rest) := Letters.leadingInteger 0 t
    if n.natAbs > Letters.greatestUnsigned.toNat then (Letters.greatestUnsigned.toNat, rest, false)
    else ((n % (Letters.greatestUnsigned + 1)).toNat, rest, true)

def fraction : Formatting BinaryFraction :=
  numeric dialect (.finite false 0 0) (fun c => .finite false c.toNat 0) fun t =>
    let (x, rest) := BinaryFraction.read dialect.precision t
    let inRange := match x with
      | .infinite _ => t.any Char.isDigit = false
      | .finite _ m e => !(e ≤ dialect.precision.least && m.log2 + 1 < dialect.precision.places && m > 0)
      | .undefined => true
    (x, rest, inRange)

def say (t : Letters) : Formatting Unit := emit t

def stop : Formatting Unit := modify fun f => { f with stopped := true }

/-- Shows the next argument. `written` is the directive as it stands. -/
def convert (d : Directive) (conversion : Char) (written : Letters) : Formatting Unit := do
  if !dialect.permits ((written.drop 1).dropLast) conversion then
    dialect.refuse written
    stop
  else match conversion with
  | 's' => say (d.showText ((← take?).getD []))
  | 'q' =>
      let a := (← take?).getD []
      say (Letters.shownWord a)
  | 'c' => say (d.pad (((← take?).bind List.head?).elim ['\x00'] ([·])))
  | 'b' =>
      let a := (← take?).getD []
      let (t, ending) := resolveEscapes dialect.argumentEscape (a.length + 1) a
      say (d.showText t)
      match ending with
      | none => pure ()
      | some .stopped => stop
      | some (.refused message) =>
          dialect.refuseEscape message
          stop
  | 'd' | 'i' => say (d.showSigned (← signed dialect))
  | 'u' => say (d.showUnsigned 10 false (← unsigned dialect))
  | 'o' => say (d.showUnsigned 8 false (← unsigned dialect))
  | 'x' => say (d.showUnsigned 16 false (← unsigned dialect))
  | 'X' => say (d.showUnsigned 16 true (← unsigned dialect))
  | 'f' => say (d.showFraction .fixed false (← fraction dialect))
  | 'F' => say (d.showFraction .fixed true (← fraction dialect))
  | 'e' => say (d.showFraction .scientific false (← fraction dialect))
  | 'E' => say (d.showFraction .scientific true (← fraction dialect))
  | 'g' => say (d.showFraction .general false (← fraction dialect))
  | 'G' => say (d.showFraction .general true (← fraction dialect))
  | 'a' => say (d.showFraction dialect.precision.hexadecimal false (← fraction dialect))
  | 'A' => say (d.showFraction dialect.precision.hexadecimal true (← fraction dialect))
  | _ =>
      dialect.refuse written
      stop

/-- Reads the letters behind the percent sign. Some of them may say nothing. -/
def readFlags (silent : Letters) : Directive → Letters → Directive × Letters
  | d, [] => (d, [])
  | d, c :: t =>
      match c with
      | '-' => readFlags silent { d with left := true } t
      | '0' => readFlags silent { d with zeros := true } t
      | '+' => readFlags silent { d with plus := true } t
      | ' ' => readFlags silent { d with blank := true } t
      | '#' => readFlags silent { d with alternate := true } t
      | c => if silent.contains c then readFlags silent d t else (d, c :: t)

/-- Reads a number in a directive, which may be an argument. -/
def count (t : Letters) : Formatting (Int × Letters) := do
  match t with
  | '*' :: rest => return (← signed dialect, rest)
  | t =>
      let ds := t.takeWhile Char.isDigit
      return ((Letters.valueIn 10 ds : Int), t.drop ds.length)

/-- Reads a directive behind its percent sign and shows an argument. -/
def directive (t : Letters) : Formatting Letters := do
  let (d, rest) := readFlags dialect.flags {} t
  let (width, rest) ← count dialect rest
  let (precision, rest) ← match rest with
    | '.' :: rest =>
        let (n, rest) ← count dialect rest
        pure (if n < 0 then none else some n.toNat, rest)
    | rest => pure (none, rest)
  let rest := rest.dropWhile dialect.sizes.contains
  let d := { d with left := d.left || width < 0, width := width.natAbs, precision }
  match rest with
  | c :: after =>
      convert dialect d c ('%' :: t.take (t.length - after.length))
      return after
  | [] =>
      dialect.refuseOpen ('%' :: t)
      stop
      return []

def pass : (fuel : Nat) → Letters → Formatting Unit
  | 0, _ => return
  | fuel + 1, t => do
      if (← get).stopped then return
      match t with
      | [] => return
      | '%' :: '%' :: rest =>
          say ['%']
          pass fuel rest
      | '%' :: rest => pass fuel (← directive dialect rest)
      | '\\' :: rest =>
          match dialect.formatEscape rest with
          | .text shown rest =>
              say shown
              pass fuel rest
          | .stop => stop
          | .bad message =>
              dialect.refuseEscape message
              stop
      | t =>
          let plain := t.takeWhile fun c => c != '%' && c != '\\'
          say plain
          pass fuel (t.drop plain.length)

/-- Goes through the format until the arguments are used up. What comes back are arguments
that no directive asks for. -/
def passes (format : Letters) : (fuel : Nat) → Formatting (List Letters)
  | 0 => return []
  | fuel + 1 => do
      modify fun f => { f with used := false }
      pass dialect (format.length + 1) format
      let f ← get
      if f.stopped then return []
      if f.args.isEmpty || !f.used then return f.args
      passes format fuel

end Formatter

/-- Prints arguments as a format says. What comes back are arguments left over. -/
def printFormatted (dialect : Dialect) (format : Letters) (args : List Letters) : Job (List Letters) := do
  return (← (Formatter.passes dialect format (args.length + 1)).run { args }).1

end TwinRun.Tool
