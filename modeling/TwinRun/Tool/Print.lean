import TwinRun.Tool.Format

/-!
Tools that print their arguments: as they are, or by a format.
-/

namespace TwinRun.Tool

/-! ### Arguments as they are -/

def isOctal (c : Char) : Bool := '0' ≤ c && c ≤ '7'

/-- The letter that one or two hexadecimal digits stand for, and what follows them. -/
def hexadecimalLetter? (t : Letters) : Option (Char × Letters) :=
  let ds := Letters.digitsIn 16 (t.take 2)
  if ds.isEmpty then none else some (Char.ofNat (Letters.valueIn 16 ds), t.drop ds.length)

/-- The letter that up to so many octal digits stand for, and what follows them. -/
def octalText (most : Nat) (t : Letters) : Escape :=
  let ds := (t.take most).takeWhile isOctal
  .text [octalLetter ds] (t.drop ds.length)

/-- Reads an escape behind its backslash. What is none keeps the backslash. -/
def readEchoEscape (t : Letters) : Escape :=
  match t with
  | [] => .text ['\\'] []
  | 'c' :: _ => .stop
  | 'x' :: rest =>
      match hexadecimalLetter? rest with
      | some (c, rest) => .text [c] rest
      | none => .text ['\\', 'x'] rest
  | '0' :: rest => octalText 3 rest
  | c :: rest =>
      if isOctal c then octalText 3 t
      else match namedEscape? c with
      | some d => .text [d] rest
      | none => .text ['\\', c] rest

/-- Reads options: arguments in which every letter is one. What comes back: whether escapes are
resolved, whether the line is ended, and what else there is. -/
def readEchoOptions : (escapes newline : Bool) → List Letters → Bool × Bool × List Letters
  | escapes, newline, ('-' :: c :: cs) :: rest =>
      if (c :: cs).all ['e', 'E', 'n'].contains then
        let escapes := match (c :: cs).reverse.find? (· ≠ 'n') with
          | some d => d == 'e'
          | none => escapes
        readEchoOptions escapes (newline && !(c :: cs).contains 'n') rest
      else (escapes, newline, ('-' :: c :: cs) :: rest)
  | escapes, newline, args => (escapes, newline, args)

def echo : Program := fun args => do
  let (escapes, newline, args) := readEchoOptions false true args
  let text := [' '].intercalate args
  let (text, ending) :=
    if escapes then resolveEscapes readEchoEscape (text.length + 1) text else (text, none)
  emit (text ++ if newline && ending.isNone then ['\n'] else [])

/-! ### Formats -/

def isNoLetter (n : Nat) : Bool := 0xd800 ≤ n && n ≤ 0xdfff

/-- A number in hexadecimal digits, at least so many. -/
def hexadecimal (width n : Nat) : Letters :=
  let digits := Nat.toDigits 16 n
  List.replicate (width - digits.length) '0' ++ digits

/-- A letter by its number. One that is not among the plain letters stays an escape. -/
def universalLetter (mark : Char) (digits : Nat) (t : Letters) : Escape :=
  let ds := Letters.digitsIn 16 (t.take digits)
  let n := Letters.valueIn 16 ds
  if ds.length < digits then .bad "missing hexadecimal number in escape".toList
  else if isNoLetter n then
    .bad ("invalid universal character name \\".toList ++ mark :: hexadecimal digits n)
  else if n < 128 then .text [Char.ofNat n] (t.drop digits)
  else
    let (mark, width) := if n < 0x10000 then ('u', 4) else ('U', 8)
    .text ('\\' :: mark :: (hexadecimal width n).map Char.toUpper) (t.drop digits)

/-- Reads an escape behind its backslash. In arguments a zero may stand in front of octal
digits. -/
def readFormatEscape (zeroInFront : Bool) (t : Letters) : Escape :=
  match t with
  | [] => .text ['\\'] []
  | 'c' :: _ => .stop
  | 'x' :: rest =>
      match hexadecimalLetter? rest with
      | some (c, rest) => .text [c] rest
      | none => .bad "missing hexadecimal number in escape".toList
  | 'u' :: rest => universalLetter 'u' 4 rest
  | 'U' :: rest => universalLetter 'U' 8 rest
  | '"' :: rest => .text ['"'] rest
  | c :: rest =>
      if c = '0' ∧ zeroInFront then octalText 3 rest
      else if isOctal c then octalText 3 t
      else match namedEscape? c with
      | some d => .text [d] rest
      | none => .text ['\\', c] rest

/-- Whether a conversion goes with the flags, the width and the precision in front of it. -/
def permitsConversion (body : Letters) (c : Char) : Bool :=
  let flags := body.takeWhile "-+ #0'I".toList.contains
  let ruled (flag : Char) (conversions : String) : Bool := flags.contains flag && conversions.toList.contains c
  if c = 'b' ∨ c = 'q' then body.isEmpty
  else "aAcdeEfFgGiosuxX".toList.contains c && !(ruled '\'' "aAceEosxX" || ruled 'I' "aAceEosxX" ||
    ruled '#' "cdisu" || ruled '0' "cs" || (body.contains '.' && c == 'c'))

def dialect : Dialect where
  precision := BinaryFraction.extended
  formatEscape := readFormatEscape false
  argumentEscape := readFormatEscape true
  sizes := "hlLjtz".toList
  flags := ['\'', 'I']
  permits := permitsConversion
  markIsNumber := false
  rangeFirst := true
  aboutLetter more :=
    warn ("warning: ".toList ++ more ++
      ": character(s) following character constant have been ignored".toList)
  complain t p := complain (quote t ++ match p with
    | .noNumber => ": expected a numeric value".toList
    | .notOnlyNumber => ": value not completely converted".toList
    | .outOfRange => ": Numerical result out of range".toList) 1
  refuse written := fail (written ++ ": invalid conversion specification".toList) 1
  refuseOpen written := fail (written ++ ": invalid conversion specification".toList) 1
  refuseEscape message := fail message 1

def printf : Program := fun args => do
  let args := match args with
    | ['-', '-'] :: args => args
    | args => args
  match args with
  | [] => misuse "missing operand".toList 1
  | format :: args =>
      match ← printFormatted dialect format args with
      | [] => pure ()
      | left :: _ =>
          warn ("warning: ignoring excess arguments, starting with ".toList ++ quote left)

end TwinRun.Tool
