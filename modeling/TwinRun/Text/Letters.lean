import TwinRun.Bytes

/-!
Bytes as characters.

Programs that look at single bytes but treat many of them as letters read a byte string as
the characters of the same numbers. Nothing is decoded: `Letters.bytes` gives the byte string
back.
-/

namespace TwinRun

/-- A byte string, each byte as the character of its number. -/
abbrev Letters := List Char

namespace Letters

def ofBytes (b : Bytes) : Letters := b.map Char.ofUInt8

def bytes (t : Letters) : Bytes := t.map Char.toUInt8

def ofString (s : String) : Letters := ofBytes (Bytes.ofString s)

/-- What stands before the first letter of a kind, and what comes after it, if there is one. -/
def cut (isSeparator : Char → Bool) (t : Letters) : Letters × Option Letters :=
  match t.span (!isSeparator ·) with
  | (before, _ :: after) => (before, some after)
  | (before, []) => (before, none)

def splitOn (separator : Char) (t : Letters) : List Letters :=
  t.foldr (fun c items =>
    if c = separator then [] :: items
    else match items with
      | [] => [[c]]
      | item :: rest => (c :: item) :: rest) [[]]

/-- The lines, with their line feeds. Only the last may lack one. -/
def lines (t : Letters) : List Letters :=
  t.foldr (fun c lines =>
    if c = '\n' then ['\n'] :: lines
    else match lines with
      | [] => [[c]]
      | line :: rest => (c :: line) :: rest) []

/-- A line without its line feed. -/
def chomp (line : Letters) : Letters :=
  if line.getLast? = some '\n' then line.dropLast else line

/-- The lines, without their line feeds. -/
def contents (t : Letters) : List Letters := (lines t).map chomp

/-- Byte order, a proper start first. -/
def le : Letters → Letters → Bool
  | [], _ => true
  | _ :: _, [] => false
  | a :: as, b :: bs => a < b || (a == b && le as bs)

def isSpace (c : Char) : Bool :=
  c == ' ' || c == '\t' || c == '\n' || c == '\r' || c == '\x0b' || c == '\x0c'

def words (t : Letters) : List Letters :=
  (t.foldr (fun c items =>
    if isSpace c then [] :: items
    else match items with
      | [] => [[c]]
      | item :: rest => (c :: item) :: rest) [[]]).filter (· ≠ [])

def int? (t : Letters) : Option Int :=
  let digits (ds : Letters) : Option Nat :=
    if ds = [] ∨ ¬ ds.all Char.isDigit then none
    else some (ds.foldl (fun n d => n * 10 + (d.toNat - '0'.toNat)) 0)
  match t with
  | '-' :: ds => (digits ds).map fun n => -(n : Int)
  | '+' :: ds => (digits ds).map fun n => (n : Int)
  | ds => (digits ds).map fun n => (n : Int)

def nat? (t : Letters) : Option Nat :=
  if t.all Char.isDigit then (int? t).map Int.toNat else none

def padLeft (width : Nat) (t : Letters) : Letters :=
  List.replicate (width - t.length) ' ' ++ t

def ofNat (n : Nat) : Letters := Nat.toDigits 10 n

def ofInt (n : Int) : Letters :=
  if n < 0 then '-' :: ofNat n.natAbs else ofNat n.natAbs

end Letters

end TwinRun
