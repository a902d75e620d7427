import TwinRun.Script.Syntax
import TwinRun.System.Files

/-!
Patterns: for words, and for the names in directories.

A pattern is given as letters in which a backslash protects the one after it.
-/

namespace TwinRun.Script

inductive Member where
  | range (low high : Char)
  | kind (name : String)
  deriving DecidableEq, Repr

inductive PatternItem where
  | letter (c : Char)
  | any
  | many
  | set (negated : Bool) (members : List Member)
  deriving DecidableEq, Repr

abbrev Pattern := List PatternItem

namespace Pattern

/-! ### Sets of letters -/

def kinds : List (String × (Char → Bool)) := [
  ("alnum", Char.isAlphanum), ("alpha", Char.isAlpha), ("blank", fun c => c == ' ' || c == '\t'),
  ("cntrl", fun c => c.toNat < 32 || c.toNat == 127), ("digit", Char.isDigit),
  ("graph", fun c => 32 < c.toNat && c.toNat < 127), ("lower", Char.isLower),
  ("print", fun c => 32 ≤ c.toNat && c.toNat < 127),
  ("punct", fun c => 32 < c.toNat && c.toNat < 127 && !c.isAlphanum), ("space", Letters.isSpace),
  ("upper", Char.isUpper),
  ("xdigit", fun c => c.isDigit || ('a' ≤ c && c ≤ 'f') || ('A' ≤ c && c ≤ 'F'))]

def Member.holds (c : Char) : Member → Bool
  | .range low high => low ≤ c && c ≤ high
  | .kind name => ((kinds.lookup name).getD fun _ => false) c

/-- Reads a named kind behind its opening bracket. -/
def readKind? (t : Letters) : Option (Member × Letters) :=
  match t with
  | ':' :: t =>
      kinds.findSome? fun (name, _) =>
        let ending := name.toList ++ [':', ']']
        if ending.isPrefixOf t then some (.kind name, t.drop ending.length) else none
  | _ => none

/-- Reads the inside of brackets up to the closing one, which may be the first member. -/
def readMembers : (fuel : Nat) → (first : Bool) → Letters → Option (List Member × Letters)
  | 0, _, _ => none
  | _, _, [] => none
  | fuel + 1, first, c :: rest =>
      if c = ']' ∧ ¬ first then some ([], rest)
      else match if c = '[' then readKind? rest else none with
        | some (kind, rest) => (readMembers fuel false rest).map fun (ms, rest) => (kind :: ms, rest)
        | none =>
            match c, rest with
            | '\\', c :: rest => member fuel c rest
            | c, rest => member fuel c rest
where
  member (fuel : Nat) (c : Char) (rest : Letters) : Option (List Member × Letters) :=
    let single := (readMembers fuel false rest).map fun (ms, rest) => (.range c c :: ms, rest)
    match rest with
    | '-' :: high :: after =>
        if high = ']' then single
        else
          let (high, after) := if high = '\\' then (after.headD ']', after.tail) else (high, after)
          (readMembers fuel false after).map fun (ms, rest) => (.range c high :: ms, rest)
    | _ => single

/-! ### Patterns -/

/-- Reads a pattern. Brackets that are not closed are letters. -/
def read : (fuel : Nat) → Letters → Pattern
  | 0, _ => []
  | fuel + 1, t =>
      match t with
      | [] => []
      | '*' :: rest => .many :: read fuel rest
      | '?' :: rest => .any :: read fuel rest
      | '\\' :: c :: rest => .letter c :: read fuel rest
      | '[' :: rest =>
          let (negated, inner) := match rest with
            | '!' :: inner => (true, inner)
            | inner => (false, inner)
          match readMembers (inner.length + 1) true inner with
          | some (members, rest) => .set negated members :: read fuel rest
          | none => .letter '[' :: read fuel rest
      | c :: rest => .letter c :: read fuel rest

def ofLetters (t : Letters) : Pattern := read (t.length + 1) t

/-- A text and what is left after each of its letters. -/
def suffixes : Letters → List Letters
  | [] => [[]]
  | c :: rest => (c :: rest) :: suffixes rest

def fits : Pattern → Letters → Bool
  | [], t => t.isEmpty
  | .many :: p, t => (suffixes t).any (fits p)
  | .any :: p, _ :: t => fits p t
  | .letter c :: p, d :: t => c == d && fits p t
  | .set negated members :: p, c :: t => members.any (Member.holds c) != negated && fits p t
  | _ :: _, [] => false

/-- How much of the start of a text fits, the least or the most. -/
def fittingStart? (p : Pattern) (longest : Bool) (t : Letters) : Option Nat :=
  let ends := (List.range (t.length + 1)).filter fun n => p.fits (t.take n)
  if longest then ends.getLast? else ends.head?

/-- Where the end of a text begins that fits, the shortest or the longest. -/
def fittingEnd? (p : Pattern) (longest : Bool) (t : Letters) : Option Nat :=
  let starts := (List.range (t.length + 1)).filter fun n => p.fits (t.drop n)
  if longest then starts.head? else starts.getLast?

/-! ### Names -/

/-- The letters without the backslashes that protect them. -/
def unescaped : Letters → Letters
  | '\\' :: c :: rest => c :: unescaped rest
  | c :: rest => c :: unescaped rest
  | [] => []

/-- The pieces between slashes, whether these are protected or not. -/
def pieces : Letters → List Letters
  | [] => [[]]
  | '\\' :: '/' :: rest => [] :: pieces rest
  | '/' :: rest => [] :: pieces rest
  | '\\' :: c :: rest =>
      match pieces rest with
      | item :: items => ('\\' :: c :: item) :: items
      | [] => [['\\', c]]
  | c :: rest =>
      match pieces rest with
      | item :: items => (c :: item) :: items
      | [] => [[c]]

/-- Whether anything but letters is in the pattern. -/
def isProper (p : Pattern) : Bool :=
  p.any fun
    | .letter _ => false
    | _ => true

/-- The paths that go on from a path as the pieces say. -/
def expandFrom (fs : Files) (directory : Location) : (path : Letters) → List Letters → List Letters
  | path, [] =>
      if (fs.find directory ⟨Letters.bytes path⟩ false).toOption.isSome then [path] else []
  | path, piece :: more =>
      let slash : Letters := if more.isEmpty then [] else ['/']
      let p := ofLetters piece
      if p.isProper then
        let base : Path := if path.isEmpty then ⟨Path.currentName⟩ else ⟨Letters.bytes path⟩
        match fs.list directory base with
        | .ok names =>
            let dotted := (unescaped (piece.take 2)).head? = some '.'
            let all := ['.'] :: ['.', '.'] :: names.map Letters.ofBytes
            let fitting := all.filter fun name => (dotted || name.head? ≠ some '.') && p.fits name
            fitting.flatMap fun name => expandFrom fs directory (path ++ name ++ slash) more
        | .error _ => []
      else expandFrom fs directory (path ++ unescaped piece ++ slash) more

/-- The paths that fit a pattern, in byte order; none, if it is just letters. -/
def paths (fs : Files) (directory : Location) (t : Letters) : List Letters :=
  let ps := pieces t
  if ps.any fun piece => (ofLetters piece).isProper then
    (expandFrom fs directory [] ps).mergeSort Letters.le
  else []

end Pattern

end TwinRun.Script
