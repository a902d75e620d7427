import TwinRun.Text.Integer
import TwinRun.Tool.Basic

/-!
Conditions: facts about texts, numbers and files, and the tool that evaluates them.

Conditions of few words are told apart by their number; longer ones are read with `-o` binding
loosest, then `-a`, then `!`.
-/

namespace TwinRun.Tool

namespace Condition

/-! ### Facts -/

/-- What a path leads to has some property. -/
def fileIs (property : FileNode → Bool) (follow : Bool) (t : Letters) (r : Run) : Bool :=
  match r.kernel.files.find r.process.directory (pathOf t) follow with
  | .ok (_, n) => property n
  | .error _ => false

def isRegular : FileNode → Bool
  | .file .. | .tool _ => true
  | _ => false

def isExecutable : FileNode → Bool
  | .file _ _ x => x
  | .tool _ | .directory => true
  | _ => false

def isFilled : FileNode → Bool
  | .file _ content _ => !content.isEmpty
  | .directory | .tool _ => true
  | _ => false

def isDevice : FileNode → Bool
  | .device _ => true
  | _ => false

def isLink : FileNode → Bool
  | .link _ => true
  | _ => false

def unary (c : Char) (t : Letters) (r : Run) : Bool :=
  match c with
  | 'n' => !t.isEmpty
  | 'z' => t.isEmpty
  | 'e' | 'r' | 'w' | 'O' | 'G' => fileIs (fun _ => true) true t r
  | 'f' => fileIs isRegular true t r
  | 'd' => fileIs (· == .directory) true t r
  | 'x' => fileIs isExecutable true t r
  | 's' => fileIs isFilled true t r
  | 'c' => fileIs isDevice true t r
  | 'h' | 'L' => fileIs isLink false t r
  | _ => false

def sameFile (a b : Letters) (r : Run) : Bool :=
  let place (t : Letters) := r.kernel.files.find r.process.directory (pathOf t) true
  match place a, place b with
  | .ok (l, .file i _ _), .ok (l', .file i' _ _) => l = l' || i = i'
  | .ok (l, _), .ok (l', _) => l = l'
  | _, _ => false

/-- Whether two numbers compare in the way that a name tells. -/
def holds (name : String) (a b : Int) : Bool :=
  match name with
  | "eq" => a == b
  | "ne" => a != b
  | "lt" => a < b
  | "le" => a ≤ b
  | "gt" => b < a
  | _ => b ≤ a

/-! ### Reading -/

/-- A condition being read: the words from the place of reading on, and the last word of all. -/
structure Reader where
  rest : List Letters
  last : Letters

/-- Reading, which fails with a message. -/
abbrev Reading := ReaderT Run (StateT Reader (Except Letters))

def refuse {α : Type} (message : Letters) : Reading α := throw message

/-- Complains that a word is missing. -/
def beyond {α : Type} : Reading α := do refuse ("missing argument after ".toList ++ quote (← get).last)

/-- Goes on to the next word, which has to be there if that is `needed`. -/
def advance (needed : Bool) : Reading Unit := do
  modify fun s => { s with rest := s.rest.drop 1 }
  if needed && (← get).rest.isEmpty then beyond

def word : Reading Letters := do
  match (← get).rest with
  | t :: _ =>
      advance false
      return t
  | [] => beyond

def peek? (n : Nat) : Reading (Option Letters) := do return (← get).rest[n]?

/-- Whether a word compares two others. -/
def isBinary (t : Letters) : Bool :=
  ["=", "==", "!=", "-eq", "-ne", "-lt", "-le", "-gt", "-ge", "-nt", "-ot", "-ef"].any (·.toList == t)

/-- The number that a word spells. -/
def integer (t : Letters) : Reading Int := do
  let (n, rest) := Letters.leadingInteger 10 t
  if rest.all (fun c => c == ' ' || c == '\t') && rest.length < t.length then return n
  refuse ("invalid integer ".toList ++ quote t)

def unaryCondition : Reading Bool := do
  match (← get).rest with
  | ['-', c] :: _ =>
      if !"nzerwxOGfdscbpugkhLSNt".toList.contains c then
        refuse (quote ['-', c] ++ ": unary operator expected".toList)
      advance true
      let t ← word
      if c = 't' then
        let _ ← integer t
        return false
      return unary c t (← read)
  | _ => return false

/-- A value that numbers are compared by: a number, or the length of a text. -/
def operand (isLength : Bool) : Reading Int := do
  if isLength then
    advance true
    return ((← word).length : Int)
  integer (← word)

/-- A condition with an operator between two words. -/
def binaryCondition (leftLength : Bool) : Reading Bool := do
  let operator := (← peek? (if leftLength then 2 else 1)).getD []
  let name := String.ofList (operator.drop 1)
  if ["eq", "ne", "lt", "le", "gt", "ge"].contains name && operator.head? = some '-' then
    let a ← operand leftLength
    advance true
    let rightLength := (← peek? 0) = some "-l".toList && (← get).rest.length > 1
    let b ← operand rightLength
    return holds name a b
  let a ← word
  advance true
  let b ← word
  match String.ofList operator with
  | "=" | "==" => return a == b
  | "!=" => return a != b
  | "-ef" => return sameFile a b (← read)
  | _ => return false

def oneWord : Reading Bool := do return !(← word).isEmpty

def isOption (t : Letters) : Bool :=
  match t with
  | ['-', _] => true
  | _ => false

def twoWords : Reading Bool := do
  let t := (← peek? 0).getD []
  if t = ['!'] then
    advance false
    return !(← oneWord)
  else if isOption t then unaryCondition
  else beyond

mutual

def threeWords : (fuel : Nat) → Reading Bool
  | 0 => return false
  | fuel + 1 => do
      let a := (← peek? 0).getD []
      let b := (← peek? 1).getD []
      let c := (← peek? 2).getD []
      if isBinary b then binaryCondition false
      else if a = ['!'] then
        advance true
        return !(← twoWords)
      else if a = ['('] && c = [')'] then
        advance false
        let v ← oneWord
        advance false
        return v
      else if b = "-a".toList || b = "-o".toList then alternatives fuel
      else refuse (quote b ++ ": binary operator expected".toList)

def condition : (fuel : Nat) → (count : Nat) → Reading Bool
  | 0, _ => return false
  | fuel + 1, count => do
      match count with
      | 1 => oneWord
      | 2 => twoWords
      | 3 => threeWords fuel
      | 4 =>
          let first := (← peek? 0).getD []
          if first = ['!'] then
            advance true
            return !(← threeWords fuel)
          else if first = ['('] && (← peek? 3) = some [')'] then
            advance false
            let v ← twoWords
            advance false
            return v
          else alternatives fuel
      | _ => alternatives fuel

def alternatives : (fuel : Nat) → Reading Bool
  | 0 => return false
  | fuel + 1 => do
      let a ← conjunction fuel
      if (← peek? 0) ≠ some "-o".toList then return a
      advance false
      let b ← alternatives fuel
      return a || b

def conjunction : (fuel : Nat) → Reading Bool
  | 0 => return false
  | fuel + 1 => do
      let a ← term fuel
      if (← peek? 0) ≠ some "-a".toList then return a
      advance false
      let b ← conjunction fuel
      return a && b

def term : (fuel : Nat) → Reading Bool
  | 0 => return false
  | fuel + 1 => do
      match ← peek? 0 with
      | none => beyond
      | some ['!'] =>
          advance true
          return !(← term fuel)
      | some ['('] =>
          advance true
          let words := (← get).rest
          let before := (words.drop 1).takeWhile (· ≠ [')'])
          let count := if before.length < 4 then before.length + 1 else words.length
          let v ← condition fuel count
          match ← peek? 0 with
          | none => refuse "')' expected".toList
          | some t =>
              if t ≠ [')'] then refuse ("')' expected, found ".toList ++ quote t)
              advance false
              return v
      | some t =>
          let words := (← get).rest
          if words.length ≥ 4 && t = "-l".toList && (words[2]?).any isBinary then binaryCondition true
          else if words.length ≥ 3 && (words[1]?).any isBinary then binaryCondition false
          else if isOption t then unaryCondition
          else oneWord

end

/-- The value of a condition; without words it does not hold. -/
def value (r : Run) (ts : List Letters) : Except Letters Bool :=
  match ts.getLast? with
  | none => .ok false
  | some last => do
      let (v, s) ← (condition (8 * ts.length + 8) ts.length r).run ⟨ts, last⟩
      match s.rest with
      | t :: _ => throw ("extra argument ".toList ++ quote t)
      | [] => return v

end Condition

def test : Program := fun args => do
  match Condition.value (← get) args with
  | .ok v => endWith (if v then 0 else 1)
  | .error problem => fail problem 2

def bracket : Program := fun args => do
  if args.getLast? = some [']'] then test args.dropLast else fail "missing ']'".toList 2

end TwinRun.Tool
