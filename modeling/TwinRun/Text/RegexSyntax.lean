import TwinRun.Text.Decimal

/-!
Whether a text is a regular expression.

Only the spelling is looked at. No brace stands in the text, so there is no counted repetition.
-/

namespace TwinRun.RegexSyntax

/-- Letters that may follow a backslash: classes of characters, ends of the text and controls. -/
def isEscapeLetter (c : Char) : Bool := "dDsSwWAzaftnrv".toList.contains c

/-- How many hexadecimal digits follow the letter of a code. -/
def codeLength? : Char → Option Nat
  | 'x' => some 2
  | 'u' => some 4
  | 'U' => some 8
  | _ => none

def isCategory (c : Char) : Bool := "LMNPSZC".toList.contains c

/-- What follows a backslash, and how many characters of it belong to the escape sequence. -/
def escapeLength? : List Char → Option Nat
  | [] => none
  | c :: rest =>
      if isEscapeLetter c then some 1
      else if c = 'p' ∨ c = 'P' then (if rest.head?.any isCategory then some 2 else none)
      else match codeLength? c with
        | some n =>
            if (rest.take n).length = n ∧ (rest.take n).all (Decimal.digitValue? · |>.isSome) then
              some (n + 1)
            else none
        | none => if c.isAlphanum ∨ c = '<' ∨ c = '>' then none else some 1

def isFlag (c : Char) : Bool := "imsUuxR-".toList.contains c

/-- Reads what stands behind an opening parenthesis and its question mark. Results in how many
characters that is and whether a group is open. -/
def groupHead? (cs : List Char) : Option (Nat × Bool) :=
  let flags := cs.takeWhile isFlag
  match cs.drop flags.length with
  | ':' :: _ => some (flags.length + 1, true)
  | ')' :: _ => if flags.isEmpty then none else some (flags.length + 1, false)
  | rest =>
      let named := match flags, rest with
        | [], 'P' :: '<' :: name => some (2, name)
        | [], '<' :: name => some (1, name)
        | _, _ => none
      named.bind fun (n, name) =>
        let word := name.takeWhile fun c => c.isAlphanum || c == '_'
        if word.head?.any (fun c => !c.isDigit) ∧ (name.drop word.length).head? = some '>' then
          some (n + word.length + 1, true)
        else none

structure Reading where
  /-- How many characters are passed over. -/
  owed : Nat := 0
  groups : Nat := 0
  /-- How many bracket expressions are open. -/
  brackets : Nat := 0
  /-- At the start of a bracket expression. -/
  opening : Bool := false
  /-- Something stands in front that may be repeated. -/
  repeatable : Bool := false

/-- Reads one character, given those behind it. -/
def Reading.push? (x : Reading) (c : Char) (rest : List Char) : Option Reading :=
  if x.owed > 0 then some { x with owed := x.owed - 1 }
  else if x.brackets > 0 then
    match c with
    | '\\' => (escapeLength? rest).map fun n => { x with owed := n, opening := false }
    | '[' => some { x with brackets := x.brackets + 1, opening := true }
    | ']' => if x.opening then some { x with opening := false }
        else some { x with brackets := x.brackets - 1, repeatable := true }
    | '^' => some x
    | _ => some { x with opening := false }
  else match c with
    | '\\' => (escapeLength? rest).map fun n => { x with owed := n, repeatable := true }
    | '[' => some { x with brackets := 1, opening := true }
    | '(' =>
        match rest with
        | '?' :: head => (groupHead? head).map fun (n, isOpen) =>
            { x with owed := n + 1, groups := x.groups + (if isOpen then 1 else 0), repeatable := false }
        | _ => some { x with groups := x.groups + 1, repeatable := false }
    | ')' => if x.groups = 0 then none else some { x with groups := x.groups - 1, repeatable := true }
    | '|' => some { x with repeatable := false }
    | '*' | '+' | '?' => if x.repeatable then some x else none
    | '\x7b' => none
    | _ => some { x with repeatable := true }

def Reading.finish : Reading → List Char → Bool
  | x, [] => x.groups = 0 && x.brackets = 0
  | x, c :: rest => (x.push? c rest).any (·.finish rest)

def isWellFormed (cs : List Char) : Bool := Reading.finish {} cs

end TwinRun.RegexSyntax
