import TwinRun.Text.Letters

/-!
What a script of the shell is made of.

A word keeps its quotes: `Part.quotes` stands for a quotation mark that has been read, so an
expansion knows whether it is inside a pair of them, and `Part.escaped` for a letter that means
nothing but itself. Scripts in substitutions are read together with the word they are in.
-/

namespace TwinRun.Script

/-- What is made of the value of a parameter. -/
inductive Operation where
  /-- The value itself. -/
  | value
  /-- The number of its letters. -/
  | length
  /-- A word in its place, if there is none. -/
  | orElse
  /-- The same, and the parameter gets the word as value. -/
  | assign
  /-- A message, if there is none. -/
  | demand
  /-- A word in its place, if there is one. -/
  | replace
  /-- Without an end that fits a pattern, the shortest or the longest. -/
  | dropEnd (longest : Bool)
  /-- Without a start that fits a pattern. -/
  | dropStart (longest : Bool)
  /-- Nothing that the shell knows. -/
  | invalid
  deriving DecidableEq, Repr

/-- How a file of a redirection is opened. -/
inductive Direction where
  | input
  | output
  /-- Output that may replace a file in any case. -/
  | replacing
  | append
  | both
  deriving DecidableEq, Repr

def startsName (c : Char) : Bool := c.isAlpha || c == '_'

def isNameLetter (c : Char) : Bool := c.isAlphanum || c == '_'

def isName (t : Letters) : Bool :=
  match t with
  | c :: rest => startsName c && rest.all isNameLetter
  | [] => false

def isSpecialParameter (c : Char) : Bool := "*@#?-$!".toList.contains c || c.isDigit

mutual

inductive Part where
  | letter (c : Char)
  /-- A letter that stands for itself only. -/
  | escaped (c : Char)
  /-- A quotation mark: what lies between two of them is quoted. -/
  | quotes
  /-- A parameter. With a colon, an empty value counts as none. -/
  | parameter (name : Letters) (operation : Operation) (colon : Bool) (word : List Part)
  /-- The output of a command. -/
  | output (command : Command)
  | arithmetic (expression : List Part)

inductive Redirection where
  | file (descriptor : Nat) (direction : Direction) (name : List Part)
  /-- A copy of the descriptor that the word names. -/
  | copy (descriptor : Nat) (source : List Part)
  /-- A text that stands in the script itself, known by number. -/
  | text (descriptor : Nat) (document : Nat)

/-- A command, with the line it stands in where a message may need it. -/
inductive Command where
  | nothing
  | simple (line : Nat) (assignments words : List (List Part)) (redirections : List Redirection)
  | pipe (commands : List Command) (background : Bool)
  | negation (c : Command)
  /-- The second only after success of the first. -/
  | both (first second : Command)
  /-- The second only after failure of the first. -/
  | either (first second : Command)
  | sequence (first second : Command)
  | background (line : Nat) (c : Command) (redirections : List Redirection)
  | subshell (line : Nat) (c : Command) (redirections : List Redirection)
  | redirected (line : Nat) (c : Command) (redirections : List Redirection)
  | choice (condition yes : Command) (no : Option Command)
  /-- Repeats as long as the condition has this result. -/
  | loop (result : Bool) (condition body : Command)
  | iteration (line : Nat) (name : Letters) (words : List (List Part)) (body : Command)
  | selection (line : Nat) (word : List Part) (clauses : List (List (List Part) × Command))
  | definition (line : Nat) (name : Letters) (body : Command)

end

abbrev Word := List Part

namespace Word

/-- The word without quotes and expansions, if it has none. -/
def plain? (w : Word) : Option Letters :=
  w.mapM fun
    | .letter c => some c
    | _ => none

/-- The letters of a word in which nothing is expanded. -/
def literal (w : Word) : Letters :=
  w.filterMap fun
    | .letter c | .escaped c => some c
    | _ => none

/-- Whether the word gives a value to a name. -/
def isAssignment (w : Word) : Bool :=
  let name := w.takeWhile fun
    | .letter c => isNameLetter c
    | _ => false
  match name, w.drop name.length with
  | .letter c :: _, .letter '=' :: _ => startsName c
  | _, _ => false

def ofLetters (t : Letters) : Word := t.map .letter

/-- All arguments, each by itself. -/
def allArguments : Word := [.quotes, .parameter ['@'] .value false [], .quotes]

end Word

end TwinRun.Script
