import TwinRun.Text.Letters

/-!
The tokens of a script.

A word is a keyword only where one is looked for, so the keywords are tokens of their own, and
what is looked for is told by `Checks`.
-/

namespace TwinRun.Script

/-- Words with a meaning at the start of a command. -/
inductive Keyword where
  | negation
  | selection
  | bodyStart
  | bodyEnd
  | elseIf
  | otherwise
  | selectionEnd
  | choiceEnd
  | iteration
  | choice
  | among
  | consequence
  | repeatUntil
  | repeatWhile
  | groupStart
  | groupEnd
  deriving DecidableEq, Repr

namespace Keyword

def text : Keyword → String
  | .negation => "!"
  | .selection => "case"
  | .bodyStart => "do"
  | .bodyEnd => "done"
  | .elseIf => "elif"
  | .otherwise => "else"
  | .selectionEnd => "esac"
  | .choiceEnd => "fi"
  | .iteration => "for"
  | .choice => "if"
  | .among => "in"
  | .consequence => "then"
  | .repeatUntil => "until"
  | .repeatWhile => "while"
  | .groupStart => "\x7b"
  | .groupEnd => "\x7d"

def all : List Keyword := [
  .negation, .selection, .bodyStart, .bodyEnd, .elseIf, .otherwise, .selectionEnd, .choiceEnd,
  .iteration, .choice, .among, .consequence, .repeatUntil, .repeatWhile, .groupStart, .groupEnd]

def ofLetters? (t : Letters) : Option Keyword := all.find? (·.text.toList == t)

/-- Whether a list of commands ends in front of the keyword. -/
def endsList : Keyword → Bool
  | .bodyStart | .bodyEnd | .elseIf | .otherwise | .selectionEnd | .choiceEnd | .consequence
  | .groupEnd => true
  | _ => false

end Keyword

inductive Token where
  | endOfFile
  | newline
  | semicolon
  | background
  | and
  | or
  | pipe
  | leftParen
  | rightParen
  /-- Two semicolons. -/
  | endClause
  | redirection
  | word
  | keyword (k : Keyword)
  deriving DecidableEq, Repr

namespace Token

def shown : Token → String
  | .endOfFile => "end of file"
  | .newline => "newline"
  | .semicolon => "\";\""
  | .background => "\"&\""
  | .and => "\"&&\""
  | .or => "\"||\""
  | .pipe => "\"|\""
  | .leftParen => "\"(\""
  | .rightParen => "\")\""
  | .endClause => "\";;\""
  | .redirection => "redirection"
  | .word => "word"
  | .keyword k => "\"" ++ k.text ++ "\""

/-- Whether a list of commands ends in front of the token. -/
def endsList : Token → Bool
  | .endOfFile | .rightParen | .endClause => true
  | .keyword k => k.endsList
  | _ => false

end Token

/-- What is looked for in the next token. -/
structure Checks where
  /-- Line ends are passed over. -/
  newlines : Bool := false
  keywords : Bool := false
  aliases : Bool := false
  /-- The word is the end mark of a text in the script: nothing is expanded in it. -/
  mark : Bool := false
  deriving DecidableEq, Repr

namespace Checks

def union (a b : Checks) : Checks :=
  ⟨a.newlines || b.newlines, a.keywords || b.keywords, a.aliases || b.aliases, a.mark || b.mark⟩

def command : Checks := { keywords := true, aliases := true }

/-- At the start of a command that may be on a later line. -/
def commandBelow : Checks := { newlines := true, keywords := true, aliases := true }

end Checks

end TwinRun.Script
