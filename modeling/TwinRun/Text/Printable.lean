/-!
Texts without control characters.

A text that quotes what a user has typed may hold control characters and escape sequences for
terminals. They are left out; blanks and line breaks stay.
-/

namespace TwinRun.Printable

/-- What the next character belongs to. -/
inductive Context where
  | text
  /-- An escape sequence that has just begun. -/
  | escape
  /-- An escape sequence of two or more characters, up to its final one. -/
  | final
  /-- A control sequence with parameters. -/
  | control
  /-- A title for the terminal, which a bell ends. -/
  | title
  /-- The head of a string for the device, up to its final character. -/
  | device
  /-- A string for the terminal that a terminator ends. -/
  | string
  deriving DecidableEq, Repr

def escapeCharacter : Char := '\x1b'

/-- Characters that break off any sequence. -/
def isCancel (c : Char) : Bool := c == '\x18' || c == '\x1a'

def isBlankControl (c : Char) : Bool := c == '\t' || c == '\n' || c == '\x0c' || c == '\r'

def isShown (c : Char) : Bool := (' ' ≤ c && c != '\x7f') || isBlankControl c

/-- Whether the encoding of a character has the byte that is a string terminator by itself. -/
def holdsTerminator (c : Char) : Bool := (String.utf8EncodeChar c).contains 0x9c

def Context.next (x : Context) (c : Char) : Context :=
  if isCancel c then .text
  else match x with
    | .text => .text
    | .escape =>
        if c = '[' then .control
        else if c = ']' then .title
        else if c = 'P' then .device
        else if c = 'X' ∨ c = '^' ∨ c = '_' then .string
        else if ' ' ≤ c ∧ c ≤ '/' then .final
        else if '0' ≤ c ∧ c ≤ '~' then .text
        else .escape
    | .final => if '0' ≤ c ∧ c ≤ '~' then .text else .final
    | .control => if '@' ≤ c ∧ c ≤ '~' then .text else .control
    | .title => if c = '\x07' then .text else .title
    | .device => if c = ':' ∨ ('@' ≤ c ∧ c ≤ '~') then .string else .device
    | .string => if holdsTerminator c then .text else .string

/-- Whether a character ends a sequence early and is shown itself. -/
def Context.breaksAt (x : Context) (c : Char) : Bool :=
  match x with
  | .title | .device | .string => false
  | _ => isBlankControl c

def shown : Context → List Char → List Char
  | _, [] => []
  | x, c :: rest =>
      if c = escapeCharacter then shown .escape rest
      else if x = .text then (if isShown c then c :: shown .text rest else shown .text rest)
      else if x.breaksAt c then c :: shown .text rest
      else shown (x.next c) rest

def text (s : String) : String := String.ofList (shown .text s.toList)

end TwinRun.Printable
