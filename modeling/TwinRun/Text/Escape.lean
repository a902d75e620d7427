/-!
Sequences in a text that steer a terminal.

A sequence starts with the escape character. A bracket opens a control sequence, which a
letter or sign ends, or a title, which a bell or a terminator ends. Any other character ends
the sequence at once, and so does the end of the text.
-/

namespace TwinRun.Escape

/-- A character that is shown, or a sequence. -/
inductive Part where
  | char (c : Char)
  | sequence (cs : List Char)
  deriving DecidableEq, Repr

def Part.chars : Part → List Char
  | .char c => [c]
  | .sequence cs => cs

def Part.isChar : Part → Bool
  | .char _ => true
  | .sequence _ => false

def start : Char := '\x1b'

def bell : Char := '\x07'

/-- What is being read. The characters of a sequence come last first. -/
inductive Reading where
  | text
  | begun
  | control (read : List Char)
  | title (read : List Char)
  deriving DecidableEq, Repr

/-- A sequence that ends here, if one is being read. -/
def Reading.ended : Reading → List Part
  | text => []
  | begun => [.sequence [start]]
  | control read | title read => [.sequence read.reverse]

/-- The parts of a text behind what has been read. -/
def partsFrom : Reading → List Char → List Part
  | r, [] => r.ended
  | .text, c :: rest =>
      if c = start then partsFrom .begun rest else .char c :: partsFrom .text rest
  | .begun, c :: rest =>
      if c = '[' then partsFrom (.control [c, start]) rest
      else if c = ']' then partsFrom (.title [c, start]) rest
      else .sequence [start, c] :: partsFrom .text rest
  | .control read, c :: rest =>
      if '@' ≤ c ∧ c ≤ '~' then .sequence (c :: read).reverse :: partsFrom .text rest
      else partsFrom (.control (c :: read)) rest
  | .title read, c :: rest =>
      if c = bell ∨ (c = '\\' ∧ read.head? = some start) then
        .sequence (c :: read).reverse :: partsFrom .text rest
      else partsFrom (.title (c :: read)) rest

/-- The parts of a text, in order. -/
def parts (cs : List Char) : List Part := partsFrom .text cs

end TwinRun.Escape
