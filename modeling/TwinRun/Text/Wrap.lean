import TwinRun.Text.Alphanumeric
import TwinRun.Text.Columns
import TwinRun.Text.LineBreak

/-!
Breaking text into lines of a width.

A text is cut into pieces where a line may end; words are cut further behind hyphens between
letters or digits, and anywhere if they are wider than a line. Each line then takes as many
pieces as fit. The spaces at the end of a line are dropped.
-/

namespace TwinRun.Wrap

/-! ### Pieces -/

/-- A piece that is not broken further, with the spaces after it. -/
structure Piece where
  text : List Char
  spaces : Nat := 0
  deriving DecidableEq, Repr

def Piece.width (p : Piece) : Nat := Columns.of p.text

def Piece.chars (p : Piece) : List Char := p.text ++ List.replicate p.spaces ' '

/-- A word with the spaces at its end taken apart. -/
def Piece.ofWord (word : List Char) : Piece :=
  let text := (word.reverse.dropWhile (· = ' ')).reverse
  ⟨text, word.length - text.length⟩

/-- Whether a word may be cut behind a hyphen that stands between these characters. -/
def cutsAt (before : Option Char) (after : Char) : Bool :=
  before.any Alphanumeric.contains && Alphanumeric.contains after

/-- Cuts a text behind hyphens. The part in front, last character first, is `read`. -/
def hyphenParts (read : List Char) : List Char → List (List Char)
  | [] => [read.reverse]
  | c :: rest =>
      match read with
      | '-' :: more =>
          if cutsAt more.head? c then read.reverse :: hyphenParts [c] rest
          else hyphenParts (c :: read) rest
      | _ => hyphenParts (c :: read) rest

/-- Cuts a piece behind hyphens; the spaces stay with the last part. -/
def Piece.hyphenated (p : Piece) : List Piece :=
  let parts := hyphenParts [] p.text
  (parts.dropLast.map fun part => ⟨part, 0⟩) ++ (parts.getLast?.map fun part => ⟨part, p.spaces⟩).toList

/-- Parts of a text that are no wider than a line, if single characters are not. The part being
filled is `read`, last character first, and takes `used` columns. -/
def fittingParts (width : Nat) (read : List Char) (used : Nat) : List Escape.Part → List (List Char)
  | [] => [read.reverse]
  | p :: rest =>
      let more := Columns.ofPart p
      if p.isChar ∧ used > 0 ∧ used + more > width then
        read.reverse :: fittingParts width p.chars.reverse more rest
      else fittingParts width (p.chars.reverse ++ read) (used + more) rest

/-- Breaks a piece that is wider than a line. -/
def Piece.broken (width : Nat) (p : Piece) : List Piece :=
  if p.width ≤ width then [p]
  else
    let parts := fittingParts width [] 0 (Escape.parts p.text)
    (parts.dropLast.map fun part => ⟨part, 0⟩) ++ (parts.getLast?.map fun part => ⟨part, p.spaces⟩).toList

def pieces (width : Nat) (text : List Char) : List Piece :=
  (LineBreak.words text).flatMap fun word =>
    (Piece.ofWord word).hyphenated.flatMap (Piece.broken width)

/-! ### Lines -/

/-- The text of a line, without the spaces at its end. -/
def lineText (line : List Piece) : List Char :=
  line.dropLast.flatMap Piece.chars ++ (line.getLast?.map (·.text)).getD []

/-- Fills lines. The line being filled is `line`, last piece first, and takes `used` columns;
`width` is its width and `other` that of the lines after it. -/
def fill (width other : Nat) (line : List Piece) (used : Nat) : List Piece → List (List Piece)
  | [] => [line.reverse]
  | p :: rest =>
      if ¬ line.isEmpty ∧ used + p.width > width then
        line.reverse :: fill other other [p] (p.width + p.spaces) rest
      else fill width other (p :: line) (used + p.width + p.spaces) rest

/-- Breaks one line of text. An empty piece in front lets the first line stay empty. -/
def wrapLine (first other : Nat) (text : List Char) : List (List Char) :=
  (fill first other [] 0 (⟨[], 0⟩ :: pieces other text)).map lineText

/-- Breaks a text into lines of a width, with a first indentation and one for further lines. -/
def wrap (width : Nat) (firstIndent otherIndent text : String) : List String :=
  let room (indent : String) := width - Columns.of indent.toList
  let lines := (text.splitOn "\n").flatMap fun line =>
    wrapLine (room firstIndent) (room otherIndent) line.toList
  lines.zipIdx.map fun (line, i) =>
    (if i = 0 then firstIndent else otherIndent) ++ String.ofList line

end TwinRun.Wrap
