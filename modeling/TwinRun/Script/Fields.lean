import TwinRun.Script.Syntax

/-!
Expanded words, and the fields they are split into.

An expanded word is a list of stretches. Letters that were put in without quotes stand in
stretches that are split at separators; where several arguments were put in as one, they are
separated by borders. Everything else belongs to the field it touches. A quotation mark stays
until the end, so that an empty field in quotes is a field.
-/

namespace TwinRun.Script

/-- A piece of an expanded word. -/
inductive Glyph where
  /-- A letter. One that is protected is never part of a pattern. -/
  | letter (isProtected : Bool) (c : Char)
  | quotes
  deriving DecidableEq, Repr

/-- Stands between two arguments that were put in together. -/
def border : Char := '\x00'

inductive Splitting where
  | never
  /-- At borders only. -/
  | atBorders
  /-- At separators and at borders. -/
  | atSeparators
  deriving DecidableEq, Repr

structure Stretch where
  splitting : Splitting
  glyphs : List Glyph
  deriving DecidableEq, Repr

namespace Glyph

def text (gs : List Glyph) : Letters :=
  gs.filterMap fun
    | .letter _ c => some c
    | .quotes => none

/-- As a pattern: a backslash stands in front of every protected letter, unless one stands there
already that was not protected itself. -/
def pattern (gs : List Glyph) : Letters :=
  (go false gs)
where
  go (escaped : Bool) : List Glyph → Letters
    | [] => []
    | .quotes :: rest => go escaped rest
    | .letter true c :: rest => if escaped then c :: go false rest else '\\' :: c :: go false rest
    | .letter false c :: rest => c :: go (c == '\\' && !escaped) rest

def ofLetters (isProtected : Bool) (t : Letters) : List Glyph := t.map (.letter isProtected)

end Glyph

namespace Stretch

def glyphsOf (ss : List Stretch) : List Glyph := ss.flatMap (·.glyphs)

def text (ss : List Stretch) : Letters := Glyph.text (glyphsOf ss)

def pattern (ss : List Stretch) : Letters := Glyph.pattern (glyphsOf ss)

end Stretch

/-! ### Splitting -/

structure Splitter where
  /-- The fields so far, the latest first. -/
  fields : List (List Glyph) := []
  /-- The field at work, backwards. -/
  current : List Glyph := []
  /-- Blanks behind a field are being passed over. -/
  passing : Bool := false
  /-- How many fields may still be made, if there is a limit. The last one takes all there is. -/
  left : Option Nat := none
  /-- The last field as it was before blanks and one separator that may be its end. -/
  mark : Option (List Glyph) := none
  deriving DecidableEq, Repr

namespace Splitter

def isBlank (c : Char) : Bool := defaultBlanks.contains c
where
  defaultBlanks : Letters := [' ', '\t', '\n']

def push (s : Splitter) (g : Glyph) : Splitter := { s with current := g :: s.current }

/-- The next letter of a stretch. Behind a border a separator is never passed over like a blank. -/
def letter (separators : Letters) (afterBorders atBorders : Bool) (s : Splitter) (g : Glyph) (c : Char) :
    Splitter :=
  let separates := c = border || (!atBorders && separators.contains c)
  let blank := separates && isBlank c
  if s.left = some 0 then
    let s := s.push g
    if blank then { s with mark := some (s.mark.getD s.current.tail) }
    else { s with mark := if separates && s.passing then s.mark else none, passing := false }
  else
    let (s, separates, used) :=
      if s.passing then
        let s := { s with current := [] }
        if separates then (s, false, true) else (s, false, false)
      else (s, separates, false)
    if s.passing && used && blank then s
    else if used then { s with passing := false }
    else if separates then
      let s := if afterBorders || atBorders then s else { s with passing := blank }
      if s.current.isEmpty && s.passing then { s with passing := false }
      else match s.left with
        | some 1 => { s with left := some 0, mark := some s.current }.push g
        | left => { s with fields := s.current.reverse :: s.fields, current := [], left := left.map (· - 1) }
    else { s with passing := false }.push g

def stretch (separators : Letters) (afterBorders : Bool) (s : Splitter) (st : Stretch) : Splitter :=
  match st.splitting with
  | .never => { s with current := st.glyphs.reverse ++ s.current }
  | splitting =>
      st.glyphs.foldl (fun s g =>
        match g with
        | .letter _ c => letter separators afterBorders (splitting = .atBorders) s g c
        | .quotes => s.push g) { s with passing := false }

end Splitter

/-- Splits stretches into fields, no more than a limit. -/
def split (separators : Letters) (limit : Option Nat) (ss : List Stretch) : List (List Glyph) :=
  let (s, last) := ss.foldl (fun (s, last) st =>
    (Splitter.stretch separators (last = some .atBorders) s st,
      if st.splitting = .never then last else some st.splitting))
    (({ left := limit } : Splitter), (none : Option Splitting))
  let current := s.mark.getD s.current
  if current.isEmpty && last ≠ some .atBorders then s.fields.reverse
  else (current.reverse :: s.fields).reverse

end TwinRun.Script
