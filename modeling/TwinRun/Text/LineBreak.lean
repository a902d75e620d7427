import TwinRun.Text.BreakClass
import TwinRun.Text.Escape

/-!
Where a line may end.

Whether a line may end between two characters depends on their classes, on the spaces between
them and, in a few places, on what stands further in front. Marks take the class of the
character that they belong to. Sequences that steer a terminal are looked through; a line may
end in front of one, not behind it.
-/

namespace TwinRun.LineBreak

open BreakClass

/-! ### Classes -/

def isHard (k : BreakClass) : Bool :=
  k == mandatoryBreak || k == carriageReturn || k == lineFeed || k == nextLine

/-- Classes of characters that belong to the one in front. -/
def isMark (k : BreakClass) : Bool := k == combiningMark || k == joiner

def isLetter (k : BreakClass) : Bool := k == ordinary || k == hebrewLetter

def isPicture (k : BreakClass) : Bool :=
  k == ideographic || k == emojiBase || k == emojiModifier

def isKorean (k : BreakClass) : Bool :=
  k == leadingJamo || k == vowelJamo || k == trailingJamo || k == openSyllable
    || k == closedSyllable

def isTrailing (k : BreakClass) : Bool :=
  k == closing || k == closingParenthesis || k == exclamation || k == separator || k == slash

/-! ### What stands in front -/

/-- What stands in front of a place in a text. -/
structure Front where
  /-- The last character that is neither a space nor a mark of another. -/
  base : Option Char := none
  kind : BreakClass := ordinary
  /-- Spaces follow it. -/
  spaced : Bool := false
  /-- The place is directly behind a joiner. -/
  joined : Bool := false
  /-- A Hebrew letter stands in front of the base. -/
  hebrew : Bool := false
  /-- An odd number of regional indicators in a row ends at the base. -/
  oddRegion : Bool := false
  deriving Repr

/-- Whether a mark at this place belongs to the base. -/
def Front.takesMark (x : Front) : Bool :=
  x.base.isSome && !x.spaced && !isHard x.kind && x.kind != zeroWidthSpace

def Front.push (x : Front) (c : Char) : Front :=
  let k := BreakClass.ofChar c
  if k = space then { x with spaced := true, joined := false }
  else if isMark k ∧ x.takesMark then { x with joined := k = joiner }
  else
    { base := some c
      kind := if isMark k then ordinary else k
      joined := k = joiner
      hebrew := x.kind = hebrewLetter && !x.spaced
      oddRegion := k = regionalIndicator
        && !(x.kind = regionalIndicator && !x.spaced && x.oddRegion) }

/-! ### Opportunities -/

/-- Classes that nothing separates if they stand side by side. -/
def together (a b : BreakClass) : Bool :=
  (a == numeric && (isLetter b || b == percent || b == currency || b == numeric))
    || (isLetter a && (isLetter b || b == numeric || b == percent || b == currency))
    || (a == currency && (isPicture b || isLetter b || isKorean b || b == opening || b == numeric))
    || (a == percent && (isLetter b || b == opening || b == numeric))
    || (isPicture a && b == percent)
    || ((a == closing || a == closingParenthesis) && (b == percent || b == currency))
    || ((a == hyphen || a == separator || a == slash) && b == numeric)
    || (a == slash && b == hebrewLetter)
    || (a == separator && isLetter b)
    || (a == leadingJamo
      && (b == leadingJamo || b == vowelJamo || b == openSyllable || b == closedSyllable))
    || ((a == vowelJamo || a == openSyllable) && (b == vowelJamo || b == trailingJamo))
    || ((a == trailingJamo || a == closedSyllable) && b == trailingJamo)
    || (isKorean a && b == percent)
    || (a == emojiBase && b == emojiModifier)

/-- Whether a bracket and a letter or digit beside it stay together. -/
def bracketed (x : Front) (c : Char) (b : BreakClass) : Bool :=
  let isPlain : Char → Bool := fun d => !wideBrackets.contains d
  let isWord : BreakClass → Bool := fun k => isLetter k || k == numeric
  (isWord x.kind && b == opening && isPlain c)
    || (x.kind == closingParenthesis && isWord b && x.base.all isPlain)

/-- Whether a line may end between two characters without space between them. -/
def Front.splits (x : Front) (c : Char) (b : BreakClass) : Bool :=
  let a := x.kind
  if a = wordJoiner ∨ a = glue then false
  else if b = glue ∧ ¬ (a = breakAfter ∨ a = hyphen) then false
  else if a = quotation ∨ b = quotation then false
  else if a = contingent ∨ b = contingent then true
  else if b = breakAfter ∨ b = hyphen ∨ b = nonStarter ∨ a = breakBefore then false
  else if x.hebrew ∧ (a = hyphen ∨ a = breakAfter) then false
  else if b = inseparable then false
  else if b = regionalIndicator ∧ a = regionalIndicator then !x.oddRegion
  else if b = emojiModifier ∧ x.base.any futurePictographs.contains then false
  else !together a b && !bracketed x c b

/-- Whether a line may end in front of a character. -/
def Front.allows (x : Front) (c : Char) : Bool :=
  let k := BreakClass.ofChar c
  let a := x.kind
  if isHard a ∧ ¬ x.spaced then ¬ (a = carriageReturn ∧ k = lineFeed)
  else if isHard k ∨ k = space ∨ k = zeroWidthSpace then false
  else if a = zeroWidthSpace then true
  else if x.joined ∨ (isMark k ∧ x.takesMark) then false
  else
    let b := if isMark k then ordinary else k
    if b = wordJoiner ∨ isTrailing b then false
    else if a = opening ∨ (a = quotation ∧ b = opening) then false
    else if (a = closing ∨ a = closingParenthesis) ∧ b = nonStarter then false
    else if a = breakBothSides ∧ b = breakBothSides then false
    else x.spaced || x.splits c b

/-! ### Words -/

/-- Characters behind which a line does not end here, although it could: hyphens, which are
looked at in words, and hyphens that are not shown. -/
def isHeld (c : Char) : Bool := c == '-' || c == '\u00AD'

/-- The state of cutting a text into words, last ones first. -/
structure Cutting where
  front : Front := {}
  /-- The last character that is shown. -/
  last : Option Char := none
  word : List Char := []
  /-- Sequences behind the last character that is shown. -/
  sequences : List Char := []
  words : List (List Char) := []

def Cutting.push (x : Cutting) : Escape.Part → Cutting
  | .sequence cs => { x with sequences := cs.reverse ++ x.sequences }
  | .char c =>
      let front := x.front.push c
      if x.last.any (fun l => !isHeld l) ∧ x.front.allows c then
        { front, last := some c, word := c :: x.sequences, words := x.word.reverse :: x.words }
      else { front, last := some c, word := c :: (x.sequences ++ x.word), words := x.words }

/-- The words at the end. Behind a hyphen at the end of the text, the last opportunity in front
of it is not used. -/
def Cutting.finish (x : Cutting) : List (List Char) :=
  let word := (x.sequences ++ x.word).reverse
  match x.last.any isHeld, x.words with
  | true, w :: words => ((w ++ word) :: words).reverse
  | _, words => (word :: words).reverse

def words (cs : List Char) : List (List Char) :=
  ((Escape.parts cs).foldl Cutting.push {}).finish

end TwinRun.LineBreak
