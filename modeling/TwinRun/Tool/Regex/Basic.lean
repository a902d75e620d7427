import TwinRun.Text.Letters

/-!
Regular expressions and what they match.

Of all matches the leftmost counts, and of those the longest; of equally long ones, the one whose
first parts are longest. `Regex.ends` lists all ends of matches from one place, the farthest first.
-/

namespace TwinRun.Tool

abbrev CharRanges := List (Char × Char)

inductive Regex where
  | empty
  /-- A letter in, or outside, these ranges. -/
  | set (negated : Bool) (ranges : CharRanges)
  | lineStart
  | lineEnd
  | textStart
  | textEnd
  | wordStart
  | wordEnd
  /-- A start or an end of a word; or, negated, neither. -/
  | wordEdge (negated : Bool)
  | then (first second : Regex)
  | either (first second : Regex)
  | repeated (r : Regex) (least : Nat) (most : Option Nat)
  | group (number : Nat) (r : Regex)
  /-- What a group has matched. -/
  | again (number : Nat)
  deriving DecidableEq, Repr

namespace Regex

/-! ### Letters -/

def inRanges (ranges : CharRanges) (c : Char) : Bool :=
  ranges.any fun (low, high) => low ≤ c && c ≤ high

def wordRanges : CharRanges := [('0', '9'), ('A', 'Z'), ('_', '_'), ('a', 'z')]

def isWordLetter (c : Char) : Bool := inRanges wordRanges c

def spaceRanges : CharRanges := [('\t', '\x0d'), (' ', ' ')]

def classRanges : List (String × CharRanges) := [
  ("alpha", [('A', 'Z'), ('a', 'z')]),
  ("digit", [('0', '9')]),
  ("alnum", [('0', '9'), ('A', 'Z'), ('a', 'z')]),
  ("upper", [('A', 'Z')]),
  ("lower", [('a', 'z')]),
  ("space", spaceRanges),
  ("blank", [('\t', '\t'), (' ', ' ')]),
  ("punct", [('!', '/'), (':', '@'), ('[', '\x60'), ('\x7b', '~')]),
  ("print", [(' ', '~')]),
  ("graph", [('!', '~')]),
  ("cntrl", [('\x00', '\x1f'), ('\x7f', '\x7f')]),
  ("xdigit", [('0', '9'), ('A', 'F'), ('a', 'f')])]

/-! ### Matching -/

structure Manner where
  ignoreCase : Bool := false
  /-- Line feeds in the text start and end lines. -/
  lines : Bool := false
  deriving DecidableEq, Repr

/-- How far a match has come. -/
structure Reached where
  place : Nat
  /-- The letter in front of this place. -/
  previous : Option Char
  rest : Letters
  groups : List (Nat × Letters) := []
  deriving DecidableEq, Repr

namespace Reached

def pass (a : Reached) (t : Letters) : Reached :=
  { a with
    place := a.place + t.length
    previous := t.getLast?.orElse fun _ => a.previous
    rest := a.rest.drop t.length }

def afterWord (a : Reached) : Bool := a.previous.any isWordLetter

def beforeWord (a : Reached) : Bool := a.rest.head?.any isWordLetter

end Reached

/-- Whether what an expression matches depends on what its groups have matched. -/
def looksBack : Regex → Bool
  | .again _ => true
  | .then r q | .either r q => r.looksBack || q.looksBack
  | .repeated r _ _ | .group _ r => r.looksBack
  | _ => false

/-- Keeps the first of neighbours at one place. -/
def thin (as : List Reached) : List Reached :=
  (as.foldl (fun kept a =>
    match kept with
    | b :: _ => if b.place = a.place then kept else a :: kept
    | [] => [a]) ([] : List Reached)).reverse

/-- Puts ends in order, the farthest first; `all` keeps those that differ in their groups only. -/
def arrange (all : Bool) (as : List Reached) : List Reached :=
  match as with
  | [] | [_] => as
  | as =>
      let sorted := as.mergeSort fun a b => b.place ≤ a.place
      if all then sorted else thin sorted

/-- Repeats a step. `found` are the ends so far, `here` those of the last round. A step without
progress is not repeated. -/
def repeatStep (all : Bool) (step : Reached → List Reached) :
    (fuel : Nat) → (least : Nat) → (most : Option Nat) → (found here : List Reached) → List Reached
  | 0, _, _, found, _ => found
  | fuel + 1, least, most, found, here =>
      let found := if least = 0 then found ++ here else found
      if most = some 0 ∨ here.isEmpty then found
      else
        let next := arrange all (here.flatMap fun a =>
          (step a).filter fun b => a.place < b.place || least > 0)
        repeatStep all step fuel (least - 1) (most.map (· - 1)) found next

/-- All ends of matches from a place, the farthest first. -/
def ends (m : Manner) (all : Bool) : Regex → Reached → List Reached
  | .empty, a => [a]
  | .set negated ranges, a =>
      match a.rest with
      | c :: rest =>
          let holds (c : Char) : Bool := inRanges ranges c
          if (holds c || (m.ignoreCase && (holds c.toLower || holds c.toUpper))) != negated then
            [{ a with place := a.place + 1, previous := some c, rest }]
          else []
      | [] => []
  | .lineStart, a => if a.previous.all (fun c => m.lines && c == '\n') then [a] else []
  | .lineEnd, a => if a.rest.head?.all (fun c => m.lines && c == '\n') then [a] else []
  | .textStart, a => if a.previous.isNone then [a] else []
  | .textEnd, a => if a.rest.isEmpty then [a] else []
  | .wordStart, a => if !a.afterWord && a.beforeWord then [a] else []
  | .wordEnd, a => if a.afterWord && !a.beforeWord then [a] else []
  | .wordEdge negated, a => if (a.afterWord != a.beforeWord) != negated then [a] else []
  | .then r q, a => arrange all ((ends m all r a).flatMap (ends m all q))
  | .either r q, a => arrange all (ends m all r a ++ ends m all q a)
  | .repeated r least most, a =>
      arrange all (repeatStep all (ends m all r) (a.rest.length + least + 1) least most [] [a])
  | .group n r, a => (ends m all r a).map fun b =>
      { b with groups := (n, a.rest.take (b.place - a.place)) :: b.groups }
  | .again n, a =>
      match a.groups.lookup n with
      | none => []
      | some wanted =>
          let same (c d : Char) : Bool := c == d || (m.ignoreCase && c.toLower == d.toLower)
          let text := a.rest.take wanted.length
          if text.length = wanted.length && (text.zip wanted).all fun (c, d) => same c d then [a.pass text] else []

/-- A match: what stands before it, its text, its groups and what comes after it. -/
structure Match where
  before : Letters
  text : Letters
  groups : List (Nat × Letters)
  after : Letters
  deriving DecidableEq, Repr

/-- The letter in front of what comes after a match. -/
def Match.last (m : Match) (previous : Option Char) : Option Char :=
  (m.text.getLast?.orElse fun _ => m.before.getLast?).orElse fun _ => previous

/-- The leftmost match at or after a place whose end is accepted; `before` is what has been
passed over, backwards. -/
def searchFrom (r : Regex) (m : Manner) (accepts : Reached → Reached → Bool) :
    (before : Letters) → (previous : Option Char) → Letters → Option Match
  | before, previous, t =>
      let a : Reached := { place := 0, previous, rest := t }
      match (r.ends m r.looksBack a).find? (accepts a) with
      | some b => some ⟨before.reverse, t.take b.place, b.groups, b.rest⟩
      | none =>
          match t with
          | [] => none
          | c :: rest => searchFrom r m accepts (c :: before) (some c) rest

/-- The leftmost match in a text, which has a letter in front of it or not. -/
def search (r : Regex) (m : Manner) (previous : Option Char) (t : Letters) : Option Match :=
  r.searchFrom m (fun _ _ => true) [] previous t

def ofText (t : Letters) : Regex :=
  t.foldl (fun r c => .then r (.set false [(c, c)])) .empty

end Regex

end TwinRun.Tool
