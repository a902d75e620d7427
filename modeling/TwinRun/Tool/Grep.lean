import TwinRun.Tool.Regex.Reader
import TwinRun.Tool.Basic

/-!
Searching lines.

A line is selected if some pattern matches in it, or, inverted, if none does. What is printed of
the selected lines, and which lines around them, is up to the options.
-/

namespace TwinRun.Tool

namespace Grep

/-! ### Patterns -/

/-- What is looked for: nothing at all, or an expression that takes whole words or lines. -/
structure Wanted where
  pattern : Option Regex
  manner : Regex.Manner := {}
  words : Bool := false
  wholeLines : Bool := false
  deriving DecidableEq, Repr

namespace Wanted

/-- Whether a match may end here. -/
def accepts (w : Wanted) (a b : Regex.Reached) : Bool :=
  if w.wholeLines then a.previous.isNone && b.rest.isEmpty
  else !w.words || (!a.afterWord && !b.beforeWord)

/-- The leftmost match in what is left of a line. -/
def search (w : Wanted) (previous : Option Char) (t : Letters) : Option Regex.Match :=
  w.pattern.bind fun r => r.searchFrom w.manner w.accepts [] previous t

/-- All matches in a line that are not empty, with the places where they start. -/
def searchAll (w : Wanted) : (fuel : Nat) → (place : Nat) → (previous : Option Char) → Letters →
    List (Nat × Letters)
  | 0, _, _, _ => []
  | fuel + 1, place, previous, t =>
      match w.search previous t with
      | none => []
      | some m =>
          let start := place + m.before.length
          if m.text.isEmpty then
            match m.after with
            | [] => []
            | c :: rest => searchAll w fuel (start + 1) (some c) rest
          else (start, m.text) :: searchAll w fuel (start + m.text.length) (m.last previous) m.after

end Wanted

/-- The notation that options ask for. -/
inductive Matcher where
  | basic
  | extended
  | fixed
  deriving DecidableEq, Repr

def readPattern (m : Matcher) (t : Letters) : Except Letters Regex := do
  let isLoneClass : Bool :=
    match t with
    | '[' :: ':' :: rest => rest.length > 1 && rest.getLast? = some ']' && rest.dropLast.getLast? = some ':'
    | _ => false
  match m with
  | .fixed => return Regex.ofText t
  | m =>
      if isLoneClass then throw "character class syntax is [[:space:]], not [:space:]".toList
      match Regex.read { extended := m = .extended } t with
      | .ok r => return r
      | .error p => throw p.message

/-! ### Output -/

structure Display where
  name : Bool
  number : Bool
  offset : Bool
  /-- The matches alone. -/
  parts : Bool
  before : Nat
  after : Nat
  /-- What stands between groups of lines that are not next to each other. -/
  separator : Option Letters
  terminator : Char
  deriving DecidableEq, Repr

/-- A line with what is known of it. -/
structure Entry where
  number : Nat
  offset : Nat
  text : Letters
  /-- How it is shown: as selected, or as one around a selected line. -/
  shown : Option Bool := none
  deriving DecidableEq, Repr

/-- Lines with their numbers, from 1 on, and their places in the text. -/
def entries (terminator : Char) (t : Letters) : List Entry :=
  let lines := Letters.splitOn terminator t
  let lines := if lines.getLast? = some [] then lines.dropLast else lines
  (lines.foldl (fun (done, number, offset) line =>
    (({ number, offset, text := line } : Entry) :: done, number + 1, offset + line.length + 1))
    (([] : List Entry), 1, 0)).1.reverse

/-- Decides which lines are shown. Of the selected lines only so many count; the lines after the
last of them are shown up to the next one that would be selected. -/
def mark (d : Display) (most : Option Nat) (selected : Entry → Bool) (es : List Entry) : List Entry × Nat :=
  let (done, count, _, _) := es.foldl (fun (done, count, after, past) e =>
    if !past && most.all (count < ·) && selected e then
      ({ e with shown := some true } :: lead d.before done, count + 1, d.after, false)
    else
      let past := past || (most.any (· ≤ count) && (after = 0 || selected e))
      if after > 0 && !past then ({ e with shown := some false } :: done, count, after - 1, past)
      else (e :: done, count, 0, past)) (([] : List Entry), 0, 0, false)
  (done.reverse, count)
where
  /-- Shows the lines in front of a selected one. -/
  lead : Nat → List Entry → List Entry
    | 0, es => es
    | _, [] => []
    | n + 1, e :: es => if e.shown.isSome then e :: es else { e with shown := some false } :: lead n es

/-- What stands in front of a line. -/
def label (d : Display) (name : Letters) (e : Entry) (offset : Nat) (isSelected : Bool) : Letters :=
  let mark := if isSelected then ':' else '-'
  (if d.name then name ++ [mark] else []) ++
    (if d.number then Letters.ofNat e.number ++ [mark] else []) ++
    (if d.offset then Letters.ofNat offset ++ [mark] else [])

def render (d : Display) (w : Wanted) (name : Letters) (es : List Entry) : Letters :=
  let (out, _) := es.foldl (fun (out, last) e =>
    match e.shown with
    | none => (out, last)
    | some isSelected =>
        let gap : Letters :=
          match d.separator with
          | some s => if last ≠ 0 ∧ last + 1 < e.number then s ++ ['\n'] else []
          | none => []
        let text : Letters :=
          if d.parts then
            if isSelected then
              (w.searchAll (e.text.length + 1) 0 none e.text).flatMap fun (place, t) =>
                label d name e (e.offset + place) true ++ t ++ [d.terminator]
            else []
          else label d name e e.offset isSelected ++ e.text ++ [d.terminator]
        ((gap ++ text) :: out, e.number)) (([] : List Letters), 0)
  out.reverse.flatten

/-! ### Options -/

def spec : OptionSpec where
  flags := "EFGPivwxclLqsonHhbaUzrRTyuI0123456789"
  valued := "efmABCdD"
  code := 2
  long := [⟨"extended-regexp", 'E', none⟩, ⟨"fixed-strings", 'F', none⟩, ⟨"basic-regexp", 'G', none⟩,
    ⟨"perl-regexp", 'P', none⟩, ⟨"regexp", 'e', some true⟩, ⟨"file", 'f', some true⟩,
    ⟨"ignore-case", 'i', none⟩, ⟨"invert-match", 'v', none⟩, ⟨"word-regexp", 'w', none⟩,
    ⟨"line-regexp", 'x', none⟩, ⟨"count", 'c', none⟩, ⟨"files-with-matches", 'l', none⟩,
    ⟨"files-without-match", 'L', none⟩, ⟨"max-count", 'm', some true⟩, ⟨"only-matching", 'o', none⟩,
    ⟨"quiet", 'q', none⟩, ⟨"silent", 'q', none⟩, ⟨"no-messages", 's', none⟩, ⟨"byte-offset", 'b', none⟩,
    ⟨"with-filename", 'H', none⟩, ⟨"no-filename", 'h', none⟩, ⟨"line-number", 'n', none⟩,
    ⟨"text", 'a', none⟩, ⟨"null-data", 'z', none⟩, ⟨"recursive", 'r', none⟩,
    ⟨"after-context", 'A', some true⟩, ⟨"before-context", 'B', some true⟩, ⟨"context", 'C', some true⟩,
    ⟨"color", '%', some false⟩, ⟨"colour", '%', some false⟩, ⟨"no-group-separator", '!', none⟩,
    ⟨"group-separator", '=', some true⟩]

/-- Refers to the usage, and ends. -/
def usage {α : Type} : Job α := do
  tell "Usage: grep [OPTION]... PATTERNS [FILE]...\n".toList
  tryHelp 2

/-- The number of lines around a selected one that an option asks for. -/
def context? (o : Options) (cs : List Char) : Job (Option Nat) := do
  let digits := (o.given.filter fun g => g.1.isDigit).map (·.1)
  match o.given.reverse.find? fun g => cs.contains g.1 with
  | some (_, t) =>
      match Letters.nat? t with
      | some n => return some n
      | none => fail (t ++ ": invalid context length argument".toList) 2
  | none => return if digits.isEmpty then none else some (Letters.valueIn 10 digits)

def displayOf (o : Options) (several : Bool) : Job Display := do
  let after ← context? o ['A', 'C']
  let before ← context? o ['B', 'C']
  let separator := if o.has '!' then none
    else if after.isSome || before.isSome then some ((o.value? '=').getD "--".toList) else none
  return { name := (several || o.has 'H') && o.last? ['H', 'h'] ≠ some 'h'
           number := o.has 'n', offset := o.has 'b', parts := o.has 'o'
           before := before.getD 0, after := after.getD 0, separator
           terminator := if o.has 'z' then '\x00' else '\n' }

def matcherOf (o : Options) : Job Matcher := do
  let kinds := (['E', 'F', 'G', 'P'].filter o.has)
  if kinds.length > 1 then fail "conflicting matchers specified".toList 2
  return if o.has 'F' then .fixed else if o.has 'E' || o.has 'P' then .extended else .basic

/-- The lines of patterns; a line feed at the end of a file of patterns ends the last of them. -/
def patternLines (isFile : Bool) (t : Letters) : List Letters :=
  if isFile then Letters.contents t else Letters.splitOn '\n' t

def patternsOf (o : Options) : Job (List Letters × List Letters) := do
  let sources := o.given.filter fun g => g.1 = 'e' || g.1 = 'f'
  if sources.isEmpty then
    match o.operands with
    | pattern :: files => return (patternLines false pattern, files)
    | [] => usage
  let patterns ← sources.mapM fun (c, t) => do
    if c = 'e' then return patternLines false t
    match ← if t = ['-'] then readAll stdin else readFile t with
    | .ok content => return patternLines true content
    | .error e => fail (bareMessage t e) 2
  return (patterns.flatten, o.operands)

/-- Whether an input is the file that output goes to. -/
def isAlsoOutput (operand : Letters) : Job Bool := do
  let r ← get
  let files := r.kernel.files
  let opened (n : Nat) : Option Target :=
    match r.process.descriptors.lookup n with
    | some (.file h) => (files.opened.lookup h).map (·.target)
    | _ => none
  match opened stdout with
  | some (.file i) =>
      if operand = ['-'] then return opened stdin = some (.file i)
      match files.find r.process.directory (pathOf operand) true with
      | .ok (_, .file j _ _) => return i = j
      | _ => return false
  | _ => return false

/-- The files below a place, with the paths that lead there. -/
def filesBelow (fs : Files) : (depth : Nat) → Letters → Location → List Letters
  | 0, _, _ => []
  | depth + 1, path, l =>
      (fs.names l).flatMap fun name =>
        let inner := (if path.isEmpty then [] else if path.getLast? = some '/' then path else path ++ ['/']) ++
          Letters.ofBytes name
        match fs.get? (l ++ [name]) with
        | some .directory => filesBelow fs depth inner (l ++ [name])
        | some (.file ..) => [inner]
        | _ => []

/-- What a search through directories is to look at. -/
def expandOperands (o : Options) (operands : List Letters) : Job (List Letters) := do
  if !(o.has 'r' || o.has 'R') then return orInput operands
  let r ← get
  let fs := r.kernel.files
  let below (path shown : Letters) : List Letters :=
    match fs.find r.process.directory (pathOf path) true with
    | .ok (l, .directory) => filesBelow fs (fs.nodes.length + 1) shown l
    | _ => [path]
  if operands.isEmpty then return below ['.'] []
  return operands.flatMap fun t => if t = ['-'] then [t] else below t t

end Grep

open Grep in
/-- Prints the lines that hold a pattern. -/
def grep : Program := fun args => do
  let o ← match spec.read args with
    | .ok o => pure o
    | .error p =>
        warn p.message
        usage
  let most ← match o.value? 'm' with
    | none => pure none
    | some t =>
        match Letters.int? t with
        | some n => pure (if n < 0 then none else some n.toNat)
        | none => fail "invalid max count".toList 2
  let matcher ← matcherOf o
  let (patterns, operands) ← patternsOf o
  let display ← displayOf o (operands.length > 1 || o.has 'r' || o.has 'R')
  let atStart (t : Letters) : Option (Char × Letters) :=
    match t with
    | '*' :: _ => some ('*', ['*'])
    | '+' :: _ => some ('+', ['+'])
    | '?' :: _ => some ('?', ['?'])
    | '\x7b' :: d :: _ => if d.isDigit then some ('\x7b', "\x7b...\x7d".toList) else none
    | _ => none
  if matcher = .extended then
    for t in patterns do
      match atStart t with
      | some (_, mark) => warn ("warning: ".toList ++ mark ++ " at start of expression".toList)
      | none => pure ()
  let regexes ← match patterns.mapM (readPattern matcher) with
    | .ok regexes => pure regexes
    | .error message => fail message 2
  if most = some 0 then stop 1
  let wanted : Wanted :=
    { pattern := match regexes with
        | [] => none
        | r :: rs => some (rs.foldl .either r)
      manner := { ignoreCase := o.has 'i' || o.has 'y' }
      words := o.has 'w'
      wholeLines := o.has 'x' }
  let silent := o.has 's'
  let lists := o.last? ['l', 'L']
  let inputs ← expandOperands o operands
  let (found, failed) ← inputs.foldlM (fun (found, failed) operand => do
    let name := if operand = ['-'] then "(standard input)".toList else operand
    if !o.has 'q' && lists.isNone && most ≠ some 1 && (← isAlsoOutput operand) then
      if !silent then warn (name ++ ": input file is also the output".toList)
      return (found, true)
    match ← if operand = ['-'] then readAll stdin else readFile operand with
    | .error e =>
        if !silent then warn (bareMessage name e)
        return (found, true)
    | .ok text =>
        let es := entries display.terminator text
        let (marked, count) := mark display most (fun e => (wanted.search none e.text).isSome != o.has 'v') es
        let hit := count > 0
        if o.has 'q' then
          if hit then stop 0
        else match lists with
        | some c => if hit = (c = 'l') then emitLine name
        | none =>
            if o.has 'c' then
              emitLine ((if display.name then name ++ [':'] else []) ++ Letters.ofNat count)
            else if text.contains '\x00' && !o.has 'a' && !o.has 'z' then
              if hit then emitLine ("grep: ".toList ++ name ++ ": binary file matches".toList)
            else emit (render display wanted name marked)
        if operand = ['-'] then
          match most with
          | some n =>
              if count = n then
                match (marked.filter fun e => e.shown = some true).getLast? with
                | some e => leaveInput (text.drop (e.offset + e.text.length + 1))
                | none => pure ()
          | none => pure ()
        return (found || hit, failed)) (false, false)
  endWith (if failed then 2 else if found then 0 else 1)

/-- Runs `grep` for patterns of some kind. -/
def grepAs (option : String) : Program := fun args => do
  modify fun r => { r with name := "grep".toList }
  grep (option.toList :: args)

def egrep : Program := grepAs "-E"

def fgrep : Program := grepAs "-F"

end TwinRun.Tool
