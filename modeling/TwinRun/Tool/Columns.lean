import TwinRun.Text.Integer
import TwinRun.Tool.Basic

/-!
Tools that take lines apart, put them side by side or break them.
-/

namespace TwinRun.Tool

/-! ### Positions -/

/-- Positions from one number to another, counted from 1; without end, all from there on. -/
structure Span where
  first : Nat
  last : Option Nat
  deriving DecidableEq, Repr

/-- What is wrong with a list of positions. -/
inductive SpanProblem where
  | fromOne
  | decreasing
  | endless
  | invalid (t : Letters)
  deriving DecidableEq, Repr

namespace Span

def holds (s : Span) (n : Nat) : Bool := s.first ≤ n && s.last.all (n ≤ ·)

def readOne (t : Letters) : Except SpanProblem Span := do
  let number (t : Letters) : Except SpanProblem Nat :=
    if t.all Char.isDigit then .ok (Letters.valueIn 10 t) else .error (.invalid t)
  match Letters.cut (· == '-') t with
  | (t, none) =>
      let n ← number t
      if n = 0 then throw .fromOne
      return ⟨n, some n⟩
  | ([], some []) => throw .endless
  | (low, some high) =>
      let first ← if low.isEmpty then pure 1 else number low
      if first = 0 then throw .fromOne
      if high.isEmpty then return ⟨first, none⟩
      let last ← number high
      if last < first then throw .decreasing
      return ⟨first, some last⟩

def read (t : Letters) : Except SpanProblem (List Span) :=
  (Letters.splitOn ',' (t.map fun c => if c = ' ' ∨ c = '\t' then ',' else c)).mapM readOne

end Span

/-- Tells what is wrong with a list of positions. -/
def spanMessage (fields : Bool) : SpanProblem → Letters
  | .fromOne =>
      (if fields then "fields are numbered from 1" else "byte/character positions are numbered from 1").toList
  | .decreasing => "invalid decreasing range".toList
  | .endless => "invalid range with no endpoint: -".toList
  | .invalid t =>
      (if fields then "invalid field value " else "invalid byte/character position ").toList ++ quote t

/-- The items at some positions, in runs that are next to each other. -/
def pickRuns {α : Type} (holds : Nat → Bool) (items : List α) : List (List α) :=
  let (runs, _) := items.zipIdx.foldl (fun (runs, last) (item, k) =>
    if holds (k + 1) then
      match runs with
      | run :: more => if last = k then ((item :: run) :: more, k + 1) else ([item] :: runs, k + 1)
      | [] => ([[item]], k + 1)
    else (runs, last)) (([] : List (List α)), 0)
  runs.reverse.map List.reverse

def cut : Program := withSpec
    { flags := "snz", valued := "dfcb"
      long := [⟨"bytes", 'b', some true⟩, ⟨"characters", 'c', some true⟩, ⟨"fields", 'f', some true⟩,
        ⟨"delimiter", 'd', some true⟩, ⟨"only-delimited", 's', none⟩, ⟨"complement", 'C', none⟩,
        ⟨"output-delimiter", 'o', some true⟩, ⟨"zero-terminated", 'z', none⟩] } fun o => do
  let lists := o.given.filter fun g => ['b', 'c', 'f'].contains g.1
  let (kind, positions) ← match lists with
    | [] => misuse "you must specify a list of bytes, characters, or fields".toList 1
    | [list] => pure list
    | _ => misuse "only one list may be specified".toList 1
  let fields := kind = 'f'
  let delimiter ← match o.value? 'd' with
    | none => pure '\t'
    | some [] => pure '\x00'
    | some [c] => pure c
    | some _ => misuse "the delimiter must be a single character".toList 1
  if o.has 'd' && !fields then
    misuse "an input delimiter may be specified only when operating on fields".toList 1
  if o.has 's' && !fields then
    misuse "suppressing non-delimited lines makes sense\n\tonly when operating on fields".toList 1
  let spans ← match Span.read positions with
    | .ok spans => pure spans
    | .error p => misuse (spanMessage fields p) 1
  let holds (n : Nat) : Bool := spans.any (·.holds n) != o.has 'C'
  let terminator := if o.has 'z' then '\x00' else '\n'
  for operand in orInput o.operands do
    match ← contentOf plainMessage operand with
    | none => pure ()
    | some text =>
        let items := Letters.splitOn terminator text
        let items := if items.getLast? = some [] then items.dropLast else items
        emit (items.flatMap fun line =>
          if fields then
            if !line.contains delimiter then (if o.has 's' then [] else line ++ [terminator])
            else
              ((o.value? 'o').getD [delimiter]).intercalate (pickRuns holds (Letters.splitOn delimiter line)).flatten
                ++ [terminator]
          else ((o.value? 'o').getD []).intercalate (pickRuns holds line) ++ [terminator])

/-! ### Side by side -/

/-- What a list of delimiters stands for. A backslash and a zero are no delimiter at all. -/
def readDelimiters : Letters → List Letters
  | [] => []
  | '\\' :: c :: rest =>
      (match c with
        | 'n' => ['\n']
        | 't' => ['\t']
        | 'r' => ['\r']
        | '0' => []
        | c => [c]) :: readDelimiters rest
  | c :: rest => [c] :: readDelimiters rest

/-- Puts texts behind each other with delimiters in turn. -/
def joinInTurn (delimiters : List Letters) (ts : List Letters) : Letters :=
  (ts.zipIdx.map fun (t, k) =>
    if k = 0 then t else (delimiters[(k - 1) % delimiters.length]?).getD [] ++ t).flatten

/-- Puts lines of files side by side. -/
def paste : Program := withSpec
    { flags := "sz", valued := "d"
      long := [⟨"delimiters", 'd', some true⟩, ⟨"serial", 's', none⟩, ⟨"zero-terminated", 'z', none⟩] } fun o => do
  let delimiters := readDelimiters ((o.value? 'd').getD ['\t'])
  let delimiters := if delimiters.isEmpty then [[]] else delimiters
  let operands := orInput o.operands
  let inputs := operands.filter (· = ['-'])
  -- standard input is read in turn by all who ask for it
  let shared ← if inputs.isEmpty then pure [] else
    pure (Letters.contents ((← contentOf plainMessage ['-']).getD []))
  let columns ← operands.zipIdx.filterMapM fun (operand, k) => do
    if operand = ['-'] then
      if o.has 's' then return some (if (operands.take k).contains ['-'] then [] else shared)
      let before := ((operands.take k).filter (· = ['-'])).length
      return some ((shared.zipIdx.filter fun (_, j) => j % inputs.length = before).map (·.1))
    else return (← contentOf plainMessage operand).map Letters.contents
  if o.has 's' then
    for lines in columns do emitLine (joinInTurn delimiters lines)
  else
    let height := (columns.map List.length).foldl max 0
    for k in List.range height do
      emitLine (joinInTurn delimiters (columns.map fun lines => (lines[k]?).getD []))

/-! ### Breaking lines -/

def nextColumn (bytes : Bool) (column : Nat) (c : Char) : Nat :=
  if bytes then column + 1
  else if c = '\x08' then column - 1
  else if c = '\r' then 0
  else if c = '\t' then column + (8 - column % 8)
  else column + 1

/-- Breaks a line where it would get too wide; at blanks, if that is asked for. `done` is what
stands in the line so far, backwards. -/
def foldLine (bytes atBlanks : Bool) (width : Nat) : (fuel : Nat) → (done : Letters) → (column : Nat) →
    Letters → List Letters
  | 0, done, _, t => [done.reverse ++ t]
  | _, done, _, [] => [done.reverse]
  | fuel + 1, done, column, c :: rest =>
      let next := nextColumn bytes column c
      if next ≤ width || done.isEmpty then foldLine bytes atBlanks width fuel (c :: done) next rest
      else
        let tail := done.takeWhile fun d => d != ' ' && d != '\t'
        if atBlanks && tail.length < done.length then
          (done.drop tail.length).reverse ::
            foldLine bytes atBlanks width fuel tail (tail.reverse.foldl (nextColumn bytes) 0) (c :: rest)
        else done.reverse :: foldLine bytes atBlanks width fuel [c] (nextColumn bytes 0 c) rest

/-- Breaks lines that are too wide. -/
def fold : Program := withSpec
    { flags := "bs", valued := "w"
      long := [⟨"bytes", 'b', none⟩, ⟨"spaces", 's', none⟩, ⟨"width", 'w', some true⟩] } fun o => do
  let t := (o.value? 'w').getD "80".toList
  let width ← match Letters.nat? t with
    | some n => if n > 0 then pure n else fail ("invalid number of columns: ".toList ++ quote t) 1
    | none => fail ("invalid number of columns: ".toList ++ quote t) 1
  for operand in orInput o.operands do
    match ← contentOf plainMessage operand with
    | none => pure ()
    | some text =>
        emit ((Letters.lines text).flatMap fun line =>
          ['\n'].intercalate (foldLine (o.has 'b') (o.has 's') width (2 * line.length + 2) [] 0 (Letters.chomp line)) ++
            if line.getLast? = some '\n' then ['\n'] else [])

end TwinRun.Tool
