import TwinRun.Tool.Sed.Basic

/-!
The stream editor at work.

Every line goes through the whole script and is printed at the end, unless an instruction decides
otherwise. What is printed and what is written to files is collected; the files that a script
reads are given from the start.
-/

namespace TwinRun.Tool.Sed

/-- A line to come, and the file it is from. -/
structure Coming where
  line : Letters
  file : Letters
  deriving DecidableEq, Repr

inductive RangeState where
  /-- Begun; the line to stop at, if it is known. -/
  | active (stop : Option Nat)
  /-- Ended, or begun before the first line. -/
  | closed
  deriving DecidableEq, Repr

structure Editor where
  program : List Instruction
  quiet : Bool
  /-- What ends a line. -/
  terminator : Char := '\n'
  /-- The width of lines that show hidden letters. -/
  width : Nat := 70
  /-- The line in work. -/
  pattern : Letters := []
  /-- Whether it had an end. -/
  terminated : Bool := true
  held : Letters := []
  heldTerminated : Bool := true
  number : Nat := 0
  file : Letters := ['-']
  coming : List Coming
  /-- The ranges by the places of their instructions. -/
  ranges : List (Nat × RangeState) := []
  /-- The expression used last. -/
  lastRegex : Option Regex := none
  /-- What is printed after the line. -/
  queue : List Letters := []
  replaced : Bool := false
  /-- What files hold that are read. -/
  contents : List (Letters × Letters) := []
  /-- The output, the latest first; nothing names standard output. -/
  output : List (Option Letters × Letters) := []
  /-- Outputs that lack their last line end. -/
  unended : List (Option Letters) := []
  code : Nat := 0
  /-- An expression was asked for, and there was none. -/
  lost : Bool := false

namespace Editor

/-! ### Output -/

/-- Where the name of a file leads. -/
def destination (name : Letters) : Option Letters := if name = "/dev/stdout".toList then none else some name

/-- Puts out a text as it is. -/
def putRaw (e : Editor) (d : Option Letters) (t : Letters) : Editor :=
  if t.isEmpty then e else { e with output := (d, t) :: e.output }

/-- Puts out a text behind a line end that is still missing. -/
def put (e : Editor) (d : Option Letters) (t : Letters) : Editor :=
  if e.unended.contains d then
    { e.putRaw d (e.terminator :: t) with unended := e.unended.filter (· ≠ d) }
  else e.putRaw d t

def putLine (e : Editor) (d : Option Letters) (line : Letters) (terminated : Bool := true) : Editor :=
  let e := e.put d (line ++ if terminated then [e.terminator] else [])
  if terminated then e else { e with unended := d :: e.unended }

def printPattern (e : Editor) : Editor := e.putLine none e.pattern e.terminated

/-- Prints what was to be printed after the line. -/
def flush (e : Editor) : Editor :=
  e.queue.foldl (fun e text => e.put none text) { e with queue := [] }

/-! ### Lines -/

def isLast (e : Editor) : Bool := e.coming.isEmpty

/-- Takes the next line to what is made of the one in work. -/
def take (e : Editor) (join : Letters → Letters) : Option Editor :=
  match e.coming with
  | [] => none
  | c :: coming =>
      let terminated := c.line.getLast? == some e.terminator
      some { e with
        pattern := join (if terminated then c.line.dropLast else c.line)
        terminated
        number := e.number + 1
        file := c.file
        replaced := false
        coming }

/-! ### Selection -/

def regexOf (e : Editor) (p : Pattern) : Option Regex := p.regex.orElse fun _ => e.lastRegex

/-- Whether a pattern is found in the line. -/
def finds (e : Editor) (p : Pattern) : Bool × Editor :=
  match e.regexOf p with
  | none => (false, { e with lost := true })
  | some r => ((r.search p.manner none e.pattern).isSome, { e with lastRegex := some r })

def holds (e : Editor) : Address → Bool × Editor
  | .line n => (e.number = n, e)
  | .last => (e.isLast, e)
  | .matching p => e.finds p
  | .every first step =>
      (if step = 0 then e.number = first else first ≤ e.number && (e.number - first) % step = 0, e)

def setRange (e : Editor) (place : Nat) (s : RangeState) : Editor :=
  { e with ranges := (place, s) :: e.ranges.filter (·.1 ≠ place) }

/-- The line that a range beginning here stops at, if it is known; and whether the range is this
line alone. -/
def rangeStop (e : Editor) : RangeEnd → Option Nat × Bool
  | .at (.line n) => (some n, n ≤ e.number)
  | .at _ => (none, false)
  | .after more => (some (e.number + more), more = 0)
  | .multiple 0 => (none, true)
  | .multiple n => (some (e.number + n - e.number % n), false)

/-- Whether a range that has begun still holds. -/
def continues (e : Editor) (place : Nat) (known : Option Nat) (stop : RangeEnd) : Bool × Editor :=
  match known, stop with
  | some n, _ => (e.number ≤ n, if n ≤ e.number then e.setRange place .closed else e)
  | none, .at a =>
      let (ends, e) := e.holds a
      (true, if ends then e.setRange place .closed else e)
  | none, _ => (true, e)

/-- Whether an instruction is for this line. Ranges begin and end here; one that starts before
the first line has begun already. -/
def selects (e : Editor) (place : Nat) : Selection → Bool × Editor
  | .all => (true, e)
  | .one a => e.holds a
  | .range start stop =>
      match e.ranges.lookup place with
      | some (.active known) => e.continues place known stop
      | state =>
          if start = .line 0 ∧ state.isNone then (e.setRange place (.active none)).continues place none stop
          else
            let (begins, e) := e.holds start
            if !begins then (false, e)
            else
              let (known, single) := e.rangeStop stop
              (true, e.setRange place (if single then .closed else .active known))

/-- Whether an instruction's range goes on after this line. -/
def inRange (e : Editor) (place : Nat) : Bool :=
  match e.ranges.lookup place with
  | some (.active _) => true
  | _ => false

end Editor

/-! ### Replacing -/

def cased (c : Casing) (t : Letters) : Letters :=
  match c with
  | .keep => t
  | .upper => t.map Char.toUpper
  | .lower => t.map Char.toLower

/-- A replacement for a match. The case of a next letter waits for a text that has one. -/
def fill (parts : List Replacement) (m : Regex.Match) : Letters :=
  let (out, _, _) := parts.foldl (fun (out, all, once) part =>
    let add (t : Letters) : List Letters × Casing × Casing :=
      match t with
      | [] => (out, all, once)
      | c :: rest =>
          let first := if once = .keep then cased all [c] else cased once [c]
          ((first ++ cased all rest) :: out, all, .keep)
    match part with
    | .text t => add t
    | .group 0 => add m.text
    | .group n => add ((m.groups.lookup n).getD [])
    | .casing c => (out, c, Casing.keep)
    | .next c => (out, all, c)) (([] : List Letters), Casing.keep, Casing.keep)
  out.reverse.flatten

/-- Replaces matches. `adjacent`: a match ends here, so an empty one does not count. `done` is
what has been dealt with, backwards. -/
def replaceFrom (s : Substitution) (r : Regex) :
    (fuel : Nat) → (seen : Nat) → (adjacent hit : Bool) → (previous : Option Char) → (done : List Letters) →
      Letters → Letters × Bool
  | 0, _, _, hit, _, done, t => (done.reverse.flatten ++ t, hit)
  | fuel + 1, seen, adjacent, hit, previous, done, t =>
      match r.search s.pattern.manner previous t with
      | none => (done.reverse.flatten ++ t, hit)
      | some m =>
          if adjacent && m.before.isEmpty && m.text.isEmpty then
            match t with
            | [] => (done.reverse.flatten, hit)
            | c :: rest => replaceFrom s r fuel seen false hit (some c) ([c] :: done) rest
          else
            let seen := seen + 1
            let wanted := seen = s.occurrence || (s.global && seen > s.occurrence)
            let shown := if wanted then fill s.replacement m else m.text
            let done := shown :: m.before :: done
            if wanted && !s.global then (done.reverse.flatten ++ m.after, true)
            else if m.text.isEmpty then
              match m.after with
              | [] => (done.reverse.flatten, hit || wanted)
              | c :: rest => replaceFrom s r fuel seen false (hit || wanted) (some c) ([c] :: done) rest
            else replaceFrom s r fuel seen true (hit || wanted) (m.last previous) done m.after

/-- Replaces in the line in work. -/
def substitute (s : Substitution) (e : Editor) : Editor :=
  match e.regexOf s.pattern with
  | none => { e with lost := true }
  | some r =>
      let (pattern, replaced) :=
        replaceFrom s r (2 * e.pattern.length + 3) 0 false false none [] e.pattern
      let e := { e with pattern, replaced := e.replaced || replaced, lastRegex := some r }
      if !replaced then e
      else
        let e := if s.print then e.printPattern else e
        match s.file with
        | some name => e.putLine (Editor.destination name) e.pattern e.terminated
        | none => e

/-! ### Showing hidden letters -/

def visible (c : Char) : Letters :=
  match ['\\', '\x07', '\x08', '\x0c', '\n', '\r', '\t', '\x0b'].idxOf? c with
  | some k => ['\\', "\\abfnrtv".toList.getD k c]
  | none =>
      if ' ' ≤ c ∧ c ≤ '~' then [c]
      else '\\' :: (Nat.toDigits 8 (512 + c.toNat)).drop 1

/-- Shows a line with its hidden letters, broken at a width. -/
def display (width : Nat) (t : Letters) : Letters :=
  let (out, _) := t.foldl (fun (out, column) c =>
    let shown := visible c
    if width > 0 && column + shown.length > width - 1 then (shown :: ['\\', '\n'] :: out, shown.length)
    else (shown :: out, column + shown.length)) (([] : List Letters), 0)
  out.reverse.flatten ++ ['$']

/-! ### Instructions -/

/-- How it goes on after an action. -/
inductive Next where
  | on
  | jump (place : Nat)
  /-- On to the next line; the one in work has been dealt with. -/
  | drop
  /-- On to the next line after the end of the script. -/
  | finish
  /-- Again with what is left of the line. -/
  | again
  | quit (print : Bool)
  deriving DecidableEq, Repr

/-- The place behind the closing brace that belongs to an opening one. -/
def blockEnd (program : List Instruction) (place : Nat) : Nat :=
  go (program.drop (place + 1)) (place + 1) 0
where
  go : List Instruction → Nat → Nat → Nat
    | [], n, _ => n
    | i :: rest, n, depth =>
        match i.action with
        | .open => go rest (n + 1) (depth + 1)
        | .close => if depth = 0 then n + 1 else go rest (n + 1) (depth - 1)
        | _ => go rest (n + 1) depth

/-- Where a jump to a label leads; without a label, to the end. -/
def target (program : List Instruction) (label : Letters) : Nat :=
  if label.isEmpty then program.length
  else (program.findIdx? fun i => i.action = .label label).getD program.length

/-- Does an action of the instruction in a place. -/
def act (e : Editor) (place : Nat) (a : Action) : Next × Editor :=
  let firstLine := e.pattern.takeWhile (· ≠ e.terminator)
  match a with
  | .label _ | .open | .close => (.on, e)
  | .print => (.on, e.printPattern)
  | .printFirstLine =>
      (.on, if firstLine.length < e.pattern.length then e.putLine none firstLine else e.printPattern)
  | .delete => (.drop, e)
  | .deleteFirstLine =>
      if firstLine.length < e.pattern.length then
        (.again, { e with pattern := e.pattern.drop (firstLine.length + 1) })
      else (.drop, e)
  | .quit print code => (.quit print, { e with code })
  | .substitute s => (.on, substitute s e)
  | .translate pairs => (.on, { e with pattern := e.pattern.map fun c => (pairs.lookup c).getD c })
  | .append text => (.on, { e with queue := e.queue ++ [text] })
  | .insert text => (.on, e.put none text)
  | .change text => (.drop, if e.inRange place then e else e.put none text)
  | .next =>
      if e.isLast then (.finish, e)
      else
        let e := (if e.quiet then e else e.printPattern).flush
        (.on, (e.take id).getD e)
  | .joinNext =>
      if e.isLast then (.finish, e)
      else
        let e := e.flush
        (.on, (e.take (e.pattern ++ e.terminator :: ·)).getD e)
  | .number => (.on, e.put none (Letters.ofNat e.number ++ ['\n']))
  | .fileName => (.on, e.put none (e.file ++ ['\n']))
  | .display width => (.on, e.put none (display (width.getD e.width) e.pattern ++ ['\n']))
  | .empty => (.on, { e with pattern := [] })
  | .hold => (.on, { e with held := e.pattern, heldTerminated := e.terminated })
  | .holdMore =>
      (.on, { e with held := e.held ++ e.terminator :: e.pattern, heldTerminated := e.terminated })
  | .get => (.on, { e with pattern := e.held, terminated := e.heldTerminated })
  | .getMore =>
      (.on, { e with pattern := e.pattern ++ e.terminator :: e.held, terminated := e.heldTerminated })
  | .exchange =>
      (.on, { e with
        pattern := e.held, terminated := e.heldTerminated
        held := e.pattern, heldTerminated := e.terminated })
  | .readFile name => (.on, { e with queue := e.queue ++ [(e.contents.lookup name).getD []] })
  | .readLine name =>
      let text := (e.contents.lookup name).getD []
      let line := (Letters.lines text).headD []
      (.on, { e with
        queue := e.queue ++ [line]
        contents := e.contents.map fun f => if f.1 = name then (name, text.drop line.length) else f })
  | .writeLine name => (.on, e.putLine (Editor.destination name) e.pattern e.terminated)
  | .writeFirstLine name =>
      (.on, if firstLine.length < e.pattern.length then e.putLine (Editor.destination name) firstLine
        else e.putLine (Editor.destination name) e.pattern e.terminated)
  | .jump label => (.jump (target e.program label), e)
  | .jumpIfReplaced label =>
      if e.replaced then (.jump (target e.program label), { e with replaced := false }) else (.on, e)
  | .jumpUnlessReplaced label =>
      if e.replaced then (.on, { e with replaced := false }) else (.jump (target e.program label), e)

/-- Runs the script on the line in work, from a place on. -/
def runLine : (fuel : Nat) → (place : Nat) → Editor → Next × Editor
  | 0, _, e => (.finish, e)
  | fuel + 1, place, e =>
      match e.program[place]? with
      | none => (.finish, e)
      | some i =>
          let (selected, e) := e.selects place i.selection
          if e.lost then (.quit false, e)
          else if selected = i.negated then
            runLine fuel (if i.action = .open then blockEnd e.program place else place + 1) e
          else
            match act e place i.action with
            | (.on, e) => if e.lost then (.quit false, e) else runLine fuel (place + 1) e
            | (.jump n, e) => runLine fuel n e
            | other => other

/-- More steps than any script takes. -/
def maxSteps : Nat := 1000000000000

def finishLine (e : Editor) : Editor := (if e.quiet then e else e.printPattern).flush

/-- Runs the script on the lines to come. `kept`: what is left of the line before is dealt with
first. -/
def runLines : (fuel : Nat) → (kept : Bool) → Editor → Editor
  | 0, _, e => e
  | fuel + 1, kept, e =>
      match if kept then some e else e.take id with
      | none => e
      | some e =>
          match runLine maxSteps 0 e with
          | (.quit print, e) =>
              let e := if print && !e.quiet then e.printPattern else e
              if e.lost then e else if print then e.flush else e
          | (.drop, e) => runLines fuel false e.flush
          | (.again, e) => runLines fuel true e.flush
          | (_, e) => runLines fuel false (finishLine e)

end TwinRun.Tool.Sed
