import TwinRun.Text.Integer
import TwinRun.Tool.Basic

/-!
Tools that pass lines on: all of them, the first, the last, backwards, or with numbers.
-/

namespace TwinRun.Tool

/-! ### Everything -/

def visible (c : Char) : Letters :=
  let plain (n : Nat) : Letters :=
    if n < 32 then ['^', Char.ofNat (n + 64)]
    else if n = 127 then "^?".toList
    else [Char.ofNat n]
  if c.toNat < 128 then plain c.toNat else "M-".toList ++ plain (c.toNat - 128)

structure Display where
  numbers : Bool
  /-- Empty lines get no numbers. -/
  filledOnly : Bool
  squeezes : Bool
  ends : Bool
  tabs : Bool
  others : Bool
  deriving DecidableEq, Repr

structure DisplayState where
  number : Nat := 1
  /-- The next letter starts a line. -/
  atStart : Bool := true
  /-- The line before was empty. -/
  afterEmpty : Bool := false
  deriving DecidableEq, Repr

namespace Display

def letter (d : Display) (c : Char) : Letters :=
  if c = '\t' then (if d.tabs then "^I".toList else [c])
  else if d.others then visible c
  else [c]

/-- The letters of a line. A carriage return at its end belongs to the end that is shown. -/
def content (d : Display) (ended : Bool) (t : Letters) : Letters :=
  if d.ends && ended && !d.others && t.getLast? = some '\r' then t.dropLast.flatMap d.letter ++ "^M".toList
  else t.flatMap d.letter

/-- Shows a line or the end of one. -/
def line (d : Display) (s : DisplayState) (t : Letters) : Letters × DisplayState :=
  let ended := t.getLast? = some '\n'
  let body := Letters.chomp t
  let empty := s.atStart && body.isEmpty
  if d.squeezes && empty && s.afterEmpty then ([], s)
  else
    let numbered := s.atStart && (d.filledOnly && !body.isEmpty || d.numbers && !d.filledOnly)
    ((if numbered then Letters.padLeft 6 (Letters.ofNat s.number) ++ ['\t'] else []) ++
        d.content ended body ++ (if ended then (if d.ends then ['$', '\n'] else ['\n']) else []),
      { number := if numbered then s.number + 1 else s.number, atStart := ended, afterEmpty := empty })

end Display

/-- Whether a file is the one that output goes to and has been written to there. -/
def isOutput (operand : Letters) : Job Bool := do
  let r ← get
  let files := r.kernel.files
  match r.process.descriptors.lookup stdout with
  | some (.file h) =>
      match files.opened.lookup h with
      | some { target := .file i, place, appends, .. } =>
          let written := if appends then ((files.content? i).getD []).length else place
          let source : Option (Target × Nat) :=
            if operand = ['-'] then
              match r.process.descriptors.lookup stdin with
              | some (.file h') => (files.opened.lookup h').map fun o => (o.target, o.place)
              | _ => none
            else match files.find r.process.directory (pathOf operand) true with
              | .ok (_, .file j _ _) => some (.file j, 0)
              | _ => none
          return source.any fun (t, place) => t = .file i && place < written
      | _ => return false
  | _ => return false

def cat : Program := withSpec
    { flags := "nbsEAveuTt"
      long := [⟨"number", 'n', none⟩, ⟨"number-nonblank", 'b', none⟩, ⟨"squeeze-blank", 's', none⟩,
        ⟨"show-ends", 'E', none⟩, ⟨"show-tabs", 'T', none⟩, ⟨"show-nonprinting", 'v', none⟩,
        ⟨"show-all", 'A', none⟩] } fun o => do
  let d : Display :=
    { numbers := o.has 'n', filledOnly := o.has 'b', squeezes := o.has 's'
      ends := o.has 'E' || o.has 'e' || o.has 'A'
      tabs := o.has 'T' || o.has 't' || o.has 'A'
      others := o.has 'v' || o.has 'e' || o.has 't' || o.has 'A' }
  let plain := o.given.all (·.1 = 'u')
  let _ ← (orInput o.operands).foldlM (fun (s : DisplayState) operand => do
    flush
    if ← isOutput operand then
      complain (Letters.shownName operand ++ ": input file is output file".toList) 1
      return s
    match ← contentOf plainMessage operand with
    | none => return s
    | some text =>
        if plain then
          emit text
          return s
        let (shown, s) := (Letters.lines text).foldl (fun (shown, s) line =>
          let (t, s) := d.line s line
          (t :: shown, s)) (([] : List Letters), s)
        emit shown.reverse.flatten
        return s) {}

/-! ### Parts -/

/-- What a letter behind a number multiplies it by. -/
def sizeUnits : List (String × Nat) := [
  ("", 1), ("b", 512), ("kB", 1000), ("k", 1024), ("K", 1024), ("KiB", 1024), ("MB", 1000000),
  ("M", 1048576), ("m", 1048576), ("MiB", 1048576), ("GB", 1000000000), ("G", 1073741824), ("GiB", 1073741824)]

def size? (t : Letters) : Option Nat :=
  let ds := t.takeWhile Char.isDigit
  if ds.isEmpty then none
  else (sizeUnits.lookup (String.ofList (t.drop ds.length))).map (Letters.valueIn 10 ds * ·)

/-- A count with a sign in front, or without one. -/
def signedSize? (t : Letters) : Option (Option Char × Nat) :=
  match t with
  | '-' :: t => (size? t).map (some '-', ·)
  | '+' :: t => (size? t).map (some '+', ·)
  | t => (size? t).map (none, ·)

structure Part where
  bytes : Bool
  sign : Option Char
  count : Nat
  deriving DecidableEq, Repr

/-- An old way to give a count: a sign, a number and a letter for what is counted. -/
def withCount (signs : Letters) : List Letters → List Letters
  | (s :: d :: ds) :: rest =>
      if signs.contains s ∧ d.isDigit then
        let number := (d :: ds).takeWhile Char.isDigit
        let unit := (d :: ds).drop number.length
        let number := if s = '+' then '+' :: number else number
        let (kind, number) := match unit with
          | 'c' :: _ => ("-c", number)
          | 'b' :: _ => ("-c", number ++ ['b'])
          | 'k' :: _ => ("-c", number ++ ['k'])
          | _ => ("-n", number)
        let flags : List Letters := (unit.filter fun c => c == 'q' || c == 'v').map fun c => ['-', c]
        kind.toList :: number :: flags ++ rest
      else (s :: d :: ds) :: rest
  | args => args

/-- Prints a part of each input, with the names in between if there are several. -/
def printParts (o : Options) (part : Part) (select : Part → Letters → Letters × Letters) : Job Unit := do
  let several := o.operands.length > 1
  let headers := match o.last? ['q', 'v'] with
    | some 'q' => false
    | some _ => true
    | none => several
  let message : ReadMessage := fun operand e =>
    if e = .isDirectory then "error reading ".toList ++ quoteName operand ++ ": ".toList ++ e.reason
    else openMessage "cannot open" operand e
  let _ ← (orInput o.operands).foldlM (fun (first : Bool) operand => do
    let header : Job Unit := do
      if headers then
        let name := if operand = ['-'] then "standard input".toList else operand
        emit ((if first then [] else ['\n']) ++ "==> ".toList ++ name ++ " <==\n".toList)
    match ← if operand = ['-'] then readAll stdin else readFile operand with
    | .error e =>
        if e = .isDirectory then header
        complain (message operand e) 1
        return first && e ≠ .isDirectory
    | .ok text =>
        header
        let (shown, rest) := select part text
        emit shown
        if operand = ['-'] then leaveInput rest
        return false) true

/-- The count that options ask for, ten lines if none does. -/
def partOf (o : Options) : Job Part := do
  let bytes := o.last? ['n', 'c'] = some 'c'
  let t := (o.value? (if bytes then 'c' else 'n')).getD "10".toList
  match signedSize? t with
  | some (sign, count) => return ⟨bytes, sign, count⟩
  | none => fail ("invalid number of ".toList ++ (if bytes then "bytes" else "lines").toList ++ ": ".toList ++ quote t) 1

def partSpec : OptionSpec where
  flags := "qvz"
  valued := "nc"
  long := [⟨"lines", 'n', some true⟩, ⟨"bytes", 'c', some true⟩, ⟨"quiet", 'q', none⟩,
    ⟨"silent", 'q', none⟩, ⟨"verbose", 'v', none⟩]

/-- Cuts a list at the place that is so many items from its start or, with a sign, its end. -/
def cutAt {α : Type} (fromEnd : Bool) (count : Nat) (l : List α) : List α × List α :=
  l.splitAt (if fromEnd then l.length - count else count)

def head : Program := fun args => withSpec partSpec (fun o => do
  printParts o (← partOf o) fun p text =>
    if p.bytes then cutAt (p.sign = some '-') p.count text
    else
      let (shown, rest) := cutAt (p.sign = some '-') p.count (Letters.lines text)
      (shown.flatten, rest.flatten)) (withCount ['-'] args)

def tail : Program := fun args =>
  withSpec { partSpec with flags := "qvfzF", long := ⟨"follow", 'f', none⟩ :: partSpec.long } (fun o => do
  printParts o (← partOf o) fun p text =>
    let fromStart := p.sign = some '+'
    let count := if fromStart then p.count - 1 else p.count
    if p.bytes then ((cutAt (!fromStart) count text).2, [])
    else ((cutAt (!fromStart) count (Letters.lines text)).2.flatten, [])) (withCount ['-', '+'] args)

/-! ### Backwards -/

def tac : Program := withSpec {} fun o => do
  for operand in orInput o.operands do
    match ← contentOf (fun f e =>
      if e = .isDirectory then Letters.shownName f ++ ": read error: Invalid argument".toList
      else openMessage "failed to open" f e) operand with
    | some text => emit (Letters.lines text).reverse.flatten
    | none => pure ()

def rev : Program := withSpec {} fun o => do
  for operand in orInput o.operands do
    match ← contentOf (fun f e => "cannot open ".toList ++ plainMessage f e) operand with
    | some text =>
        emit ((Letters.lines text).flatMap fun line =>
          (Letters.chomp line).reverse ++ if line.getLast? = some '\n' then ['\n'] else [])
    | none => pure ()

/-! ### Numbers -/

def nl : Program := withSpec
    { flags := "p", valued := "bwsvinhfdl"
      long := [⟨"body-numbering", 'b', some true⟩, ⟨"number-width", 'w', some true⟩,
        ⟨"number-separator", 's', some true⟩, ⟨"starting-line-number", 'v', some true⟩,
        ⟨"line-increment", 'i', some true⟩, ⟨"number-format", 'n', some true⟩] } fun o => do
  let style := (o.value? 'b').getD ['t']
  if !([['a'], ['t'], ['n']].contains style) ∧ style.head? ≠ some 'p' then
    misuse ("invalid body numbering style: ".toList ++ quote style) 1
  let format := (o.value? 'n').getD "rn".toList
  if !(["ln", "rn", "rz"].any (·.toList == format)) then
    misuse ("invalid line numbering format: ".toList ++ quote format) 1
  let number (c : Char) (default : Nat) (what : String) : Job Int := do
    match o.value? c with
    | none => return default
    | some t =>
        match Letters.int? t with
        | some n => return n
        | none => fail (what.toList ++ ": ".toList ++ quote t) 1
  let width := (← number 'w' 6 "invalid line number field width").toNat
  let start ← number 'v' 1 "invalid starting line number"
  let step ← number 'i' 1 "invalid line number increment"
  let separator := (o.value? 's').getD ['\t']
  let text ← contentsOf plainMessage o.operands
  let column (n : Int) : Letters :=
    let digits := Letters.ofInt n
    if format = "ln".toList then digits ++ List.replicate (width - digits.length) ' '
    else if format = "rz".toList then
      let body := Letters.ofNat n.natAbs
      let sign : Letters := if n < 0 then ['-'] else []
      sign ++ List.replicate (width - sign.length - body.length) '0' ++ body
    else Letters.padLeft width digits
  let (_, lines) := (Letters.contents text).foldl (fun (n, out) line =>
    if style = ['a'] ∨ (style = ['t'] ∧ line ≠ []) then
      (n + step, (column n ++ separator ++ line ++ ['\n']) :: out)
    else (n, (List.replicate (width + separator.length) ' ' ++ line ++ ['\n']) :: out))
    (start, ([] : List Letters))
  emit lines.reverse.flatten

end TwinRun.Tool
