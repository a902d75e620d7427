import TwinRun.Tool.Key

/-!
Tools that put lines in order, or look at lines that are next to each other.
-/

namespace TwinRun.Tool

/-! ### Sorting -/

/-- The items of a text, each without its end. -/
def itemsOf (terminator : Char) (t : Letters) : List Letters :=
  let items := Letters.splitOn terminator t
  if items.getLast? = some [] then items.dropLast else items

structure Sorting where
  separator : Option Char
  keys : List Key
  /-- Lines that are equal by their keys keep their order. -/
  stable : Bool
  unique : Bool
  reverse : Bool
  deriving DecidableEq, Repr

namespace Sorting

/-- Compares two lines. What the keys leave open is settled by the whole lines. -/
def compare (s : Sorting) (a b : Letters) : Ordering :=
  match s.keys, Key.compareAll s.separator s.keys a b with
  | _ :: _, .eq => if s.stable || s.unique then .eq else whole
  | [], _ => whole
  | _, o => o
where
  whole : Ordering :=
    let o := Collation.compareLetters a b
    if s.reverse then o.swap else o

def before (s : Sorting) (a b : Letters) : Bool := s.compare a b != .gt

/-- One of each run of equal lines. -/
def thin (s : Sorting) (lines : List Letters) : List Letters :=
  (lines.foldl (fun kept line =>
    match kept with
    | last :: _ => if s.compare last line = .eq then kept else line :: kept
    | [] => [line]) ([] : List Letters)).reverse

/-- The first line that is out of order, with its number. -/
def disorder? (s : Sorting) (lines : List Letters) : Option (Nat × Letters) :=
  ((lines.zip lines.tail).zipIdx.find? fun ((a, b), _) =>
    s.compare a b = .gt || (s.unique && s.compare a b = .eq)).map fun ((_, b), k) => (k + 2, b)

end Sorting

def separatorOf (o : Options) : Job (Option Char) := do
  match o.value? 't' with
  | none => return none
  | some [] => fail "empty tab".toList 2
  | some [c] => return some c
  | some ['\\', '0'] => return some '\x00'
  | some t => fail ("multi-character tab ".toList ++ quote t) 2

def sortingOf (o : Options) : Job Sorting := do
  let general := o.given.foldl (fun (order : Collation) (c, _) =>
    (order.switch? true true c).getD order) {}
  let keys ← (o.values 'k').mapM fun t => do
    match Key.read t with
    | .ok k => pure (if k.order.isPlain then { k with order := general } else k)
    | .error message => fail message 2
  let keys := if keys.isEmpty && !{ general with reverse := false }.isPlain then [{ order := general }] else keys
  match keys.find? (·.order.isContradictory) with
  | some k => fail ("options ".toList ++ quote ('-' :: k.order.letters) ++ " are incompatible".toList) 2
  | none => pure ()
  return ⟨← separatorOf o, keys, o.has 's', o.has 'u', general.reverse⟩

/-- Tells that an input could not be read. -/
def sortMessage : ReadMessage := fun operand e =>
  (if e = .isDirectory then "read failed: " else "cannot read: ").toList ++ plainMessage operand e

def checkOrder (s : Sorting) (terminator : Char) (silent : Bool) (operand : Letters) : Job Unit := do
  match ← contentOf (fun f e => "open failed: ".toList ++ plainMessage f e) operand 2 with
  | none => return
  | some text =>
      match s.disorder? (itemsOf terminator text) with
      | none => return
      | some (n, line) =>
          if !silent then
            flush
            tell ((← get).name ++ ": ".toList ++ operand ++ ':' :: Letters.ofNat n ++ ": disorder: ".toList ++
              line ++ [terminator])
          endWith 1

def writeFile (path content : Letters) : Job (Except SystemError Unit) :=
  change fun fs d => fs.store d (pathOf path) (Letters.bytes content)

def sort : Program := withSpec
    { flags := "bdfghiMnrVcCmsuz", valued := "ktoST", code := 2
      long := [⟨"ignore-leading-blanks", 'b', none⟩, ⟨"dictionary-order", 'd', none⟩,
        ⟨"ignore-case", 'f', none⟩, ⟨"general-numeric-sort", 'g', none⟩,
        ⟨"human-numeric-sort", 'h', none⟩, ⟨"ignore-nonprinting", 'i', none⟩,
        ⟨"month-sort", 'M', none⟩, ⟨"numeric-sort", 'n', none⟩, ⟨"reverse", 'r', none⟩,
        ⟨"version-sort", 'V', none⟩, ⟨"check", 'c', some false⟩, ⟨"merge", 'm', none⟩,
        ⟨"stable", 's', none⟩, ⟨"unique", 'u', none⟩, ⟨"zero-terminated", 'z', none⟩,
        ⟨"key", 'k', some true⟩, ⟨"field-separator", 't', some true⟩, ⟨"output", 'o', some true⟩] } fun o => do
  let s ← sortingOf o
  let terminator := if o.has 'z' then '\x00' else '\n'
  if o.has 'c' && o.has 'C' then fail "options '-cC' are incompatible".toList 2
  if o.has 'c' || o.has 'C' then
    match o.operands with
    | _ :: second :: _ =>
        fail ("extra operand ".toList ++ quote second ++ " not allowed with -c".toList) 2
    | operands => checkOrder s terminator (o.has 'C') (operands.headD ['-'])
  else
    let inputs ← (orInput o.operands).mapM fun operand => do
      match ← contentOf sortMessage operand 2 with
      | some text => return itemsOf terminator text
      | none => stop 2
    let lines := if o.has 'm' then inputs.foldl (fun done lines => List.merge done lines s.before) []
      else inputs.flatten.mergeSort s.before
    let lines := if s.unique then s.thin lines else lines
    let text := lines.flatMap (· ++ [terminator])
    match o.value? 'o' with
    | none => emit text
    | some path =>
        match ← writeFile path text with
        | .ok () => pure ()
        | .error e => complain ("open failed: ".toList ++ plainMessage path e) 2

/-! ### Neighbours -/

/-- Lines that are equal, one after the other. -/
def runsOf (same : Letters → Letters → Bool) (lines : List Letters) : List (List Letters) :=
  (lines.foldl (fun runs line =>
    match runs with
    | (last :: more) :: runs' => if same last line then (line :: last :: more) :: runs' else [line] :: runs
    | _ => [line] :: runs) ([] : List (List Letters))).reverse.map List.reverse

def countOption (o : Options) (c : Char) (what : String) : Job (Option Nat) := do
  match o.value? c with
  | none => return none
  | some t =>
      match Letters.nat? t with
      | some n => return some n
      | none => fail (t ++ ": invalid number of ".toList ++ what.toList) 1

def uniq : Program := withSpec
    { flags := "cdDuiz", valued := "fsw"
      long := [⟨"count", 'c', none⟩, ⟨"repeated", 'd', none⟩, ⟨"unique", 'u', none⟩,
        ⟨"ignore-case", 'i', none⟩, ⟨"skip-fields", 'f', some true⟩, ⟨"skip-chars", 's', some true⟩,
        ⟨"check-chars", 'w', some true⟩, ⟨"zero-terminated", 'z', none⟩] } fun o => do
  let fields := (← countOption o 'f' "fields to skip").getD 0
  let letters := (← countOption o 's' "bytes to skip").getD 0
  let width ← countOption o 'w' "bytes to compare"
  match o.operands with
  | _ :: _ :: extra :: _ => misuse ("extra operand ".toList ++ quote extra) 1
  | _ => pure ()
  if o.has 'c' && o.has 'D' then
    misuse "printing all duplicated lines and repeat counts is meaningless".toList 1
  let some text ← contentOf plainMessage (o.operands.headD ['-']) | return
  let terminator := if o.has 'z' then '\x00' else '\n'
  let part (line : Letters) : Letters :=
    let t := (Key.dropFields none fields line).drop letters
    let t := match width with
      | some n => t.take n
      | none => t
    if o.has 'i' then t.map Char.toLower else t
  let shown := (runsOf (fun a b => part a == part b) (itemsOf terminator text)).flatMap fun run =>
    let n := run.length
    if (o.has 'd' && n = 1) || (o.has 'u' && n > 1) then []
    else if o.has 'D' then (if n > 1 then run.flatMap (· ++ [terminator]) else [])
    else (if o.has 'c' then Letters.padLeft 7 (Letters.ofNat n) ++ [' '] else []) ++ run.headD [] ++ [terminator]
  match o.operands with
  | [_, target] =>
      match ← writeFile target shown with
      | .ok () => pure ()
      | .error e => complain (plainMessage target e) 1
  | _ => emit shown

end TwinRun.Tool
