import TwinRun.Text.Integer
import TwinRun.Tool.Basic
import TwinRun.Tool.Regex.Basic

/-!
Replacing letters.

A set of letters is written as single letters, ranges, classes and repetitions. Classes of upper
and lower case stand for each other where both sets have one in the same place.
-/

namespace TwinRun.Tool

inductive SetPart where
  | letters (t : Letters)
  | named (name : String) (t : Letters)
  /-- A letter several times; as often as it takes, if the count is left open. -/
  | repeated (c : Char) (count : Option Nat)
  deriving DecidableEq, Repr

namespace SetPart

def classLetters? (name : String) : Option Letters :=
  (Regex.classRanges.lookup name).map fun ranges =>
    (List.range 256).filterMap fun n =>
      if Regex.inRanges ranges (Char.ofNat n) then some (Char.ofNat n) else none

/-- A letter, and whether it was escaped. -/
abbrev Item := Char × Bool

def unescape : (fuel : Nat) → Letters → List Item
  | 0, _ | _, [] => []
  | _, ['\\'] => [('\\', true)]
  | fuel + 1, '\\' :: c :: rest =>
      match "abfnrtv".toList.idxOf? c with
      | some k => (['\x07', '\x08', '\x0c', '\n', '\r', '\t', '\x0b'].getD k c, true) :: unescape fuel rest
      | none =>
          let digits := Letters.digitsIn 8 ((c :: rest).take 3)
          let digits := if Letters.valueIn 8 digits > 255 then digits.take 2 else digits
          if digits.isEmpty then (c, true) :: unescape fuel rest
          else (Char.ofNat (Letters.valueIn 8 digits), true) :: unescape fuel ((c :: rest).drop digits.length)
  | fuel + 1, c :: rest => (c, false) :: unescape fuel rest

/-- The text between an opening and a closing mark in brackets. -/
def inBrackets? (mark : Char) : List Item → Option (Letters × List Item)
  | (c, false) :: (']', false) :: rest => if c = mark then some ([], rest) else none
  | (c, _) :: rest => (inBrackets? mark rest).map fun (t, rest) => (c :: t, rest)
  | [] => none

def repetition? : List Item → Option (SetPart × List Item)
  | (c, _) :: ('*', false) :: rest =>
      let digits := (rest.takeWhile fun i => i.1.isDigit && !i.2).map (·.1)
      match rest.drop digits.length with
      | (']', false) :: rest =>
          let base := if digits.head? = some '0' then 8 else 10
          let n := Letters.valueIn base digits
          some (.repeated c (if n = 0 then none else some n), rest)
      | _ => none
  | _ => none

def shown (c : Char) : Letters := if ' ' ≤ c ∧ c ≤ '~' then [c] else '\\' :: (Nat.toDigits 8 (512 + c.toNat)).drop 1

/-- Reads a range or a single letter; `next` reads on. -/
def readRange (next : List Item → Except Letters (List SetPart)) :
    List Item → Except Letters (List SetPart)
  | (low, _) :: ('-', false) :: (high, _) :: rest => do
      if high < low then
        throw ("range-endpoints of ".toList ++ quote (shown low ++ '-' :: shown high) ++
          " are in reverse collating sequence order".toList)
      return .letters ((List.range' low.toNat (high.toNat + 1 - low.toNat)).map Char.ofNat) ::
        (← next rest)
  | (c, _) :: rest => do return .letters [c] :: (← next rest)
  | [] => .ok []

def readItems : (fuel : Nat) → List Item → Except Letters (List SetPart)
  | 0, _ | _, [] => .ok []
  | fuel + 1, is => do
      match is with
      | ('[', false) :: (':', false) :: rest =>
          match inBrackets? ':' rest with
          | some (name, rest) =>
              match classLetters? (String.ofList name) with
              | some t => return .named (String.ofList name) t :: (← readItems fuel rest)
              | none =>
                  if name.isEmpty then throw "missing character class name '[::]'".toList
                  throw ("invalid character class ".toList ++ quote name)
          | none => readRange (readItems fuel) is
      | ('[', false) :: ('=', false) :: rest =>
          match inBrackets? '=' rest with
          | some ([c], rest) => return .letters [c] :: (← readItems fuel rest)
          | some ([], _) => throw "missing equivalence class character '[==]'".toList
          | some (t, _) => throw (t ++ ": equivalence class operand must be a single character".toList)
          | none => readRange (readItems fuel) is
      | ('[', false) :: rest =>
          match repetition? rest with
          | some (part, rest) => return part :: (← readItems fuel rest)
          | none => readRange (readItems fuel) is
      | is => readRange (readItems fuel) is

def read (t : Letters) : Except Letters (List SetPart) :=
  let is := unescape (t.length + 1) t
  readItems (is.length + 1) is

/-- How many letters there are; an open repetition counts for none. -/
def size : SetPart → Nat
  | .letters t | .named _ t => t.length
  | .repeated _ n => n.getD 0

/-- The letters of a set; open repetitions share what is missing to a length. -/
def expand (length : Nat) (parts : List SetPart) : Letters :=
  let missing := length - (parts.map size).foldl (· + ·) 0
  parts.flatMap fun
    | .letters t | .named _ t => t
    | .repeated c n => List.replicate (n.getD missing) c

def isCase (name : String) : Bool := name = "upper" || name = "lower"

/-- Pairs of letters: what is replaced, and by what. Classes for upper and lower case stand for
each other. -/
def pairs (first second : List SetPart) : List (Char × Char) :=
  let length := (first.map size).foldl (· + ·) 0
  let second := second.map fun
    | .repeated c none => .repeated c (some (length - (second.map size).foldl (· + ·) 0))
    | part => part
  let tagged (parts : List SetPart) : List (Char × Option String) := parts.flatMap fun
    | .letters t => t.map (·, none)
    | .named name t => t.map (·, if isCase name then some name else none)
    | .repeated c n => List.replicate (n.getD 0) (c, none)
  let as := tagged first
  let bs := tagged second
  let filled := bs ++ List.replicate (as.length - bs.length) (bs.getLastD (' ', none))
  (as.zip filled).map fun ((a, kind), (b, kind')) =>
    match kind, kind' with
    | some "upper", some "lower" => (a, a.toLower)
    | some "lower", some "upper" => (a, a.toUpper)
    | _, _ => (a, b)

end SetPart

/-- Keeps one of equal neighbours among some letters. -/
def squeeze (set : Letters) (t : Letters) : Letters :=
  (t.foldl (fun kept c =>
    if kept.head? = some c ∧ set.contains c then kept else c :: kept) ([] : Letters)).reverse

/-- Complains about the number of operands. -/
def wrongCount (message : Letters) (hint : String) : Job Unit := do
  warn message
  if hint ≠ "" then tell (hint.toList ++ ['\n'])
  tryHelp 1

def tr : Program := withSpec
    { flags := "cCdst", ordered := true
      long := [⟨"complement", 'c', none⟩, ⟨"delete", 'd', none⟩, ⟨"squeeze-repeats", 's', none⟩,
        ⟨"truncate-set1", 't', none⟩] } fun o => do
  let complements := o.has 'c' || o.has 'C'
  let deletes := o.has 'd'
  let squeezes := o.has 's'
  let needsTwo := deletes == squeezes
  let mayHaveTwo := !deletes || squeezes
  match o.operands with
  | [] => wrongCount "missing operand".toList ""
  | [only] =>
      if needsTwo then
        wrongCount ("missing operand after ".toList ++ quote only)
          (if squeezes then "Two strings must be given when both deleting and squeezing repeats."
            else "Two strings must be given when translating.")
  | _ :: second :: rest =>
      if !mayHaveTwo then
        wrongCount ("extra operand ".toList ++ quote second)
          (if rest.isEmpty then "Only one string may be given when deleting without squeezing repeats." else "")
      match rest with
      | extra :: _ => wrongCount ("extra operand ".toList ++ quote extra) ""
      | [] => pure ()
  let read (t : Letters) : Job (List SetPart) := do
    match SetPart.read t with
    | .ok parts => return parts
    | .error message => fail message 1
  let first ← read (o.operands.headD [])
  let second ← (o.operands[1]?).mapM read
  let isOpen : SetPart → Bool
    | .repeated _ none => true
    | _ => false
  if first.any isOpen then fail "the [c*] repeat construct may not appear in string1".toList 1
  match second with
  | some parts =>
      if (parts.filter isOpen).length > 1 then
        fail "only one [c*] repeat construct may appear in string2".toList 1
  | none => pure ()
  let plain := SetPart.expand 0 first
  let all := (List.range 256).map Char.ofNat
  let set := if complements then all.filter (!plain.contains ·) else plain
  let translates := !deletes && second.isSome
  let truncated (parts : List SetPart) : List SetPart :=
    if o.has 't' then [.letters (set.take (SetPart.expand 0 parts).length)] else if complements then [.letters set] else first
  match second with
  | some parts =>
      if translates then
        let isNamed (allowed : String → Bool) : SetPart → Bool
          | .named name _ => !allowed name
          | _ => false
        if parts.any (isNamed SetPart.isCase) then
          fail ("when translating, the only character classes that may appear in\n" ++
            "string2 are 'upper' and 'lower'").toList 1
        if (SetPart.expand set.length parts).isEmpty && !o.has 't' && !set.isEmpty then
          fail "when not truncating set1, string2 must be non-empty".toList 1
  | none => pure ()
  let text ← match ← readAll stdin with
    | .ok text => pure text
    | .error e => fail ("read error: ".toList ++ e.reason) 1
  match second, translates with
  | some parts, true =>
      let table := (SetPart.pairs (truncated parts) parts).reverse
      let mapped := text.map fun c => (table.lookup c).getD c
      emit (if squeezes then squeeze (SetPart.expand set.length parts) mapped else mapped)
  | _, _ =>
      let kept := if deletes then text.filter (!set.contains ·) else text
      let squeezed := match second with
        | some parts => SetPart.expand 0 parts
        | none => if deletes then [] else set
      emit (if squeezes then squeeze squeezed kept else kept)

end TwinRun.Tool
