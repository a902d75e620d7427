import TwinRun.Text.Decimal
import TwinRun.Text.Lossy
import TwinRun.Yaml.Token

/-!
Scanning what qualifies nodes and documents: anchors, aliases, tags and directives.
-/

namespace TwinRun.Yaml

/-! ### Anchors -/

/-- Characters that may follow the name of an anchor, blanks and breaks aside. -/
def endsAnchor (c : Char) : Bool := "?:,]\x7d%@`".toList.contains c

/-- Scans the name behind `&` or `*`. -/
def scanAnchor (c : Cursor) : Except Problem (String × Cursor) :=
  let name := c.rest.takeWhile isWord
  let c := c.skip name.length
  if name.isEmpty || !(blankOrEnd c.rest || c.rest.head?.any endsAnchor) then .error .badAnchor
  else .ok (String.ofList name, c)

/-! ### Tags -/

/-- How many bytes follow the first byte of a character in percent notation. -/
def continuation? (b : Nat) : Option Nat :=
  if b < 0x80 then some 0
  else if b < 0xC0 then none
  else if b < 0xE0 then some 1
  else if b < 0xF0 then some 2
  else if b < 0xF8 then some 3
  else none

/-- Resolves percent notation. Of the current character `owed` bytes are still to come. -/
def unescapeUri : (owed : Nat) → List Char → Option Bytes
  | 0, [] => some []
  | _ + 1, [] => none
  | owed, '%' :: high :: low :: rest => do
      let b := 16 * (← Decimal.digitValue? high) + (← Decimal.digitValue? low)
      let owed ← match owed with
        | 0 => continuation? b
        | n + 1 => if 0x80 ≤ b ∧ b < 0xC0 then some n else none
      return UInt8.ofNat b :: (← unescapeUri owed rest)
  | 0, c :: rest => do
      if c == '%' then failure
      return Bytes.ofChars [c] ++ (← unescapeUri 0 rest)
  | _ + 1, _ :: _ => none

/-- Scans the characters of a tag behind those of its `head`. -/
def scanUri (verbatim : Bool) (head : List Char) (c : Cursor) :
    Except Problem (String × Cursor) :=
  let raw := c.rest.takeWhile (isTagChar verbatim)
  if raw.isEmpty ∧ head.isEmpty then .error .badTag
  else match unescapeUri 0 raw with
    | some bytes => .ok (String.ofList (head.drop 1) ++ bytes.lossy, c.skip raw.length)
    | none => .error .badTag

/-- Scans a tag handle: an exclamation mark, a name and, if there is one, a second mark. -/
def scanHandle (c : Cursor) : Except Problem (List Char × Cursor) :=
  match c.rest with
  | '!' :: rest =>
      let name := rest.takeWhile isWord
      let c := c.skip (1 + name.length)
      match c.head? with
      | some '!' => .ok ('!' :: name ++ ['!'], c.skip 1)
      | _ => .ok ('!' :: name, c)
  | _ => .error .badTag

def isClosedHandle (handle : List Char) : Bool :=
  handle.length > 1 && handle.getLast? == some '!'

/-- Scans a tag: verbatim in angle brackets, with a handle, or behind a single mark. The
mark alone is a tag without handle. -/
def scanTag (inFlow : Bool) (c : Cursor) : Except Problem (Token × Cursor) := do
  let (token, c) ← match c.rest with
    | '!' :: '<' :: _ => do
        let (uri, c) ← scanUri true [] (c.skip 2)
        if c.head? == some '>' then pure (Token.tag "" uri, c.skip 1) else throw .badTag
    | _ => do
        let (handle, c) ← scanHandle c
        if isClosedHandle handle then
          let (suffix, c) ← scanUri false [] c
          pure (Token.tag (String.ofList handle) suffix, c)
        else
          let (suffix, c) ← scanUri false handle c
          pure (if suffix.isEmpty then Token.tag "" "!" else Token.tag "!" suffix, c)
  if blankOrEnd c.rest || (inFlow && c.head? == some ',') then pure (token, c)
  else throw .badTag

/-! ### Directives -/

/-- A version number has at most nine digits. -/
def scanVersionNumber (c : Cursor) : Except Problem (Nat × Cursor) :=
  let digits := c.rest.takeWhile Char.isDigit
  if digits.length > 9 then .error .badDirective
  else match Decimal.read? digits with
    | some n => .ok (n, c.skip digits.length)
    | none => .error .badDirective

/-- Scans the version behind `%YAML`. -/
def scanVersion (c : Cursor) : Except Problem (Token × Cursor) := do
  let (major, c) ← scanVersionNumber (c.skipWhile isBlank)
  if c.head? != some '.' then throw .badDirective
  let (minor, c) ← scanVersionNumber (c.skip 1)
  return (.versionDirective major minor, c)

/-- Scans the handle and what it stands for behind `%TAG`. -/
def scanTagDirective (c : Cursor) : Except Problem (Token × Cursor) := do
  let (handle, c) ← scanHandle (c.skipWhile isBlank)
  if !(isClosedHandle handle || handle == ['!']) then throw .badDirective
  if !(c.rest.head?.any isBlank) then throw .badDirective
  let (meaning, c) ← scanUri true [] (c.skipWhile isBlank)
  if !blankOrEnd c.rest then throw .badDirective
  return (.tagDirective (String.ofList handle) meaning, c)

/-- Scans a directive from behind its percent sign, with its line. -/
def scanDirective (c : Cursor) : Except Problem (Token × Cursor) := do
  let name := c.rest.takeWhile isWord
  let c := c.skip name.length
  if name.isEmpty || !blankOrEnd c.rest then throw .badDirective
  let (token, c) ←
    if name == "YAML".toList then scanVersion c
    else if name == "TAG".toList then scanTagDirective c
    else throw .badDirective
  let c := c.skipWhile isBlank
  let c := if c.head? == some '#' then c.skipWhile (fun x => !isBreak x) else c
  if breakOrEnd c.rest then return (token, c.skipBreak) else throw .badDirective

end TwinRun.Yaml
