import TwinRun.Yaml.Layout

/-!
Nodes: the content of a document.

A node may be anchored, and an alias stands for an anchored node, possibly for one that it
is part of. So a document is its root together with its anchored nodes, and aliases stay in
place until they are followed.
-/

namespace TwinRun.Yaml

/-- A node; `tag` is absent where the text gives none. -/
inductive Node where
  | scalar (text : String) (style : ScalarStyle) (tag : Option String)
  | sequence (items : List Node) (tag : Option String)
  | mapping (entries : List (Node × Node)) (tag : Option String)
  /-- Stands for the node that owns this anchor. -/
  | alias (anchor : Nat)
  deriving Repr

structure Document where
  /-- Absent if the text has no content at all. -/
  root : Option Node
  /-- The anchored nodes by anchor. -/
  anchors : List (Nat × Node)
  /-- How many steps a walk through the document takes: one for a scalar or an alias, two
  for a collection. -/
  size : Nat
  deriving Repr

namespace Node

/-! ### Building nodes from tokens -/

/-- The state between two tokens. -/
structure Builder where
  /-- The tokens still to come. -/
  tokens : List Token
  /-- What tag handles stand for. -/
  handles : List (String × String) := []
  /-- The current anchor of each name. -/
  names : List (String × Nat) := []
  /-- For each anchor the number of the node it was last given to, latest first. -/
  owners : List (Nat × Nat) := []
  /-- The finished anchored nodes by number. -/
  finished : List (Nat × Node) := []
  /-- How many anchored nodes have started. -/
  started : Nat := 0
  size : Nat := 0

/-- A step of building; it fails if the tokens do not fit. -/
abbrev Assembly := StateT Builder (Except Problem)

/-- The next token; absent at the end of the text. -/
def peek : Assembly (Option Token) := do return (← get).tokens.head?

def advance : Assembly Unit := modify fun b => { b with tokens := b.tokens.tail }

/-- Counts steps of a walk. -/
def grow (n : Nat) : Assembly Unit := modify fun b => { b with size := b.size + n }

/-- What stands where the text has nothing. -/
def nothing : Assembly Node := do
  grow 1
  return .scalar "" .plain none

/-- The anchor and the tag of a node. -/
structure Properties where
  anchor : Option String := none
  tag : Option String := none

/-- The full tag for a handle and a suffix. -/
def resolveTag (handle suffix : String) : Assembly String := do
  if handle.isEmpty then return suffix
  match (← get).handles.lookup handle with
  | some meaning => return meaning ++ suffix
  | none => throw .unknownTagHandle

def anchorHere : Assembly (Option String) := do
  match ← peek with
  | some (.anchor name) => advance; return some name
  | _ => return none

def tagHere : Assembly (Option String) := do
  match ← peek with
  | some (.tag handle suffix) => advance; return some (← resolveTag handle suffix)
  | _ => return none

/-- Reads an anchor and a tag, in either order. -/
def properties : Assembly Properties := do
  match ← anchorHere with
  | some name => return ⟨some name, ← tagHere⟩
  | none =>
      match ← tagHere with
      | some tag => return ⟨← anchorHere, some tag⟩
      | none => return {}

/-- Starts a node with this name and gives its number. Its anchor is the number of names in
use, so a name that is used again shares its new anchor with the next new name. -/
def start (name : String) : Assembly Nat := do
  let b ← get
  let anchor := b.names.length
  set { b with
    names := (name, anchor) :: b.names.filter (·.1 != name)
    owners := (anchor, b.started) :: b.owners
    started := b.started + 1 }
  return b.started

/-- Files a node under its number. -/
def finish (number : Option Nat) (n : Node) : Assembly Unit :=
  match number with
  | some k => modify fun b => { b with finished := (k, n) :: b.finished }
  | none => pure ()

def nextIs (ts : List Token) : Assembly Bool := do return (← peek).any ts.contains

/-- Reads a node unless one of these tokens shows that there is none. -/
def nodeUnless (stops : List Token) (read : Assembly Node) : Assembly Node := do
  if ← nextIs stops then nothing else read

/-- Passes over a token that has to be there. -/
def expect (t : Token) : Assembly Unit := do
  if ← nextIs [t] then advance else throw .unexpectedToken

/-- Passes over a token that may be there, and tells whether it was. -/
def accept (t : Token) : Assembly Bool := do
  if ← nextIs [t] then advance; return true
  else return false

/-- The value of a pair: behind a colon, if there is one. -/
def valueOf (stops : List Token) (read : Assembly Node) : Assembly Node := do
  if ← accept .value then nodeUnless stops read else nothing

mutual

/-- Reads a node. Block collections stand in block context only (`block`); where `indentless`
a sequence may start without indentation. -/
def read : (fuel : Nat) → (block indentless : Bool) → Assembly Node
  | 0, _, _ => throw .tooDeep
  | fuel + 1, block, indentless => do
      match ← peek with
      | some (.alias name) => do
          advance
          grow 1
          match (← get).names.lookup name with
          | some anchor => return .alias anchor
          | none => throw .unknownAnchor
      | _ => do
          let p ← properties
          let number ← p.anchor.mapM start
          let n ← content fuel block indentless p
          finish number n
          return n

/-- Reads what stands behind anchor and tag. With one of them, nothing may stand there. -/
def content : (fuel : Nat) → (block indentless : Bool) → Properties → Assembly Node
  | 0, _, _, _ => throw .tooDeep
  | fuel + 1, block, indentless, p => do
      match ← peek, block, indentless with
      | some (.scalar text style), _, _ =>
          advance
          grow 1
          return .scalar text style p.tag
      | some .flowSequenceStart, _, _ =>
          advance
          grow 2
          return .sequence (← flowItems fuel true []) p.tag
      | some .flowMappingStart, _, _ =>
          advance
          grow 2
          return .mapping (← flowPairs fuel true []) p.tag
      | some .blockSequenceStart, true, _ =>
          advance
          grow 2
          return .sequence (← blockItems fuel []) p.tag
      | some .blockMappingStart, true, _ =>
          advance
          grow 2
          return .mapping (← blockPairs fuel []) p.tag
      | some .blockEntry, _, true =>
          grow 2
          return .sequence (← indentlessItems fuel []) p.tag
      | _, _, _ =>
          if p.anchor.isNone ∧ p.tag.isNone then throw .unexpectedToken
          grow 1
          return .scalar "" .plain p.tag

/-- The items of a block sequence, up to and with its end. -/
def blockItems : (fuel : Nat) → List Node → Assembly (List Node)
  | 0, _ => throw .tooDeep
  | fuel + 1, items => do
      if ← accept .blockEnd then return items.reverse
      expect .blockEntry
      let item ← nodeUnless [.blockEntry, .blockEnd] (read fuel true false)
      blockItems fuel (item :: items)

/-- The items of a sequence without indentation, which ends where no item follows. -/
def indentlessItems : (fuel : Nat) → List Node → Assembly (List Node)
  | 0, _ => throw .tooDeep
  | fuel + 1, items => do
      if !(← accept .blockEntry) then return items.reverse
      let item ← nodeUnless [.blockEntry, .key, .value, .blockEnd] (read fuel true false)
      indentlessItems fuel (item :: items)

/-- The entries of a block mapping, up to and with its end. -/
def blockPairs : (fuel : Nat) → List (Node × Node) → Assembly (List (Node × Node))
  | 0, _ => throw .tooDeep
  | fuel + 1, entries => do
      if ← accept .blockEnd then return entries.reverse
      expect .key
      let stops := [.key, .value, .blockEnd]
      let key ← nodeUnless stops (read fuel true true)
      let value ← valueOf stops (read fuel true true)
      blockPairs fuel ((key, value) :: entries)

/-- The items of a flow sequence, up to and with its bracket. An item may be a single pair
without braces; the token behind a missing key is passed over. -/
def flowItems : (fuel : Nat) → (first : Bool) → List Node → Assembly (List Node)
  | 0, _, _ => throw .tooDeep
  | fuel + 1, first, items => do
      if ← accept .flowSequenceEnd then return items.reverse
      if !first then expect .flowEntry
      if ← accept .flowSequenceEnd then return items.reverse
      if ← accept .key then
        grow 2
        let key ←
          if ← nextIs [.value, .flowEntry, .flowSequenceEnd] then do advance; nothing
          else read fuel false false
        let value ← valueOf [.flowEntry, .flowSequenceEnd] (read fuel false false)
        flowItems fuel false (.mapping [(key, value)] none :: items)
      else
        let item ← read fuel false false
        flowItems fuel false (item :: items)

/-- The entries of a flow mapping, up to and with its brace. A key may stand alone. -/
def flowPairs : (fuel : Nat) → (first : Bool) → List (Node × Node) →
    Assembly (List (Node × Node))
  | 0, _, _ => throw .tooDeep
  | fuel + 1, first, entries => do
      if ← accept .flowMappingEnd then return entries.reverse
      if !first then expect .flowEntry
      if ← accept .flowMappingEnd then return entries.reverse
      if ← accept .key then
        let key ← nodeUnless [.value, .flowEntry, .flowMappingEnd] (read fuel false false)
        let value ← valueOf [.flowEntry, .flowMappingEnd] (read fuel false false)
        flowPairs fuel false ((key, value) :: entries)
      else
        let key ← read fuel false false
        flowPairs fuel false ((key, ← nothing) :: entries)

end

end Node

namespace Document

open Node

/-- The handles that need no directive. -/
def defaultHandles : List (String × String) := [("!", "!"), ("!!", "tag:yaml.org,2002:")]

/-- Reads directives: at most one version, 1.1 or 1.2, and each handle once. -/
def directives : (versioned : Bool) → (handles : List (String × String)) → List Token →
    Except Problem (List (String × String) × List Token)
  | versioned, handles, .versionDirective major minor :: rest =>
      if versioned then .error .badDirective
      else if major = 1 ∧ (minor = 1 ∨ minor = 2) then directives true handles rest
      else .error .incompatibleVersion
  | versioned, handles, .tagDirective handle meaning :: rest =>
      if (handles.lookup handle).isSome then .error .badDirective
      else directives versioned ((handle, meaning) :: handles) rest
  | _, handles, rest => .ok (handles, rest)

def isOutside : Token → Bool
  | .versionDirective .. | .tagDirective .. | .documentStart | .documentEnd => true
  | _ => false

/-- Reads the root: behind a start mark it may be missing. -/
def readRoot (marked : Bool) (tokens : List Token) : Assembly Node := do
  if marked ∧ (← peek).all isOutside then nothing
  else read (4 * tokens.length + 4) true false

def anchored (b : Builder) : List (Nat × Node) :=
  b.owners.filterMap fun (anchor, number) => (b.finished.lookup number).map (anchor, ·)

/-- Reads the only document. Behind it only end marks may stand. -/
def ofTokens (tokens : List Token) : Except Problem Document := do
  if tokens.isEmpty then return { root := none, anchors := [], size := 1 }
  let (handles, rest) ← directives false [] tokens
  let marked := rest.head? == some .documentStart
  if rest.length < tokens.length ∧ !marked then throw .unexpectedToken
  let content := if marked then rest.tail else rest
  let (root, b) ← (readRoot marked content).run
    { tokens := content, handles := handles ++ defaultHandles }
  if b.tokens.all (· == .documentEnd) then
    return { root := some root, anchors := anchored b, size := b.size }
  throw .severalDocuments

def ofText (text : String) : Except Problem Document := do
  ofTokens (← Yaml.tokens text.toList)

end Document

end TwinRun.Yaml
