import TwinRun.Config.Basic
import TwinRun.Text.Blank
import TwinRun.Yaml.Value

/-!
Reading a configuration from a YAML text.

Every key may be left out and then keeps its conventional value, except in a front end and
in a build step, which are given as a whole. Keys without meaning are passed over; a key
with a meaning may stand only once. A text without content changes nothing.
-/

namespace TwinRun

open Yaml (Node Document Following Value)

namespace Yaml.Node

/-! ### Records -/

/-- The text of a scalar, however it is written. -/
def asText (anchors : List (Nat × Node)) (n : Node) : Following String := do
  match ← n.follow anchors with
  | .scalar text _ _ => return text
  | _ => failure

def asPath (anchors : List (Nat × Node)) (n : Node) : Following Path := do
  return .ofString (← n.asText anchors)

/-- The items of a sequence; where nothing stands there are none. -/
def asItems (anchors : List (Nat × Node)) (n : Node) : Following (List Node) := do
  match ← n.follow anchors with
  | .sequence items _ => return items
  | .scalar "" .plain _ => return []
  | _ => failure

/-- The entries of a mapping whose keys are texts; where nothing stands there are none. -/
def asRecord (anchors : List (Nat × Node)) (n : Node) : Following (List (String × Node)) := do
  match ← n.follow anchors with
  | .mapping entries _ => entries.mapM fun (key, value) => do return (← key.asText anchors, value)
  | .scalar "" .plain _ => return []
  | _ => failure

end Yaml.Node

namespace Config

/-- The entry of a record under a key, which may stand there once. -/
def entry {α : Type} (record : List (String × α)) (key : String) : Following (Option α) :=
  match record.filter (·.1 == key) with
  | [] => return none
  | [(_, value)] => return some value
  | _ => failure

/-- Reads the entry under a key, or takes another value if there is none. -/
def entryOr {α : Type} (record : List (String × Node)) (key : String) (other : α)
    (read : Node → Following α) : Following α := do
  match ← entry record key with
  | some value => read value
  | none => return other

/-- Reads the entry under a key that has to be there. -/
def entryOf {α : Type} (record : List (String × Node)) (key : String)
    (read : Node → Following α) : Following α := do
  match ← entry record key with
  | some value => read value
  | none => failure

variable (anchors : List (Nat × Node))

/-! ### Scalars -/

/-- A mode by name. It may also be given as a tag with nothing behind it. -/
def readMode (n : Node) : Following Mode := do
  let name ← match ← n.follow anchors with
    | .scalar text style (some tag) =>
        if Yaml.isLocalTag tag then
          if style = .plain ∧ (text.isEmpty ∨ Yaml.isNull text) then
            pure (String.ofList (tag.toList.drop 1))
          else failure
        else pure text
    | .scalar text _ none => pure text
    | _ => failure
  (Mode.ofName? name).elim failure pure

def readNatural (n : Node) : Following Nat := do
  match ← n.follow anchors with
  | .scalar text style tag =>
      if style = .plain ∨ (style = .literal ∧ tag = some (Yaml.coreTag "int")) then
        match Yaml.natural? text.toList with
        | some n => if n < Yaml.maxNatural then return n else failure
        | none => failure
      else failure
  | _ => failure

/-! ### Stages -/

/-- The depth to which collections may be nested. -/
def maxDepth : Nat := 128

/-- The meaning of a key of a stage. The two keys may also be given by number. -/
def stageKey? : Value → Option (Option String)
  | .text s => some (some s)
  | .natural 0 => some (some "program")
  | .natural 1 => some (some "args")
  | .natural _ => some none
  | _ => none

def textValue? : Value → Option String
  | .text s => some s
  | _ => none

def textValues? : Value → Option (List String)
  | .sequence items => items.mapM textValue?
  | _ => none

/-- A stage is a program, or a record of a program and its arguments. Other than elsewhere
the texts must not look like other values. -/
def stageOfValue : Value → Following Stage
  | .text program => return { program := .ofString program }
  | .mapping entries => do
      let record ← entries.filterMapM fun (key, value) =>
        match stageKey? key with
        | some name => return name.map (·, value)
        | none => failure
      let program ← ((← entry record "program").bind textValue?).elim failure pure
      let args ← match ← entry record "args" with
        | some args => (textValues? args).elim failure pure
        | none => pure []
      return ⟨.ofString program, args.map Bytes.ofString⟩
  | _ => failure

def readStage (n : Node) : Following Stage := do
  stageOfValue (← n.value anchors (maxDepth - 2))

/-! ### Records -/

def readVariant (n : Node) : Following Variant := do
  let record ← n.asRecord anchors
  return { label := ← entryOf record "label" (Node.asText anchors)
           lexer := ← entryOf record "lexer" (readStage anchors)
           parser := ← entryOf record "parser" (readStage anchors) }

def readCorpus (n : Node) : Following Corpus := do
  let record ← n.asRecord anchors
  let default := Corpus.conventional
  return { general := ← entryOr record "general" default.general (Node.asPath anchors)
           lexer := ← entryOr record "lexer" default.lexer (Node.asPath anchors)
           parser := ← entryOr record "parser" default.parser (Node.asPath anchors)
           extension := ← entryOr record "extension" default.extension (Node.asText anchors) }

def readArgs (n : Node) : Following (List Bytes) := do
  (← n.asItems anchors).mapM fun item => do return Bytes.ofString (← item.asText anchors)

def readBuild (n : Node) : Following Build := do
  let record ← n.asRecord anchors
  return { program := ← entryOf record "program" (Node.asPath anchors)
           args := ← entryOr record "args" [] (readArgs anchors)
           dir := ← entryOr record "dir" Build.conventionalDir (Node.asPath anchors) }

/-- A build step, or null for none. -/
def readOptionalBuild (n : Node) : Following (Option Build) := do
  let n ← n.follow anchors
  match n with
  | .scalar text .plain tag =>
      if tag = some (Yaml.coreTag "null") then
        if Yaml.isNull text then return none else failure
      else if tag.isNone ∧ (text.isEmpty ∨ Yaml.isNull text) then return none
      else return some (← readBuild anchors n)
  | _ => return some (← readBuild anchors n)

def readConfig (n : Node) : Following Config := do
  let record ← n.asRecord anchors
  let default := Config.conventional
  return { mode := ← entryOr record "mode" default.mode (readMode anchors)
           scratchDir := ← entryOr record "scratch_dir" default.scratchDir (Node.asPath anchors)
           corpus := ← entryOr record "corpus" default.corpus (readCorpus anchors)
           build := ← entryOr record "build" default.build (readOptionalBuild anchors)
           candidate := ← entryOr record "candidate" default.candidate (readVariant anchors)
           reference := ← entryOr record "reference" default.reference (readVariant anchors)
           contextLines := ← entryOr record "context_lines" default.contextLines (readNatural anchors) }

/-! ### Documents -/

/-- How many aliases may be followed for each step of a walk through the document. -/
def aliasesPerStep : Nat := 100

def ofDocument? (d : Document) : Option Config :=
  match d.root with
  | none => some .conventional
  | some root => (readConfig d.anchors root).run' (aliasesPerStep * d.size)

def ofYaml? (text : String) : Option Config :=
  if (Blank.trim text.toList).isEmpty then some .conventional
  else (Document.ofText text).toOption.bind ofDocument?

/-- Reads a configuration; `source` is the file it comes from, if it is one. -/
def parse (source : Option Path) (text : String) : Except Fault Config :=
  match ofYaml? text with
  | some c => .ok c
  | none => .error (.config (.invalid source))

end Config

end TwinRun
