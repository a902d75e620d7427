import Mathlib.Tactic.MkIffOfInductiveProp
import TwinRun.Proofs.Yaml.Tree

/-!
What a document says about a configuration.

* `Given`, `GivenOr`: what stands under a key, and what holds where nothing stands there.
* `Config.Described`, `Corpus.Described`, `Build.Described`, `Variant.Described`, `Stage.Described`:
  what a tree describes, key by key.
-/

namespace TwinRun

open Yaml (Node IsValue)

/-! ### Keys -/

section Keys

variable {α : Type}

/-- Something stands under a key and means `a`. -/
def Given (t : Node) (key : String) (means : Node → α → Prop) (a : α) : Prop :=
  ∃ v, t.valueAt? key = some v ∧ means v a

/-- What stands under a key means `a`. Where nothing stands, `a` is another value. -/
def GivenOr (t : Node) (key : String) (other : α) (means : Node → α → Prop) (a : α) : Prop :=
  Given t key means a ∨ t.valueAt? key = none ∧ a = other

theorem Given.isRecord {t : Node} {key : String} {means : Node → α → Prop} {a : α}
    (h : Given t key means a) : t.isRecord := by
  obtain ⟨v, hv, -⟩ := h
  cases t with
  | mapping => rfl
  | _ => cases hv

end Keys

/-! ### Descriptions -/

/-- The name of a mode. It may also be given as a tag with nothing behind it. -/
def Yaml.Node.modeName? : Node → Option String
  | .scalar text style (some tag) =>
      if Yaml.isLocalTag tag then
        if style = .plain ∧ (text.isEmpty ∨ Yaml.isNull text) then
          some (String.ofList (tag.toList.drop 1))
        else none
      else some text
  | .scalar text _ none => some text
  | _ => none

/-- Whether a node says how much is run. -/
def Yaml.Node.IsMode (t : Node) (m : Mode) : Prop :=
  ∃ name, t.modeName? = some name ∧ Mode.ofName? name = some m

def Yaml.Node.IsNatural (t : Node) (n : Nat) : Prop :=
  ∃ text style tag, t = .scalar text style tag ∧
    (style = .plain ∨ (style = .literal ∧ tag = some (Yaml.coreTag "int"))) ∧
    Yaml.natural? text.toList = some n ∧ n < Yaml.maxNatural

def Yaml.Node.isNull : Node → Bool
  | .scalar text .plain tag =>
      (tag = some (Yaml.coreTag "null") ∧ Yaml.isNull text)
        ∨ (tag = none ∧ (text = "" ∨ Yaml.isNull text))
  | _ => false

def Yaml.Node.IsArguments (t : Node) (args : List Bytes) : Prop :=
  ∃ items, t.items? = some items ∧
    List.Forall₂ (fun item arg => ∃ s, item.text? = some s ∧ arg = Bytes.ofString s) items args

def Yaml.Node.IsProgram (t : Node) (p : Path) : Prop := ∃ s, t.string? = some s ∧ p = .ofString s

def Yaml.Node.IsStrings (t : Node) (args : List Bytes) : Prop :=
  ∃ items tag, t = .sequence items tag ∧
    List.Forall₂ (fun item arg => ∃ s, item.string? = some s ∧ arg = Bytes.ofString s) items args

/-- A stage is a program, or a record of a program and its arguments, if it has any. -/
inductive Stage.Described (t : Node) : Stage → Prop
  | program {p : Path} (h : t.IsProgram p) : Described t { program := p }
  | command {s : Stage} (hvalue : ∃ v, IsValue (Config.maxDepth - 2) t v)
      (hprogram : Given t "program" Node.IsProgram s.program)
      (hargs : GivenOr t "args" [] Node.IsStrings s.args) : Described t s

@[mk_iff]
structure Variant.Described (t : Node) (v : Variant) : Prop where
  label : Given t "label" (fun t s => t.text? = some s) v.label
  lexer : Given t "lexer" Stage.Described v.lexer
  parser : Given t "parser" Stage.Described v.parser

/-- A build step has a program. Its arguments and its directory may be left out. -/
@[mk_iff]
structure Build.Described (t : Node) (b : Build) : Prop where
  program : Given t "program" Node.IsPath b.program
  args : GivenOr t "args" [] Node.IsArguments b.args
  dir : GivenOr t "dir" (.ofString "src") Node.IsPath b.dir

/-- Each place where cases are found may be left out, and so may their extension. -/
@[mk_iff]
structure Corpus.Described (t : Node) (c : Corpus) : Prop where
  isRecord : t.isRecord
  general : GivenOr t "general" (.ofString "cases") Node.IsPath c.general
  lexer : GivenOr t "lexer" (.ofString "lexer_cases") Node.IsPath c.lexer
  parser : GivenOr t "parser" (.ofString "parser_cases") Node.IsPath c.parser
  extension : GivenOr t "extension" "cl" (fun t s => t.text? = some s) c.extension

/-- A build step, or null for none. -/
def Build.OptionDescribed (t : Node) (found : Option Build) : Prop :=
  if t.isNull then found = none else ∃ b, Build.Described t b ∧ found = some b

/-- Every part of a configuration may be left out and is then the conventional one. -/
@[mk_iff]
structure Config.Described (t : Node) (c : Config) : Prop where
  isRecord : t.isRecord
  mode : GivenOr t "mode" .parser Node.IsMode c.mode
  scratchDir : GivenOr t "scratch_dir" (.ofString "temp") Node.IsPath c.scratchDir
  corpus : GivenOr t "corpus" Corpus.conventional Corpus.Described c.corpus
  build : GivenOr t "build" (some Build.conventional) Build.OptionDescribed c.build
  candidate : GivenOr t "candidate" .conventionalCandidate Variant.Described c.candidate
  reference : GivenOr t "reference" .conventionalReference Variant.Described c.reference
  contextLines : GivenOr t "context_lines" 3 Node.IsNatural c.contextLines

/-- Without entries a stage can only be a program. -/
theorem Stage.described_iff_of_nil {t : Node} (h : t.entries = []) {s : Stage} :
    Stage.Described t s ↔ ∃ p, t.string? = some p ∧ s = { program := .ofString p } := by
  constructor
  · rintro (⟨p, hp, rfl⟩ | ⟨_, ⟨v, hv, _⟩, _⟩)
    · exact ⟨p, hp, rfl⟩
    · simp [Node.valueAt?, h] at hv
  · rintro ⟨p, hp, rfl⟩
    exact .program ⟨p, hp, rfl⟩

end TwinRun
