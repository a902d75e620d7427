import TwinRun.Tool.Basic
import TwinRun.Tool.Sed.Editor
import TwinRun.Tool.Sed.Reader

/-!
The stream editor as a tool.
-/

namespace TwinRun.Tool

namespace Sed

def spec : OptionSpec where
  flags := "nErsuz"
  valued := "efl"
  long := [⟨"quiet", 'n', none⟩, ⟨"silent", 'n', none⟩, ⟨"expression", 'e', some true⟩,
    ⟨"file", 'f', some true⟩, ⟨"in-place", 'i', some false⟩, ⟨"line-length", 'l', some true⟩,
    ⟨"regexp-extended", 'E', none⟩, ⟨"separate", 's', none⟩, ⟨"null-data", 'z', none⟩,
    ⟨"unbuffered", 'u', none⟩, ⟨"posix", '%', none⟩]

/-- An option for editing in place takes what is behind it in its argument as the end of the name
of a copy; written out, it can be told from others. -/
def spellOut : List Letters → List Letters
  | [] => []
  | ['-', '-'] :: rest => ['-', '-'] :: rest
  | arg :: rest =>
      (match arg with
        | '-' :: c :: cs =>
            if c = '-' then [arg]
            else
              let before := (c :: cs).takeWhile fun d => "nErsuz".toList.contains d
              match (c :: cs).drop before.length with
              | 'i' :: ending =>
                  (if before.isEmpty then [] else ['-' :: before]) ++
                    [if ending.isEmpty then "--in-place".toList else "--in-place=".toList ++ ending]
              | _ => [arg]
        | _ => [arg]) ++ spellOut rest

/-- Shows how the editor is called, and ends. -/
def usage {α : Type} : Job α := do
  tell "Usage: sed [OPTION]... \x7bscript-only-if-no-other-script\x7d [input-file]...\n".toList
  stop 1

/-- A piece of a script, and how a problem in it is told. -/
structure Piece where
  text : Letters
  /-- The file it is from. -/
  file : Option Letters

/-- Tells what is wrong with a script, and ends. -/
def complainOf {α : Type} (piece : Piece) (number : Nat) (p : Problem) : Job α :=
  match piece.file with
  | none =>
      fail ("-e expression #".toList ++ Letters.ofNat number ++ ", char ".toList ++ Letters.ofNat p.place ++
        ": ".toList ++ p.message) 1
  | some name =>
      fail ("file ".toList ++ name ++ " line ".toList ++
        Letters.ofNat ((piece.text.take p.place).count '\n' + 1) ++ ": ".toList ++ p.message) 1

/-- The pieces of the script and the other operands. A text that is still open at the end of a
piece goes on in the next one. -/
def pieces (o : Options) : Job (List Piece × List Letters) := do
  let sources := o.given.filter fun g => g.1 = 'e' || g.1 = 'f'
  if sources.isEmpty then
    match o.operands with
    | script :: files => return ([⟨script, none⟩], files)
    | [] => usage
  let found ← sources.mapM fun (c, t) => do
    if c = 'e' then return (⟨t, none⟩ : Piece)
    match ← if t = ['-'] then readAll stdin else readFile t with
    | .ok content => return ⟨content, some t⟩
    | .error e => fail ("couldn't open file ".toList ++ bareMessage t e) 4
  let isOpen (p : Piece) : Bool := (p.text.reverse.takeWhile (· == '\\')).length % 2 = 1
  let joined := found.foldl (fun (done : List Piece) p =>
    match done with
    | last :: more => if isOpen last then { last with text := last.text ++ '\n' :: p.text } :: more else p :: done
    | [] => [p]) []
  return (joined.reverse, o.operands)

def compile (extended : Bool) (ps : List Piece) : Job (List Instruction × Bool) := do
  let (program, blocks, quiet) ← ps.zipIdx.foldlM (fun (program, blocks, quiet) (p, k) => do
    match readPiece extended (k = 0) blocks p.text with
    | .ok (is, s) => return (program ++ is, s.blocks, quiet || s.quiet)
    | .error problem => complainOf p (k + 1) problem) (([] : List Instruction), 0, false)
  if blocks > 0 then complainOf ⟨[], none⟩ 1 ⟨0, "unmatched `\x7b'".toList⟩
  let labels := program.filterMap fun i =>
    match i.action with
    | .label l => some l
    | _ => none
  match program.findSome? fun i => i.action.target?.filter (!labels.contains ·) with
  | some l => fail ("can't find label for jump to `".toList ++ l ++ ['\'']) 4
  | none => return (program, quiet)

/-- The lines of a text, with what ends them. -/
def linesOf (terminator : Char) (t : Letters) : List Letters :=
  if terminator = '\n' then Letters.lines t
  else
    let items := Letters.splitOn terminator t
    items.dropLast.map (· ++ [terminator]) ++ (items.getLast?.filter (!·.isEmpty)).toList

def deliver (targets : List (Letters × Handle)) (output : List (Option Letters × Letters)) : Job Unit := do
  for (d, t) in output.reverse do
    match d with
    | none => emit t
    | some name =>
        if name = "/dev/stderr".toList then tell t
        else match targets.lookup name with
        | some h =>
            modify fun r =>
              match r.kernel.write (.file h) t with
              | .ok kernel => { r with kernel }
              | .error _ => r
        | none => pure ()

/-- Opens a file that a script writes to. -/
def openTarget (name : Letters) : Job (Option (Letters × Handle)) := do
  if ["/dev/stdout", "/dev/stderr"].any (·.toList == name) then return none
  let r ← get
  match r.kernel.openPath r.process name .write with
  | .ok (kernel, .file h) =>
      set { r with kernel }
      return some (name, h)
  | .ok _ => return none
  | .error e => fail ("couldn't open file ".toList ++ bareMessage name e) 4

/-- What an input holds. Nothing, if it cannot be read. -/
def inputOf (operand : Letters) : Job (Option Letters) := do
  match ← if operand = ['-'] then readAll stdin else readFile operand with
  | .ok t => return some t
  | .error e =>
      if e = .isDirectory then fail ("read error on ".toList ++ bareMessage operand e) 4
      complain ("can't read ".toList ++ bareMessage operand e) 2
      return none

/-- What is to be done at the end of an editor's work. -/
def conclude (e : Editor) : Job Unit := do
  if e.lost then fail "-e expression #1, char 0: no previous regular expression".toList 1
  if e.code ≠ 0 then stop e.code

/-- The name of the copy of a file that is edited in place. -/
def copyName (ending name : Letters) : Letters :=
  if ending.contains '*' then ending.flatMap fun c => if c = '*' then name else [c]
  else name ++ ending

def editInPlace (ending : Letters) (targets : List (Letters × Handle)) (e : Editor) (name : Letters) :
    Job (Option Editor) := do
  match ← look fun fs d => fs.find d (pathOf name) true with
  | .error err =>
      complain ("can't read ".toList ++ bareMessage name err) 2
      return none
  | .ok (_, .file _ content executable) =>
      let text := Letters.ofBytes content
      let start := { e with
        number := 0, output := [], unended := []
        coming := (linesOf e.terminator text).map fun line => { line, file := name } }
      let done := runLines maxSteps false start
      let rest := (done.coming.map (·.line)).flatten
      let own := (done.output.filter (·.1.isNone)).reverse.flatMap (·.2)
      deliver targets (done.output.filter (·.1.isSome))
      if !done.lost then
        let _ ← change fun fs d => do
          let fs ← if ending.isEmpty then pure fs else fs.store d (pathOf (copyName ending name)) content
          let fs ← fs.removeFile d (pathOf name)
          let fs ← fs.store d (pathOf name) (Letters.bytes (own ++ rest))
          fs.setExecutable d (pathOf name) executable
      return some { done with coming := [] }
  | .ok _ => fail ("couldn't edit ".toList ++ name ++ ": not a regular file".toList) 4

end Sed

open Sed in
/-- Edits its input line by line. -/
def sed : Program := fun args => do
  let o ← match spec.read (spellOut args) with
    | .ok o => pure o
    | .error p =>
        warn p.message
        usage
  let (scripts, files) ← pieces o
  let (program, quiet) ← compile (o.has 'E' || o.has 'r') scripts
  let names := (program.filterMap (·.action.written?)).eraseDups
  let targets ← names.filterMapM openTarget
  let terminator := if o.has 'z' then '\x00' else '\n'
  let sources := (program.filterMap (·.action.read?)).eraseDups
  let contents ← sources.filterMapM fun name => do
    match ← if name = "/dev/stdin".toList then readAll stdin else readFile name with
    | .ok t => return some (name, t)
    | .error _ => return none
  let e : Editor :=
    { program, terminator, contents, coming := []
      quiet := quiet || o.has 'n'
      width := ((o.value? 'l').bind Letters.nat?).getD 70 }
  match o.value? 'i' with
  | some ending =>
      let _ ← files.foldlM (fun (e : Editor) name => do
        match ← editInPlace ending targets e name with
        | some e =>
            conclude e
            return { e with output := [] }
        | none => return e) e
  | none =>
      let operands := orInput files
      let inputs ← operands.filterMapM fun name => do
        return (← inputOf name).map fun t => (linesOf terminator t).map fun line => ({ line, file := name } : Coming)
      let e ← if o.has 's' then
          inputs.foldlM (fun (e : Editor) coming => do
            let e := runLines maxSteps false { e with coming, number := 0 }
            if e.lost || !e.coming.isEmpty then
              deliver targets e.output
              conclude e
              stop 0
            return e) e
        else pure (runLines maxSteps false { e with coming := inputs.flatten })
      deliver targets e.output
      if files.isEmpty then leaveInput (e.coming.map (·.line)).flatten
      conclude e

end TwinRun.Tool
