import TwinRun.Script.Arithmetic
import TwinRun.Script.Fields
import TwinRun.Script.Pattern
import TwinRun.Script.State

/-!
What words stand for.

A word is expanded to stretches, part by part. How a part is expanded depends on where the word
stands; that is its `Manner`. Fields are then made of the stretches, and fields with patterns
become the paths that fit. The output of a command is asked for by a parameter.
-/

namespace TwinRun.Script

structure Manner where
  /-- It becomes any number of fields. -/
  splits : Bool := false
  /-- A tilde at its start is a home directory. -/
  tilde : Bool := false
  /-- So is one behind an equals sign or a colon. -/
  assigns : Bool := false
  /-- The equals sign has been passed. -/
  assigned : Bool := false
  /-- It is the word of an expansion: its own letters can separate fields, too. -/
  inner : Bool := false
  /-- It is inside quotes. -/
  quoted : Bool := false
  deriving DecidableEq, Repr

namespace Manner

def field : Manner := { splits := true, tilde := true }

def value : Manner := { assigns := true }

/-- A word that is one field. -/
def single : Manner := { tilde := true }

def document : Manner := { quoted := true }

def splitting (m : Manner) (quoted : Bool) : Splitting := if m.quoted || quoted then .never else .atSeparators

end Manner

/-! ### Home directories -/

/-- The letters of a word from its start on that stand for themselves, and what is behind them. -/
def leadingLetters : Word → Letters × Word
  | .letter c :: rest =>
      let (t, after) := leadingLetters rest
      (c :: t, after)
  | w => ([], w)

def homeName : Letters := "HOME".toList

def homeOf? (user : Letters) : Option Letters :=
  if user = "root".toList then some "/root".toList else none

/-- The home directory at the start of a word, behind its tilde, and the rest of the word. -/
def home? (s : Core) (assigns : Bool) (w : Word) : Option (Letters × Word) :=
  let (t, after) := leadingLetters w
  let user := t.takeWhile fun c => c != '/' && !(assigns && c == ':')
  if user.length = t.length && !after.isEmpty then none
  else
    let home := if user.isEmpty then s.value? homeName else homeOf? user
    match home with
    | some h => if h.isEmpty then none else some (h, w.drop user.length)
    | none => none

/-! ### Parameters -/

/-- The name of a parameter that stands for all arguments. -/
def isAll (name : Letters) : Bool := name = ['@'] || name = ['*']

/-- What stands between all arguments where they are put in together. -/
def Core.between (s : Core) (m : Manner) (quoted : Bool) (name : Letters) : Letters :=
  if quoted && m.splits && name = ['@'] then [border]
  else match s.value? separatorsName with
    | some (c :: _) => [c]
    | some [] => if m.splits && !quoted then [border] else []
    | none => [' ']

def Core.parameter? (s : Core) (m : Manner) (quoted : Bool) (name : Letters) : Option Letters :=
  match name with
  | ['$'] => some (Letters.ofNat s.root)
  | ['?'] => some (Letters.ofNat s.status)
  | ['#'] => some (Letters.ofNat s.args.length)
  | ['!'] => if s.lastJob = 0 then none else some (Letters.ofNat s.lastJob)
  | ['-'] => some s.shownOptions
  | ['@'] | ['*'] => some ((s.between m quoted name).intercalate s.args)
  | name =>
      if name.head?.any Char.isDigit then
        match Letters.valueIn 10 name with
        | 0 => some s.name
        | n + 1 => s.args[n]?
      else s.value? name

/-- Complains that a parameter has no value. -/
def missing {α : Type} (name message : Letters) : Sh α := fail (name ++ ": ".toList ++ message)

def unsetMessage : Letters := "parameter not set".toList

section

-- What a command writes, as it is.
variable (output : Command → Sh Letters)

def arithmetic (expression : Letters) : Sh Letters := do
  let s ← get
  let names : Arithmetic.Names :=
    { value? := s.value?
      locked := fun name => (s.lookup? name).any (·.locked)
      whole := expression }
  match Arithmetic.evaluate names with
  | .ok (n, assigned) =>
      for (name, value) in assigned.reverse do setVariable name (Letters.ofInt value.toInt)
      return Letters.ofInt n.toInt
  | .error problem => fail problem

def putIn (m : Manner) (quoted : Bool) (name : Letters) (gs : List Glyph) : Sh (List Stretch) := do
  if !quoted then return [⟨.atSeparators, gs⟩]
  if name = ['@'] && !(← get).args.isEmpty then return [⟨if m.splits then .atBorders else .never, gs⟩]
  return [⟨.never, gs⟩]

def withoutNewlines (t : Letters) : Letters := (t.reverse.dropWhile (· == '\n')).reverse

/-- A parameter with an operation. The word of the operation is expanded by `word`, and as a
text or a pattern of its own by `apart`. -/
def expandParameter (m : Manner) (quoted : Bool) (name : Letters) (operation : Operation) (colon isEmpty : Bool)
    (word apart : Sh (List Stretch)) : Sh (List Stretch) := do
  let s ← get
  let value := s.parameter? m quoted name
  let given := value.filter fun t => !(colon && t.isEmpty)
  let shown (t : Letters) : Sh (List Stretch) := putIn m quoted name (Glyph.ofLetters quoted t)
  let trimmed (trim : Pattern → Letters → Option (Nat × Nat)) : Sh (List Stretch) := do
    match value with
    | none => if s.options.contains 'u' then missing name unsetMessage else return []
    | some t =>
        let p := Pattern.ofLetters (Stretch.pattern (← apart))
        match trim p t with
        | some (start, stop) => shown ((t.take stop).drop start)
        | none => shown t
  match operation with
  | .invalid => fail "Bad substitution".toList
  | .value =>
      match value with
      | some t => shown t
      | none => if s.options.contains 'u' then missing name unsetMessage else return []
  | .length =>
      if value.isNone && s.options.contains 'u' then missing name unsetMessage
      shown (Letters.ofNat ((s.parameter? { m with splits := false } quoted name).getD []).length)
  | .orElse =>
      match given with
      | some t => shown t
      | none => word
  | .replace => if given.isSome then word else return []
  | .assign =>
      match given with
      | some t => shown t
      | none =>
          setVariable name (Stretch.text (← apart))
          shown (((← get).parameter? m quoted name).getD [])
  | .demand =>
      match given with
      | some t => shown t
      | none =>
          let message := Stretch.text (← apart)
          if isEmpty then missing name (unsetMessage ++ if colon then " or null".toList else [])
          else missing name message
  | .dropStart longest => trimmed fun p t => (p.fittingStart? longest t).map (·, t.length)
  | .dropEnd longest => trimmed fun p t => (p.fittingEnd? longest t).map (0, ·)

def ownLetters (m : Manner) (quotes : Bool) (gs : List Glyph) : List Stretch :=
  if gs.isEmpty then []
  else [⟨if m.inner && !m.quoted && !quotes then .atSeparators else .never, gs⟩]

/-- Whether letters of the word itself are never split. -/
def keepsOwn (m : Manner) (quotes : Bool) : Bool := !m.inner || m.quoted || quotes

/-- Whether a tilde behind this letter can be a home directory. -/
def opensHome (m : Manner) (c : Char) : Bool := m.assigns && (c == ':' || (c == '=' && !m.assigned))

/-- All arguments in quotes that hold nothing else, behind the first quotation mark, and the rest. -/
def allArguments? : Word → Option Word
  | .parameter ['@'] .value _ _ :: .quotes :: rest => some rest
  | _ => none

mutual

/-- Expands the parts of a word from some place on. `quotes`: between quotation marks of the
word. `own`: letters of the word, backwards, that have not become a stretch. `opens`: a tilde
here can be a home directory. -/
def expandParts : (fuel : Nat) → Manner → (quotes : Bool) → (own : List Glyph) → (opens : Bool) → Word →
    Sh (List Stretch)
  | 0, _, _, _, _, _ => throw overrun
  | _ + 1, m, quotes, own, _, [] => return ownLetters m quotes own.reverse
  | fuel + 1, m, quotes, own, opens, p :: rest => do
      let before := ownLetters m quotes own.reverse
      let after (ss : List Stretch) (rest : Word) : Sh (List Stretch) := do
        return before ++ ss ++ (← expandParts fuel m quotes [] false rest)
      match p with
      | .letter c =>
          let s ← get
          match if c = '~' && opens && !quotes then home? s.toCore m.assigns rest else none with
          | some (t, rest) => after [⟨.never, Glyph.ofLetters true t⟩] rest
          | none =>
              let m' := if c = '=' then { m with assigned := true } else m
              expandParts fuel m' quotes (.letter false c :: own) (opensHome m c) rest
      | .escaped c =>
          if keepsOwn m quotes then expandParts fuel m quotes (.letter true c :: own) false rest
          else after [⟨.never, [.letter true c]⟩] rest
      | .quotes =>
          match if quotes then none else allArguments? rest with
          | some rest =>
              let s ← get
              match s.args, s.parameter? m true ['@'] with
              | _ :: _, some t => after (← putIn m true ['@'] (Glyph.ofLetters true t)) rest
              | _, _ => after [] rest
          | none =>
              if keepsOwn m false then expandParts fuel m (!quotes) (.quotes :: own) false rest
              else return before ++ ⟨.never, [.quotes]⟩ :: (← expandParts fuel m (!quotes) [] false rest)
      | .parameter name operation colon word =>
          let quoted := m.quoted || quotes
          after (← expandParameter m quoted name operation colon word.isEmpty
            (expandWord fuel { m with tilde := true, inner := true, quoted } word)
            (expandWord fuel { tilde := true } word)) rest
      | .output c =>
          let quoted := m.quoted || quotes
          let t := withoutNewlines ((← output c).filter (· != border))
          after [⟨m.splitting quotes, Glyph.ofLetters quoted t⟩] rest
      | .arithmetic expression =>
          let quoted := m.quoted || quotes
          let t ← arithmetic (Stretch.text (← expandWord fuel {} expression))
          after [⟨m.splitting quotes, Glyph.ofLetters quoted t⟩] rest

def expandWord : (fuel : Nat) → Manner → Word → Sh (List Stretch)
  | 0, _, _ => throw overrun
  | fuel + 1, m, w => expandParts fuel m false [] m.tilde w

end

/-- More parts than a word has. -/
def maxParts : Nat := 1000000000000

def expandText (m : Manner) (w : Word) : Sh Letters := do
  return Stretch.text (← expandWord output maxParts m w)

def expandPattern (w : Word) : Sh Pattern := do
  return Pattern.ofLetters (Stretch.pattern (← expandWord output maxParts Manner.single w))

/-- The paths that a field stands for, or the field itself. -/
def expandPaths (gs : List Glyph) : Sh (List Letters) := do
  let s ← get
  if s.options.contains 'f' then return [Glyph.text gs]
  let found := Pattern.paths s.kernel.files s.process.directory (Glyph.pattern gs)
  return if found.isEmpty then [Glyph.text gs] else found

def expandFields (w : Word) : Sh (List Letters) := do
  let ss ← expandWord output maxParts Manner.field w
  let fields := split (← get).separators none ss
  return (← fields.mapM expandPaths).flatten

end

end TwinRun.Script
