import TwinRun.Text.Letters

/-!
Names in quotation marks.

A name in a message is shown so that a shell would read it again as the same name: between
apostrophes, and only where it is needed, or in any case. Other texts are put between apostrophes
with backslashes in them.
-/

namespace TwinRun.Letters

def isShown (c : Char) : Bool := ' ' ≤ c && c ≤ '~'

def octalEscape (c : Char) : Letters := '\\' :: (Nat.toDigits 8 (512 + c.toNat)).drop 1

def hiddenEscape (c : Char) : Letters :=
  match ['\x07', '\x08', '\x0c', '\n', '\r', '\t', '\x0b'].idxOf? c with
  | some k => ['\\', "abfnrtv".toList.getD k c]
  | none => octalEscape c

/-- A text between apostrophes, with backslashes in front of what needs them. -/
def quoted (t : Letters) : Letters :=
  '\'' :: t.flatMap (fun c =>
    if c = '\'' ∨ c = '\\' then ['\\', c] else if isShown c then [c] else hiddenEscape c) ++ ['\'']

/-- Letters that a shell might read in some other way. -/
def isPeculiar (c : Char) : Bool := " !\"$&'()*;<=>?[\\^\x60|".toList.contains c

/-- Whether a letter is the same between quotation marks of either kind. -/
def isAlike (first : Bool) (c : Char) : Bool :=
  isShown c && ((!isPeculiar c && !"#~\x7b\x7d".toList.contains c) || c == ' ' || c == '\'' ||
    (first && (c == '#' || c == '~')))

/-- A name as a shell reads it. The flag tells whether the text is inside `$'…'`. -/
def shellLetters : (hidden : Bool) → Letters → Letters
  | _, [] => []
  | _, '\'' :: rest => "'\\''".toList ++ shellLetters false rest
  | hidden, c :: rest =>
      if isShown c then (if hidden then ['\'', '\''] else []) ++ c :: shellLetters false rest
      else (if hidden then [] else "'$'".toList) ++ hiddenEscape c ++ shellLetters true rest

/-- A name in quotation marks, as a shell reads it. -/
def quotedName (t : Letters) : Letters :=
  if t.contains '\'' && t.zipIdx.all fun (c, k) => isAlike (k = 0) c then '"' :: t ++ ['"']
  else '\'' :: shellLetters false t ++ ['\'']

/-- Whether a word cannot stand as it is. -/
def needsQuotes (t : Letters) : Bool :=
  t.isEmpty || t = ['\x7b'] || t = ['\x7d'] || t.head? = some '#' || t.head? = some '~' ||
    t.any fun c => !isShown c || isPeculiar c

/-- A word, in quotation marks where it needs them. -/
def shownWord (t : Letters) : Letters := if needsQuotes t then quotedName t else t

/-- A name in front of a colon, in quotation marks where it needs them. -/
def shownName (t : Letters) : Letters := if t.contains ':' then quotedName t else shownWord t

end TwinRun.Letters
