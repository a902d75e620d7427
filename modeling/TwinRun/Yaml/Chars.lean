/-!
The characters of YAML.

A document may hold printable characters, tabs and line breaks. Indicators have a
meaning of their own; blanks and breaks separate.
-/

namespace TwinRun.Yaml

/-- The mark that may stand in front of a line. -/
def byteOrderMark : Char := '\uFEFF'

/-- Whether a character may occur in a document. -/
def isPrintable (c : Char) : Bool :=
  c == '\t' || c == '\n' || c == '\r' || (' ' ≤ c && c ≤ '~') || c == '\u0085'
    || ('\u00A0' ≤ c && c ≤ '\uFFFD') || c.toNat ≥ 0x10000

/-- One spelling for line breaks: a carriage return, with or without a line feed behind it,
and a next-line character become a line feed. The line and the paragraph separator stay. -/
def unifyBreaks : List Char → List Char
  | [] => []
  | '\r' :: '\n' :: rest => '\n' :: unifyBreaks rest
  | c :: rest => (if c == '\r' || c == '\u0085' then '\n' else c) :: unifyBreaks rest

/-- The breaks left by `unifyBreaks`. -/
def isBreak (c : Char) : Bool := c == '\n' || c == '\u2028' || c == '\u2029'

def isBlank (c : Char) : Bool := c == ' ' || c == '\t'

/-- Whether the next character is a blank, a break or the end. -/
def blankOrEnd : List Char → Bool
  | [] => true
  | c :: _ => isBlank c || isBreak c

/-- Whether the next character is a break or the end. -/
def breakOrEnd : List Char → Bool
  | [] => true
  | c :: _ => isBreak c

/-- Letters, digits, dash and underscore: the characters of names. -/
def isWord (c : Char) : Bool := c.isAlphanum || c == '_' || c == '-'

/-- Characters that end a plain scalar inside a flow collection. -/
def isFlowIndicator (c : Char) : Bool :=
  c == ',' || c == '[' || c == ']' || c == '{' || c == '}'

/-- Characters that cannot start a plain scalar, the dash, the question mark and the
colon under conditions. -/
def isIndicator (c : Char) : Bool :=
  "-?:,[]\x7b\x7d#&*!|>'\"%@`".toList.contains c

/-- Characters of a tag, those in percent notation aside. -/
def isTagChar (verbatim : Bool) (c : Char) : Bool :=
  isWord c || ";/?:@&=+$.!~*'()%".toList.contains c || (verbatim && ",[]".toList.contains c)

/-- Whether a line starts with `---` or `...` on its own. -/
def isDocumentMark (cs : List Char) : Bool :=
  match cs with
  | '-' :: '-' :: '-' :: rest => blankOrEnd rest
  | '.' :: '.' :: '.' :: rest => blankOrEnd rest
  | _ => false

end TwinRun.Yaml
