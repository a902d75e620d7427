/-!
Byte strings: what files, arguments and paths are made of.

A byte string need not be text. `Bytes.ofString` writes a text out as UTF-8 and
`Bytes.text?` reads one back when the bytes are well-formed.
-/

namespace TwinRun

abbrev Bytes := List UInt8

namespace Bytes

def ofString (s : String) : Bytes := s.toUTF8.data.toList

def ofChars (cs : List Char) : Bytes := ofString (String.ofList cs)

/-- The text these bytes spell, if they are well-formed UTF-8. -/
def text? (b : Bytes) : Option String := String.fromUTF8? ⟨b.toArray⟩

/-- The line feed, which ends a line. -/
def newline : UInt8 := 10

/-- The slash, which separates the components of a path. -/
def slash : UInt8 := 47

/-- The dot, which starts an extension. -/
def dot : UInt8 := 46

/-- Whether a byte is zero, which no name can hold. -/
def hasNul (b : Bytes) : Bool := b.any (· == 0)

/-- Lexicographic order by unsigned byte, a proper start before its continuations. -/
def le : Bytes → Bytes → Bool
  | [], _ => true
  | _ :: _, [] => false
  | a :: as, b :: bs => a < b || (a == b && le as bs)

/-- The items between separators: always one more than there are separators. -/
def splitOn (sep : UInt8) (b : Bytes) : List Bytes :=
  b.foldr (fun x pieces =>
    if x = sep then [] :: pieces
    else match pieces with
      | [] => [[x]]
      | piece :: rest => (x :: piece) :: rest) [[]]

/-- Whether `part` occurs somewhere in `whole`. -/
def contains (part : Bytes) : (whole : Bytes) → Bool
  | [] => part.isEmpty
  | b :: rest => part.isPrefixOf (b :: rest) || contains part rest

end Bytes

end TwinRun
