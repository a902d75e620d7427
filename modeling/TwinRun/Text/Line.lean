import TwinRun.Bytes

/-!
Lines of a byte string.

A line is what stands before a line feed, or what is left after the last one. The
flag `terminated` says which, so that cutting into lines (`Line.split`) loses nothing:
`Line.join` is its inverse.
-/

namespace TwinRun

/-- One line, without its line feed. -/
structure Line where
  text : Bytes
  /-- Whether a line feed follows; only the last line may lack one. -/
  terminated : Bool
  deriving DecidableEq, Repr, Hashable

namespace Line

/-- The lines of a byte string, from the end backwards: a line feed opens a new line, any
other byte joins the line after it. -/
def split (data : Bytes) : List Line :=
  data.foldr (fun b lines =>
    if b = Bytes.newline then ⟨[], true⟩ :: lines
    else match lines with
      | [] => [⟨[b], false⟩]
      | line :: rest => { line with text := b :: line.text } :: rest) []

/-- The bytes of one line, with its line feed if it has one. -/
def bytes (line : Line) : Bytes :=
  if line.terminated then line.text ++ [Bytes.newline] else line.text

def join (lines : List Line) : Bytes := lines.flatMap bytes

theorem split_nil : split [] = [] := rfl

theorem split_cons (b : UInt8) (data : Bytes) :
    split (b :: data) =
      if b = Bytes.newline then ⟨[], true⟩ :: split data
      else match split data with
        | [] => [⟨[b], false⟩]
        | line :: rest => { line with text := b :: line.text } :: rest := rfl

/-- Joining the lines gives the byte string back. -/
theorem join_split (data : Bytes) : join (split data) = data := by
  induction data with
  | nil => rfl
  | cons b data ih =>
      rw [split_cons]
      split
      · next isNewline =>
          calc join (⟨[], true⟩ :: split data)
              = Bytes.newline :: join (split data) := rfl
            _ = b :: data := by rw [ih, isNewline]
      · cases lines : split data with
        | nil =>
            rw [lines] at ih
            simp only [join, List.flatMap_nil] at ih
            subst ih
            rfl
        | cons line rest =>
            rw [lines] at ih
            simp only [join, List.flatMap_cons] at ih ⊢
            rw [← ih]
            cases terminated : line.terminated <;> simp [bytes, terminated]

end Line

end TwinRun
