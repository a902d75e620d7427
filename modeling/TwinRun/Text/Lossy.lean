import TwinRun.Bytes

/-!
Reading arbitrary bytes as text.

Well-formed UTF-8 is read as it is. Each maximal ill-formed start of a sequence
becomes one replacement character, U+FFFD. The reader is a fold over the bytes: it
remembers the sequence it is inside of, if any, and which bytes may come next.
A line feed never continues a sequence, so a text may be cut at line feeds before
or after it is read.
-/

namespace TwinRun.Lossy

/-- Stands for bytes that are no text. -/
def replacement : Char := '\uFFFD'

/-- A sequence that has begun: the bits read so far, how many bytes are still to come
and the range the next one must lie in. -/
structure Pending where
  bits : Nat
  more : Nat
  low : UInt8
  high : UInt8
  deriving DecidableEq, Repr

/-- What a byte means where a character may start. -/
inductive Lead where
  | char (c : Char)
  | opening (sequence : Pending)
  | illFormed
  deriving DecidableEq, Repr

/-- The well-formed starts. The second byte of a sequence is restricted after `E0`, `ED`,
`F0` and `F4`, which rules out overlong forms, surrogates and values above U+10FFFF. -/
def Lead.ofByte (b : UInt8) : Lead :=
  if b < 0x80 then .char (Char.ofNat b.toNat)
  else if b < 0xC2 then .illFormed
  else if b < 0xE0 then .opening ⟨b.toNat - 0xC0, 1, 0x80, 0xBF⟩
  else if b = 0xE0 then .opening ⟨0x0, 2, 0xA0, 0xBF⟩
  else if b = 0xED then .opening ⟨0xD, 2, 0x80, 0x9F⟩
  else if b < 0xF0 then .opening ⟨b.toNat - 0xE0, 2, 0x80, 0xBF⟩
  else if b = 0xF0 then .opening ⟨0x0, 3, 0x90, 0xBF⟩
  else if b < 0xF4 then .opening ⟨b.toNat - 0xF0, 3, 0x80, 0xBF⟩
  else if b = 0xF4 then .opening ⟨0x4, 3, 0x80, 0x8F⟩
  else .illFormed

/-- The reader between two bytes: the characters read so far, last one first, and the open
sequence. -/
structure Reader where
  read : List Char
  pending : Option Pending
  deriving DecidableEq, Repr

/-- Reads a byte outside any sequence. -/
def Reader.start (read : List Char) (b : UInt8) : Reader :=
  match Lead.ofByte b with
  | .char c => ⟨c :: read, none⟩
  | .opening p => ⟨read, some p⟩
  | .illFormed => ⟨replacement :: read, none⟩

/-- Reads one byte. A byte that cannot continue the open sequence ends it as ill-formed and
is then read afresh. -/
def Reader.step (r : Reader) (b : UInt8) : Reader :=
  match r.pending with
  | none => .start r.read b
  | some p =>
      if p.low ≤ b ∧ b ≤ p.high then
        let bits := p.bits * 64 + b.toNat % 64
        if p.more ≤ 1 then ⟨Char.ofNat bits :: r.read, none⟩
        else ⟨r.read, some ⟨bits, p.more - 1, 0x80, 0xBF⟩⟩
      else .start (replacement :: r.read) b

/-- The characters read; a sequence still open is ill-formed. -/
def Reader.finish (r : Reader) : List Char :=
  match r.pending with
  | none => r.read.reverse
  | some _ => (replacement :: r.read).reverse

def chars (b : Bytes) : List Char := (b.foldl Reader.step ⟨[], none⟩).finish

end TwinRun.Lossy

namespace TwinRun

/-- The bytes as text, each maximal ill-formed start replaced by U+FFFD. -/
def Bytes.lossy (b : Bytes) : String := String.ofList (Lossy.chars b)

end TwinRun
