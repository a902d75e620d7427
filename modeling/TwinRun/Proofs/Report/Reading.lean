import Mathlib.Data.List.Basic
import TwinRun.Comparison
import TwinRun.Proofs.Text.Decimal
import TwinRun.Report.Sink

/-!
Reading single lines of a report.

A line of a report is read knowing only whether it stands inside a hunk, so that a removed line that
looks like a separator is still read as a removed line. `ReportLine.read?_text`: the shown form of a
line is read back.
-/

namespace TwinRun

/-- What a line of a report says. -/
inductive ReportLine where
  | separator (name : String)
  | reference (label : String)
  | candidate (label : String)
  | header (oldStart oldLength newStart newLength : Nat)
  | body (kind : LineKind) (text : String)
  | note
  deriving DecidableEq, Repr

/-! ### Numbers and ranges -/

namespace ReportLine

/-- Reads the digits at the start as a number, and gives what comes after them. -/
def readNumber? (cs : List Char) : Option (Nat × List Char) :=
  (Decimal.read? (cs.takeWhile Char.isDigit)).map (·, cs.dropWhile Char.isDigit)

/-- Reads a range at the start. Without a length it is one line long. -/
def readRange? (cs : List Char) : Option ((Nat × Nat) × List Char) :=
  match readNumber? cs with
  | some (start, ',' :: cs) => (readNumber? cs).map fun (length, cs) => ((start, length), cs)
  | some (start, cs) => some ((start, 1), cs)
  | none => none

theorem readNumber?_digits (n : Nat) {c : Char} (hc : c.isDigit = false) (rest : List Char) :
    readNumber? (Decimal.digits n ++ c :: rest) = some (n, c :: rest) := by
  have hdigits : ∀ d ∈ Decimal.digits n, d.isDigit = true := fun d hd =>
    Decimal.isDigit_of_mem_digits hd
  rw [readNumber?, List.takeWhile_append_of_pos hdigits, List.dropWhile_append_of_pos hdigits,
    List.takeWhile_cons_of_neg (by simp [hc]), List.dropWhile_cons_of_neg (by simp [hc]),
    List.append_nil, Decimal.read?_digits]
  rfl

theorem readRange?_range (start length : Nat) (rest : List Char) :
    readRange? ((Hunk.range start length).toList ++ ' ' :: rest)
      = some ((start, length), ' ' :: rest) := by
  by_cases h : length = 1
  · rw [Hunk.range, if_pos h, Decimal.text, String.toList_ofList, readRange?,
      readNumber?_digits start (by decide), h]
    rfl
  · have hrange : (Hunk.range start length).toList
        = Decimal.digits start ++ ',' :: Decimal.digits length := by
      simp [Hunk.range, h, Decimal.text]
    rw [hrange, List.append_assoc, readRange?, List.cons_append,
      readNumber?_digits start (by decide)]
    simp only [readNumber?_digits length (c := ' ') (by decide)]
    rfl

/-- A range holds nothing but digits and commas. -/
theorem isDigit_or_comma_of_mem_range {start length : Nat} {c : Char}
    (h : c ∈ (Hunk.range start length).toList) : c.isDigit = true ∨ c = ',' := by
  rw [Hunk.range] at h
  split at h
  · rw [Decimal.text, String.toList_ofList] at h
    exact .inl (Decimal.isDigit_of_mem_digits h)
  · simp only [Decimal.text, String.toList_append, String.toList_ofList, List.mem_append] at h
    rcases h with (hstart | hcomma) | hlength
    · exact .inl (Decimal.isDigit_of_mem_digits hstart)
    · exact .inr (List.mem_singleton.mp hcomma)
    · exact .inl (Decimal.isDigit_of_mem_digits hlength)

/-! ### Lines -/

def kindOfMark? : Char → Option LineKind
  | ' ' => some .context
  | '-' => some .removed
  | '+' => some .added
  | _ => none

def readBody? : List Char → Option ReportLine
  | [] => none
  | mark :: text => (kindOfMark? mark).map (.body · (String.ofList text))

def readHeader? (line : List Char) : Option ReportLine := do
  let line ← ['@', '@', ' ', '-'].isPrefixOf? line
  let ((oldStart, oldLength), line) ← readRange? line
  let line ← [' ', '+'].isPrefixOf? line
  let ((newStart, newLength), line) ← readRange? line
  if line = [' ', '@', '@'] then some (.header oldStart oldLength newStart newLength) else none

def readSeparator? (line : List Char) : Option ReportLine := do
  let line ← ['-', '-', '-', '-', '-'].isPrefixOf? line
  let name ← ['-', '-', '-', '-', '-'].isSuffixOf? line
  some (.separator (String.ofList name))

def readLabel? (line : List Char) : Option ReportLine :=
  ((['-', '-', '-', ' '].isPrefixOf? line).map fun label => .reference (String.ofList label)).or
    ((['+', '+', '+', ' '].isPrefixOf? line).map fun label => .candidate (String.ofList label))

def read? (inHunk : Bool) (line : List Char) : Option ReportLine :=
  if line = missingNewlineNote.toList then some .note
  else if inHunk then readBody? line
  else (readSeparator? line).or ((readLabel? line).or (readHeader? line))

def text : ReportLine → String
  | separator name => separatorLine name
  | reference label => "--- " ++ label
  | candidate label => "+++ " ++ label
  | header oldStart oldLength newStart newLength =>
      Hunk.header ⟨oldStart, oldLength, newStart, newLength, []⟩
  | body kind text => String.ofList (kind.mark :: text.toList)
  | note => missingNewlineNote

/-- Where a line may stand: a note anywhere, the lines of a hunk inside it, the others outside. -/
def MayStand (inHunk : Bool) : ReportLine → Prop
  | note => True
  | body _ _ => inHunk = true
  | _ => inHunk = false

theorem isPrefixOf?_append (start rest : List Char) :
    start.isPrefixOf? (start ++ rest) = some rest := by
  induction start with
  | nil => rfl
  | cons c start ih => simp [List.isPrefixOf?, ih]

theorem isSuffixOf?_append (name stop : List Char) :
    stop.isSuffixOf? (name ++ stop) = some name := by
  rw [List.isSuffixOf?, List.reverse_append, isPrefixOf?_append, Option.map_some,
    List.reverse_reverse]

theorem readHeader?_header (h : Hunk) :
    readHeader? h.header.toList
      = some (.header h.oldStart h.oldLength h.newStart h.newLength) := by
  have hheader : h.header.toList = ['@', '@', ' ', '-'] ++
      ((Hunk.range h.oldStart h.oldLength).toList ++ ' ' :: '+' ::
        ((Hunk.range h.newStart h.newLength).toList ++ [' ', '@', '@'])) := by
    simp [Hunk.header]
  have hplus : ∀ rest, [' ', '+'].isPrefixOf? (' ' :: '+' :: rest) = some rest :=
    isPrefixOf?_append [' ', '+']
  rw [hheader, readHeader?, isPrefixOf?_append]
  simp only [Option.bind_eq_bind, Option.bind_some, readRange?_range, hplus, if_true]

/-- Only a note starts like one. -/
theorem ne_note {line : List Char} (h : line.head? ≠ some '\\') :
    line ≠ missingNewlineNote.toList := by
  rintro rfl
  exact h (by decide)

/-- The shown form of a line is read back. -/
theorem read?_text {inHunk : Bool} {line : ReportLine} (h : line.MayStand inHunk) :
    read? inHunk line.text.toList = some line := by
  -- Which reader is tried depends on where the line stands; the earlier ones fail on its first
  -- characters.
  cases line with
  | separator name =>
      obtain rfl : inHunk = false := h
      have htext : (separator name).text.toList
          = ['-', '-', '-', '-', '-'] ++ (name.toList ++ ['-', '-', '-', '-', '-']) := by
        simp [text, separatorLine]
      rw [htext, read?, if_neg (ne_note (by simp)), readSeparator?, isPrefixOf?_append]
      simp [isSuffixOf?_append]
  | reference label =>
      obtain rfl : inHunk = false := h
      have htext : (reference label).text.toList = ['-', '-', '-', ' '] ++ label.toList := by
        simp [text]
      rw [htext, read?, if_neg (ne_note (by simp)), readLabel?, isPrefixOf?_append]
      simp [readSeparator?, List.isPrefixOf?]
  | candidate label =>
      obtain rfl : inHunk = false := h
      have htext : (candidate label).text.toList = ['+', '+', '+', ' '] ++ label.toList := by
        simp [text]
      rw [htext, read?, if_neg (ne_note (by simp)), readLabel?, isPrefixOf?_append]
      simp [readSeparator?, List.isPrefixOf?]
  | header oldStart oldLength newStart newLength =>
      obtain rfl : inHunk = false := h
      have hread := readHeader?_header ⟨oldStart, oldLength, newStart, newLength, []⟩
      obtain ⟨rest, hrest⟩ : ∃ rest, (header oldStart oldLength newStart newLength).text.toList
          = '@' :: rest := by simp [text, Hunk.header]
      rw [read?, hrest, if_neg (ne_note (by simp)), ← hrest, text, hread, ← text, hrest]
      simp [readSeparator?, readLabel?, List.isPrefixOf?]
  | body kind content =>
      obtain rfl : inHunk = true := h
      have htext : (body kind content).text.toList = kind.mark :: content.toList := by simp [text]
      rw [htext, read?, if_neg (ne_note (by cases kind <;> simp [LineKind.mark])), if_pos rfl,
        readBody?, String.ofList_toList]
      cases kind <;> rfl
  | note => exact if_pos rfl

end ReportLine

end TwinRun
