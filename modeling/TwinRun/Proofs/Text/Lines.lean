import TwinRun.Proofs.Text.Decoding
import TwinRun.Text.Line

/-!
Lines of bytes and lines of text.

* `Line.newline_not_mem_of_mem_split`: no line holds a line feed.
* `Line.pairwise_terminated`: no line but the last one lacks its line feed.
* `TextLine.join_split`: a text is put together again from its lines.
* `TextLine.split_lossy`: cutting into lines and reading as text may change places, for any bytes.
-/

namespace TwinRun

namespace Line

/-- Byte strings with the same lines are equal. -/
theorem split_injective : Function.Injective split := fun a b h => by
  rw [← join_split a, h, join_split]

/-- A byte string has no more lines than bytes. -/
theorem length_split_le (data : Bytes) : (split data).length ≤ data.length := by
  induction data with
  | nil => exact Nat.le_refl _
  | cons b data ih =>
      rw [split_cons, List.length_cons]
      split
      · rw [List.length_cons]
        omega
      · cases hlines : split data with
        | nil => simp
        | cons line rest =>
            rw [hlines, List.length_cons] at ih
            simp only [List.length_cons]
            omega

/-- What holds of a blank line and of one byte alone, and still holds with one more byte in front,
holds of every line. -/
theorem forall_mem_split {P : Line → Prop} (hblank : P ⟨[], true⟩)
    (hlast : ∀ b, b ≠ Bytes.newline → P ⟨[b], false⟩)
    (hcons : ∀ b line, b ≠ Bytes.newline → P line → P { line with text := b :: line.text })
    (data : Bytes) : ∀ line ∈ split data, P line := by
  induction data with
  | nil => exact List.forall_mem_nil P
  | cons b data ih =>
      rw [split_cons]
      split
      · exact List.forall_mem_cons.mpr ⟨hblank, ih⟩
      · next hb =>
          cases hlines : split data with
          | nil => exact List.forall_mem_singleton.mpr (hlast b hb)
          | cons line rest =>
              rw [hlines] at ih
              obtain ⟨hline, hrest⟩ := List.forall_mem_cons.mp ih
              exact List.forall_mem_cons.mpr ⟨hcons b line hb hline, hrest⟩

/-- No line holds a line feed. -/
theorem newline_not_mem_of_mem_split {data : Bytes} {line : Line} (h : line ∈ split data) :
    Bytes.newline ∉ line.text := by
  refine forall_mem_split (P := fun line => Bytes.newline ∉ line.text) List.not_mem_nil
    (fun b hb => ?_) (fun b line hb hline => ?_) data line h
  · exact List.not_mem_cons_of_ne_of_not_mem (Ne.symm hb) List.not_mem_nil
  · exact List.not_mem_cons_of_ne_of_not_mem (Ne.symm hb) hline

/-- A line with another one behind it has its line feed. -/
theorem pairwise_terminated (data : Bytes) :
    (split data).Pairwise fun line _ => line.terminated = true := by
  induction data with
  | nil => exact List.Pairwise.nil
  | cons b data ih =>
      rw [split_cons]
      split
      · exact List.pairwise_cons.mpr ⟨fun _ _ => rfl, ih⟩
      · cases hlines : split data with
        | nil => exact List.pairwise_singleton _ _
        | cons line rest =>
            rw [hlines, List.pairwise_cons] at ih
            exact List.pairwise_cons.mpr ih

/-- Bytes without a line feed join the first line of what follows them. -/
theorem split_append {w : Bytes} (hne : w ≠ []) (h : Bytes.newline ∉ w) (data : Bytes) :
    split (w ++ data) =
      match split data with
      | [] => [⟨w, false⟩]
      | line :: rest => { line with text := w ++ line.text } :: rest := by
  induction w with
  | nil => exact absurd rfl hne
  | cons b w ih =>
      obtain ⟨hb, hw⟩ := List.ne_and_not_mem_of_not_mem_cons h
      rw [List.cons_append, split_cons, if_neg (Ne.symm hb)]
      by_cases hnil : w = []
      · subst hnil
        rfl
      · rw [ih hnil hw]
        cases split data <;> rfl

/-- Bytes without a line feed are one line. -/
theorem split_of_newline_not_mem {w : Bytes} (hne : w ≠ []) (h : Bytes.newline ∉ w) :
    split w = [⟨w, false⟩] := by
  have hsplit := split_append hne h []
  rwa [List.append_nil] at hsplit

/-- The bytes before the first line feed are the first line. -/
theorem split_append_newline {w : Bytes} (h : Bytes.newline ∉ w) (data : Bytes) :
    split (w ++ Bytes.newline :: data) = ⟨w, true⟩ :: split data := by
  cases w with
  | nil => rw [List.nil_append, split_cons, if_pos rfl]
  | cons b w =>
      rw [split_append (List.cons_ne_nil b w) h, split_cons, if_pos rfl]
      exact congrArg (fun text => Line.mk text true :: split data) (List.append_nil (b :: w))

end Line

/-! ### Lines of text -/

/-- A line of a text, as a report shows it. -/
structure TextLine where
  text : String
  /-- The line is the last one and has no line feed. -/
  missingNewline : Bool
  deriving DecidableEq, Repr

namespace TextLine

def ofLine (line : Line) : TextLine := ⟨line.text.lossy, !line.terminated⟩

/-- The lines of a text, from the end backwards: a line feed opens a new line, any other
character joins the line after it. -/
def split (text : List Char) : List TextLine :=
  text.foldr (fun c lines =>
    if c = '\n' then ⟨"", false⟩ :: lines
    else match lines with
      | [] => [⟨String.ofList [c], true⟩]
      | line :: rest => { line with text := String.ofList (c :: line.text.toList) } :: rest) []

def chars (line : TextLine) : List Char :=
  if line.missingNewline then line.text.toList else line.text.toList ++ ['\n']

def join (lines : List TextLine) : String := String.ofList (lines.flatMap chars)

theorem split_cons (c : Char) (text : List Char) :
    split (c :: text) =
      if c = '\n' then ⟨"", false⟩ :: split text
      else match split text with
        | [] => [⟨String.ofList [c], true⟩]
        | line :: rest => { line with text := String.ofList (c :: line.text.toList) } :: rest := rfl

theorem flatMap_chars_split (text : List Char) : (split text).flatMap chars = text := by
  induction text with
  | nil => rfl
  | cons c text ih =>
      rw [split_cons]
      split
      · next hc => rw [List.flatMap_cons, ih, hc]; rfl
      · cases hlines : split text with
        | nil =>
            rw [hlines] at ih
            simp [chars, ← ih]
        | cons line rest =>
            rw [hlines, List.flatMap_cons] at ih
            rw [List.flatMap_cons, ← ih]
            cases hmissing : line.missingNewline <;> simp [chars, hmissing]

/-- Joining the lines of a text gives the text back. -/
theorem join_split (s : String) : join (split s.toList) = s := by
  rw [join, flatMap_chars_split, String.ofList_toList]

/-- A text before the first line feed is the first line. -/
theorem split_append_newline {w : List Char} (h : '\n' ∉ w) (text : List Char) :
    split (w ++ '\n' :: text) = ⟨String.ofList w, false⟩ :: split text := by
  induction w with
  | nil => rfl
  | cons c w ih =>
      obtain ⟨hc, hw⟩ := List.ne_and_not_mem_of_not_mem_cons h
      rw [List.cons_append, split_cons, if_neg (Ne.symm hc), ih hw]
      simp

/-- A text without a line feed is one line. -/
theorem split_of_newline_not_mem {w : List Char} (hne : w ≠ []) (h : '\n' ∉ w) :
    split w = [⟨String.ofList w, true⟩] := by
  induction w with
  | nil => exact absurd rfl hne
  | cons c w ih =>
      obtain ⟨hc, hw⟩ := List.ne_and_not_mem_of_not_mem_cons h
      rw [split_cons, if_neg (Ne.symm hc)]
      cases w with
      | nil => rfl
      | cons d w => simp [ih (List.cons_ne_nil d w) hw]

/-- Texts without line feeds, each written with one, are read back as they are. -/
theorem split_flatMap_newline {ws : List (List Char)} (h : ∀ w ∈ ws, '\n' ∉ w) :
    split (ws.flatMap (· ++ ['\n'])) = ws.map fun w => ⟨String.ofList w, false⟩ := by
  induction ws with
  | nil => rfl
  | cons w ws ih =>
      obtain ⟨hw, hws⟩ := List.forall_mem_cons.mp h
      rw [List.flatMap_cons, List.append_assoc, List.singleton_append, split_append_newline hw,
        ih hws, List.map_cons]

/-! ### Reading lines -/

/-- Beyond ASCII, all bytes of a character are beyond ASCII. -/
theorem le_toNat_of_mem_encode {c : Char} (hc : 0x80 ≤ c.toNat) :
    ∀ b ∈ String.utf8EncodeChar c, 0x80 ≤ b.toNat := by
  have hvalid : c.toNat < 0xD800 ∨ 0xDFFF < c.toNat ∧ c.toNat < 0x110000 := c.valid
  have hdef : c.val.toNat = c.toNat := rfl
  have hbyte : ∀ n < 256, 0x80 ≤ n → 0x80 ≤ (UInt8.ofNat n).toNat := fun n hn h => by
    rw [Lossy.toNat_ofNat hn]
    exact h
  unfold String.utf8EncodeChar
  simp only [hdef]
  generalize c.toNat = v at hc hvalid
  rw [if_neg (by omega)]
  split_ifs <;> simp only [List.forall_mem_cons]
  · exact ⟨hbyte _ (by omega) (by omega), hbyte _ (by omega) (by omega), List.forall_mem_nil _⟩
  · exact ⟨hbyte _ (by omega) (by omega), hbyte _ (by omega) (by omega),
      hbyte _ (by omega) (by omega), List.forall_mem_nil _⟩
  · exact ⟨hbyte _ (by omega) (by omega), hbyte _ (by omega) (by omega),
      hbyte _ (by omega) (by omega), hbyte _ (by omega) (by omega), List.forall_mem_nil _⟩

/-- No other character has the byte of an ASCII character. -/
theorem ascii_not_mem_encode {a : UInt8} (ha : Lossy.Ascii a) {c : Char}
    (hc : c ≠ Lossy.asciiChar a) : a ∉ String.utf8EncodeChar c := by
  intro hmem
  by_cases hascii : c.toNat < 0x80
  · have hencode : String.utf8EncodeChar c = [UInt8.ofNat c.toNat] :=
      if_pos (show c.toNat ≤ 0x7F by omega)
    rw [hencode, List.mem_singleton] at hmem
    refine hc ?_
    rw [hmem, Lossy.asciiChar, Lossy.toNat_ofNat (by omega), Char.ofNat_toNat]
  · exact absurd (le_toNat_of_mem_encode (Nat.le_of_not_lt hascii) _ hmem) (Nat.not_le.mpr ha.lt)

/-- A text without an ASCII character is written without its byte. -/
theorem ascii_not_mem_ofString {a : UInt8} (ha : Lossy.Ascii a) {s : String}
    (hs : Lossy.asciiChar a ∉ s.toList) : a ∉ Bytes.ofString s := by
  rw [Bytes.ofString_eq_flatMap, List.mem_flatMap]
  rintro ⟨c, hc, hmem⟩
  exact ascii_not_mem_encode ha (fun heq => hs (heq ▸ hc)) hmem

/-- It does not matter whether bytes are cut into lines before or after they are read as text. The
induction goes from line feed to line feed, as no sequence of bytes goes on behind one. -/
theorem split_lossy (data : Bytes) :
    split data.lossy.toList = (Line.split data).map ofLine := by
  rw [Bytes.lossy, String.toList_ofList]
  induction hlength : data.length using Nat.strongRecOn generalizing data with
  | _ length ih =>
      -- What stands before the first line feed is a line on either side; the rest is shorter.
      by_cases hmem : Bytes.newline ∈ data
      · obtain ⟨w, rest, rfl, hw⟩ := List.eq_append_cons_of_mem hmem
        have hshorter : rest.length < length := by
          rw [← hlength, List.length_append, List.length_cons]
          omega
        rw [Lossy.chars_append_ascii Lossy.ascii_newline hw, Line.split_append_newline hw,
          List.map_cons, ← ih rest.length hshorter rest rfl]
        exact split_append_newline (Lossy.ascii_not_mem_chars Lossy.ascii_newline hw) _
      · by_cases hnil : data = []
        · subst hnil
          rfl
        · rw [Line.split_of_newline_not_mem hnil hmem]
          exact split_of_newline_not_mem (Lossy.chars_ne_nil hnil)
            (Lossy.ascii_not_mem_chars Lossy.ascii_newline hmem)

/-- The lines of bytes, each read as text, are together the text of all of them. -/
theorem join_map_ofLine_split (data : Bytes) :
    join ((Line.split data).map ofLine) = data.lossy := by
  rw [← split_lossy, join_split]

/-- The lines of a text, written out and read again. -/
theorem map_ofLine_split (s : String) :
    (Line.split (Bytes.ofString s)).map ofLine = split s.toList := by
  rw [← split_lossy, Bytes.lossy, Lossy.chars_ofString, String.toList_ofList]

end TextLine

end TwinRun
