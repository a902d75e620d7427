import TwinRun.Proofs.Text.Lines

/-!
Cutting into lines is a bijection.

* `Line.IsSplit`: what the lines of a byte string look like. Only the last one may lack its line
  feed, and then it is not empty.
* `Line.isSplit_split`, `Line.split_join`: every byte string has such lines, and all such lines are
  those of a byte string.
* `TextLine.split_flatMap_encode`: the lines of a text that is written out are its lines, each
  written out.
* `Line.split_bijection`: so lines and byte strings stand for each other, and texts for lines that
  are texts.
-/

namespace TwinRun

/-! ### The lines of byte strings -/

namespace Line

/-- Lines as they are cut from a byte string. -/
structure IsSplit (lines : List Line) : Prop where
  /-- No line holds a line feed, -/
  newline_not_mem : ∀ line ∈ lines, Bytes.newline ∉ line.text
  /-- only the last one may lack the one behind it, -/
  terminated : ∀ line ∈ lines.dropLast, line.terminated = true
  /-- and a line without it is not empty. -/
  text_ne_nil : ∀ line ∈ lines, line.terminated = false → line.text ≠ []

/-- A line without its line feed is what is left after the last one, and if nothing is left there is
no such line. -/
theorem text_ne_nil_of_mem_split {data : Bytes} {line : Line} (h : line ∈ split data)
    (hterminated : line.terminated = false) : line.text ≠ [] := by
  refine forall_mem_split (P := fun line => line.terminated = false → line.text ≠ [])
    (fun hblank => ?_) (fun b _ _ => ?_) (fun b line _ _ _ => ?_) data line h hterminated
  · cases hblank
  · exact List.cons_ne_nil b []
  · exact List.cons_ne_nil b line.text

theorem terminated_of_mem_dropLast {data : Bytes} {line : Line}
    (h : line ∈ (split data).dropLast) : line.terminated = true := by
  have hne : split data ≠ [] := fun hnil => by
    rw [hnil] at h
    cases h
  have hpairwise := pairwise_terminated data
  rw [← List.dropLast_concat_getLast hne, List.pairwise_append] at hpairwise
  exact hpairwise.2.2 line h _ List.mem_cons_self

theorem isSplit_split (data : Bytes) : IsSplit (split data) where
  newline_not_mem _ h := newline_not_mem_of_mem_split h
  terminated _ h := terminated_of_mem_dropLast h
  text_ne_nil _ h := text_ne_nil_of_mem_split h

theorem IsSplit.tail {line : Line} {lines : List Line} (h : IsSplit (line :: lines)) :
    IsSplit lines where
  newline_not_mem line' h' := h.newline_not_mem line' (List.mem_cons_of_mem line h')
  terminated line' h' := by
    cases lines with
    | nil => cases h'
    | cons next lines => exact h.terminated line' (List.mem_cons_of_mem line h')
  text_ne_nil line' h' := h.text_ne_nil line' (List.mem_cons_of_mem line h')

/-- Only behind a line with its line feed may another one follow. -/
theorem IsSplit.eq_nil {line : Line} {lines : List Line} (h : IsSplit (line :: lines))
    (hterminated : line.terminated = false) : lines = [] := by
  cases lines with
  | nil => rfl
  | cons next lines =>
      have hline := h.terminated line List.mem_cons_self
      rw [hterminated] at hline
      cases hline

theorem join_cons (line : Line) (lines : List Line) :
    join (line :: lines) = line.bytes ++ join lines := List.flatMap_cons

/-- Lines as they are cut from a byte string are those of the byte string that they make up. -/
theorem split_join {lines : List Line} (h : IsSplit lines) : split (join lines) = lines := by
  induction lines with
  | nil => rfl
  | cons line lines ih =>
      have hnewline := h.newline_not_mem line List.mem_cons_self
      obtain ⟨text, terminated⟩ := line
      cases terminated with
      | true =>
          have hbytes : bytes ⟨text, true⟩ = text ++ [Bytes.newline] := rfl
          rw [join_cons, hbytes, List.append_assoc, List.singleton_append,
            split_append_newline hnewline, ih h.tail]
      | false =>
          obtain rfl := h.eq_nil rfl
          have htext := h.text_ne_nil _ List.mem_cons_self rfl
          have hjoin : join [⟨text, false⟩] = text := List.append_nil text
          rw [hjoin, split_of_newline_not_mem htext hnewline]

/-- Only such lines are cut again where they have been joined. -/
theorem isSplit_iff {lines : List Line} : IsSplit lines ↔ split (join lines) = lines :=
  ⟨split_join, fun h => h ▸ isSplit_split (join lines)⟩

end Line

/-! ### The lines of texts -/

theorem Bytes.text?_eq_some_iff {b : Bytes} {s : String} : b.text? = some s ↔ b = ofString s := by
  refine ⟨fun h => ?_, fun h => h ▸ text?_ofString s⟩
  unfold text? String.fromUTF8? at h
  split at h
  · rw [← Option.some.inj h]
    rfl
  · cases h

/-- Bytes are a text exactly if they are characters written out one after the other. -/
theorem Bytes.isSome_text?_iff {b : Bytes} :
    b.text?.isSome ↔ ∃ cs : List Char, b = cs.flatMap String.utf8EncodeChar := by
  rw [Option.isSome_iff_exists]
  constructor
  · rintro ⟨s, hs⟩
    refine ⟨s.toList, ?_⟩
    rw [← ofString_eq_flatMap]
    exact text?_eq_some_iff.mp hs
  · rintro ⟨cs, rfl⟩
    refine ⟨String.ofList cs, text?_eq_some_iff.mpr ?_⟩
    rw [ofString_eq_flatMap, String.toList_ofList]

namespace TextLine

def toLine (line : TextLine) : Line := ⟨Bytes.ofString line.text, !line.missingNewline⟩

theorem toLine_nil : toLine ⟨"", false⟩ = ⟨[], true⟩ := rfl

theorem encode_newline : String.utf8EncodeChar '\n' = [Bytes.newline] := by decide

/-- It does not matter whether a text is cut into lines before or after it is written out. No other
character has the byte of the line feed. -/
theorem split_flatMap_encode (cs : List Char) :
    Line.split (cs.flatMap String.utf8EncodeChar) = (split cs).map toLine := by
  induction cs with
  | nil => rfl
  | cons c cs ih =>
      rw [List.flatMap_cons, split_cons]
      by_cases hc : c = '\n'
      · rw [if_pos hc, hc, encode_newline, List.singleton_append, Line.split_cons, if_pos rfl, ih,
          List.map_cons, toLine_nil]
      · have hnewline : Bytes.newline ∉ String.utf8EncodeChar c :=
          ascii_not_mem_encode Lossy.ascii_newline hc
        rw [if_neg hc, Line.split_append (String.utf8EncodeChar_ne_nil) hnewline, ih]
        cases split cs <;> simp [toLine, Bytes.ofString_eq_flatMap]

end TextLine

namespace Line

/-- The lines of a text are texts. -/
theorem isSome_text?_of_mem_split {data : Bytes} {line : Line} (hdata : data.text?.isSome)
    (h : line ∈ split data) : line.text.text?.isSome := by
  obtain ⟨cs, rfl⟩ := Bytes.isSome_text?_iff.mp hdata
  rw [TextLine.split_flatMap_encode] at h
  obtain ⟨textLine, -, rfl⟩ := List.mem_map.mp h
  exact Bytes.isSome_text?_iff.mpr ⟨_, Bytes.ofString_eq_flatMap textLine.text⟩

/-- Lines that are texts make up a text. -/
theorem isSome_text?_join {lines : List Line} (h : ∀ line ∈ lines, line.text.text?.isSome) :
    (join lines).text?.isSome := by
  have hencoded : ∃ cs : List Char, join lines = cs.flatMap String.utf8EncodeChar := by
    induction lines with
    | nil => exact ⟨[], rfl⟩
    | cons line lines ih =>
        obtain ⟨hline, hlines⟩ := List.forall_mem_cons.mp h
        obtain ⟨cs, hcs⟩ := ih hlines
        obtain ⟨ds, hds⟩ := Bytes.isSome_text?_iff.mp hline
        rw [join_cons, bytes, hcs, hds]
        split
        · refine ⟨ds ++ '\n' :: cs, ?_⟩
          rw [List.flatMap_append, List.flatMap_cons, TextLine.encode_newline, List.append_assoc]
        · exact ⟨ds ++ cs, List.flatMap_append.symm⟩
  exact Bytes.isSome_text?_iff.mpr hencoded

/-- **Cutting into lines is a bijection** between the byte strings and the lists of lines in which no
line holds a line feed and only the last one, unless it is empty, may lack the one behind it: joining
the lines is its inverse. So two byte strings have the same lines only if they are equal, and a byte
string is a text exactly if all its lines are. -/
theorem split_bijection :
    (∀ data, IsSplit (split data) ∧ join (split data) = data) ∧
      (∀ lines, IsSplit lines ↔ split (join lines) = lines) ∧
      (∀ a b, split a = split b ↔ a = b) ∧
      ∀ data : Bytes, data.text?.isSome ↔ ∀ line ∈ split data, line.text.text?.isSome := by
  refine ⟨fun data => ⟨isSplit_split data, join_split data⟩, fun lines => isSplit_iff,
    fun a b => split_injective.eq_iff, fun data => ⟨fun hdata line => ?_, fun hlines => ?_⟩⟩
  · exact isSome_text?_of_mem_split hdata
  · rw [← join_split data]
    exact isSome_text?_join hlines

/-- A character of two bytes, two blank lines, one that looks blank, and a last line without its line
feed. -/
theorem split_bijection_blank :
    let data := Bytes.ofString "é\n\n\n\x0D\nb"
    let lines : List Line :=
      [⟨[0xC3, 0xA9], true⟩, ⟨[], true⟩, ⟨[], true⟩, ⟨[13], true⟩, ⟨[98], false⟩]
    split data = lines ∧ IsSplit lines ∧ join lines = data ∧
      ∀ line ∈ lines, line.text.text?.isSome := by
  intro data lines
  have hsplit : split data = lines := by decide
  obtain ⟨hwhole, -, -, htexts⟩ := split_bijection
  obtain ⟨hlines, hjoin⟩ := hwhole data
  have htext := (htexts data).mp (Bytes.isSome_text?_iff.mpr ⟨_, Bytes.ofString_eq_flatMap _⟩)
  rw [hsplit] at hlines hjoin htext
  exact ⟨hsplit, hlines, hjoin, htext⟩

end Line

end TwinRun
