import TwinRun.Diff.Align
import TwinRun.Proofs.Text.Cuts
import TwinRun.Proofs.Text.Decimal

/-!
Names for lines, and texts of names.

* `pieces_joinPieces`: cutting a text at its line feeds undoes joining pieces that hold none.
* `listedPieces_joinPieces_iff`: taken for a list, the text of one empty piece is none.
* `Numbering.names_spec`: after naming lines, each line has one name, and two lines share a name
  only if they are equal. Names given earlier stay.
* `name_numbering_inj`: so with both sides named, two lines of either share a name exactly if they
  are equal.
-/

namespace TwinRun.Align

/-! ### Pieces -/

theorem pieces_eq_splitOn (text : List Char) : pieces text = text.splitOn '\n' :=
  Cuts.foldr_eq_splitOn (fun _ _ _ => rfl) text

theorem joinPieces_eq_intercalate (l : List (List Char)) :
    joinPieces l = ['\n'].intercalate l := by
  induction l with
  | nil => rfl
  | cons piece l ih =>
      cases l with
      | nil => simp [joinPieces]
      | cons next l => simp [joinPieces, ih]

/-- Cutting undoes joining, as long as the pieces hold no line feeds. -/
theorem pieces_joinPieces {l : List (List Char)} (hne : l ≠ []) (h : ∀ piece ∈ l, '\n' ∉ piece) :
    pieces (joinPieces l) = l := by
  rw [pieces_eq_splitOn, joinPieces_eq_intercalate]
  exact List.splitOn_intercalate '\n' h hne

/-- A piece holds no line feed. -/
theorem newline_not_mem_of_mem_pieces {text piece : List Char} (h : piece ∈ pieces text) :
    '\n' ∉ piece :=
  Cuts.not_mem_of_mem_splitOn (pieces_eq_splitOn text ▸ h)

/-- Only the empty text is one empty piece. -/
theorem pieces_eq_singleton_nil {text : List Char} : pieces text = [[]] ↔ text = [] := by
  refine ⟨fun h => ?_, fun h => by rw [h]; rfl⟩
  have htext : ['\n'].intercalate (text.splitOn '\n') = text := List.intercalate_splitOn '\n'
  rw [← pieces_eq_splitOn, h] at htext
  exact htext.symm

/-- Taken for a list, a text is its pieces unless it is empty. -/
theorem listedPieces_eq_iff {text : List Char} : listedPieces text = pieces text ↔ text ≠ [] := by
  cases text with
  | nil => exact iff_of_false (by decide) (fun h => h rfl)
  | cons c text => exact iff_of_true rfl (List.cons_ne_nil c text)

theorem newline_not_mem_of_mem_listedPieces {text piece : List Char}
    (h : piece ∈ listedPieces text) : '\n' ∉ piece := by
  unfold listedPieces at h
  split at h
  · cases h
  · exact newline_not_mem_of_mem_pieces h

/-- The text of a list stands for the list, unless the list is one empty piece. -/
theorem listedPieces_joinPieces_iff {l : List (List Char)} (h : ∀ piece ∈ l, '\n' ∉ piece) :
    listedPieces (joinPieces l) = l ↔ l ≠ [[]] := by
  constructor
  · rintro hlisted rfl
    cases hlisted
  · intro hne
    cases l with
    | nil => rfl
    | cons piece l =>
        have hpieces := pieces_joinPieces (List.cons_ne_nil piece l) h
        have htext : joinPieces (piece :: l) ≠ [] := fun hnil =>
          hne (hpieces.symm.trans (pieces_eq_singleton_nil.mpr hnil))
        rw [listedPieces_eq_iff.mpr htext, hpieces]

/-- The text of a list of names stands for the list, the empty one included. -/
theorem listedPieces_joinPieces {l : List (List Char)} (hne : ∀ piece ∈ l, piece ≠ [])
    (h : ∀ piece ∈ l, '\n' ∉ piece) : listedPieces (joinPieces l) = l :=
  (listedPieces_joinPieces_iff h).mpr fun hl => hne [] (hl ▸ List.mem_cons_self) rfl

/-! ### Numbers -/

namespace Numbering

/-- Numbers are below the count of numbered lines, and no two lines share one. -/
structure Proper (numbers : Numbering) : Prop where
  bounded : ∀ {line : Line} {n : Nat}, numbers[line]? = some n → n < numbers.size
  injective : ∀ {line line' : Line} {n : Nat}, numbers[line]? = some n →
    numbers[line']? = some n → line = line'

/-- Whatever is numbered keeps its number. -/
def Extends (later earlier : Numbering) : Prop :=
  ∀ {line : Line} {n : Nat}, earlier[line]? = some n → later[line]? = some n

theorem proper_empty : Proper ∅ := ⟨by simp, by simp⟩

theorem Extends.refl (numbers : Numbering) : numbers.Extends numbers := fun h => h

theorem Extends.trans {a b c : Numbering} (h : c.Extends b) (h' : b.Extends a) : c.Extends a :=
  fun ha => h (h' ha)

/-- A line that has no number gets one that no other line has. -/
theorem Proper.insert {numbers : Numbering} (h : numbers.Proper) {line : Line}
    (hnew : numbers[line]? = none) :
    Proper (Std.HashMap.insert numbers line numbers.size) := by
  have hfree : line ∉ numbers := fun hmem => by
    rw [Std.HashMap.getElem?_eq_some_getElem hmem] at hnew
    cases hnew
  -- The new number is the count so far, so it is above all others, and the count grows by one.
  have hsize : (numbers.insert line numbers.size).size = numbers.size + 1 := by
    rw [Std.HashMap.size_insert, if_neg hfree]
  constructor
  · intro line' n hn
    rw [Std.HashMap.getElem?_insert] at hn
    split at hn
    · rw [hsize, ← Option.some.inj hn]
      exact Nat.lt_succ_self _
    · rw [hsize]
      exact Nat.lt_succ_of_lt (h.bounded hn)
  · intro line₁ line₂ n h₁ h₂
    rw [Std.HashMap.getElem?_insert] at h₁ h₂
    split at h₁ <;> split at h₂
    · next heq₁ heq₂ => exact (eq_of_beq heq₁).symm.trans (eq_of_beq heq₂)
    · exact absurd (Option.some.inj h₁) (Nat.ne_of_gt (h.bounded h₂))
    · exact absurd (Option.some.inj h₂) (Nat.ne_of_gt (h.bounded h₁))
    · exact h.injective h₁ h₂

/-- Numbering one line. -/
theorem number_spec {numbers : Numbering} (h : numbers.Proper) (line : Line) :
    (numbers.number line).2.Proper ∧ (numbers.number line).2.Extends numbers ∧
      (numbers.number line).2[line]? = some (numbers.number line).1 := by
  unfold number
  cases hline : numbers[line]? with
  | some n => exact ⟨h, Extends.refl numbers, hline⟩
  | none =>
      refine ⟨h.insert hline, fun {line' n} hn => ?_, Std.HashMap.getElem?_insert_self⟩
      rw [Std.HashMap.getElem?_insert]
      split
      · next heq =>
          rw [← eq_of_beq heq, hline] at hn
          cases hn
      · exact hn

/-! ### Names -/

def name (numbers : Numbering) (line : Line) : List Char :=
  Decimal.digits (numbers[line]?.getD 0)

theorem newline_not_mem_name (numbers : Numbering) (line : Line) : '\n' ∉ numbers.name line :=
  fun h => absurd (Decimal.isDigit_of_mem_digits h) (by decide)

theorem name_ne_nil (numbers : Numbering) (line : Line) : numbers.name line ≠ [] :=
  Decimal.digits_ne_nil _

theorem Extends.name_eq {later earlier : Numbering} (h : later.Extends earlier) {line : Line}
    (hline : line ∈ earlier) : later.name line = earlier.name line := by
  have hget := Std.HashMap.getElem?_eq_some_getElem hline
  rw [name, name, h hget, hget]

theorem Extends.mem {later earlier : Numbering} (h : later.Extends earlier) {line : Line}
    (hline : line ∈ earlier) : line ∈ later := by
  have hget := h (Std.HashMap.getElem?_eq_some_getElem hline)
  rw [Std.HashMap.mem_iff_isSome_getElem?, hget]
  rfl

/-- Numbered lines with one name are equal. -/
theorem Proper.name_injective {numbers : Numbering} (h : numbers.Proper) {line line' : Line}
    (hline : line ∈ numbers) (hline' : line' ∈ numbers)
    (hname : numbers.name line = numbers.name line') : line = line' := by
  have hget := Std.HashMap.getElem?_eq_some_getElem hline
  have hget' := Std.HashMap.getElem?_eq_some_getElem hline'
  have hnumber := Decimal.digits_injective hname
  rw [hget, hget', Option.getD_some, Option.getD_some] at hnumber
  exact h.injective hget (hnumber ▸ hget')

/-- Naming lines one after the other, the last name first. -/
theorem foldl_number_spec (lines : List Line) (acc : List (List Char)) {numbers : Numbering}
    (h : numbers.Proper) :
    ∃ later : Numbering,
      lines.foldl (fun (names, numbers) line =>
        let (n, numbers) := Numbering.number numbers line
        (Decimal.digits n :: names, numbers)) (acc, numbers)
        = ((lines.map later.name).reverse ++ acc, later) ∧
      later.Proper ∧ later.Extends numbers ∧ ∀ line ∈ lines, line ∈ later := by
  induction lines generalizing acc numbers with
  | nil => exact ⟨numbers, rfl, h, Extends.refl numbers, by simp⟩
  | cons line lines ih =>
      obtain ⟨hproper, hextends, hline⟩ := number_spec h line
      obtain ⟨later, hfold, hlater, hext, hmem⟩ :=
        ih (Decimal.digits (numbers.number line).1 :: acc) hproper
      have hnumbered : line ∈ (numbers.number line).2 := by
        rw [Std.HashMap.mem_iff_isSome_getElem?, hline]
        rfl
      refine ⟨later, ?_, hlater, hext.trans hextends, ?_⟩
      -- A number once given is kept, so the first line is named the same way at the end.
      · have hname : later.name line = Decimal.digits (numbers.number line).1 := by
          rw [name, hext hline, Option.getD_some]
        rw [List.foldl_cons, List.map_cons, List.reverse_cons, List.append_assoc,
          List.singleton_append, hname]
        exact hfold
      · intro line' hmem'
        rcases List.mem_cons.mp hmem' with rfl | hmem'
        · exact hext.mem hnumbered
        · exact hmem line' hmem'

/-- Naming lines: the names come from one numbering, which extends the one before, keeps
different lines apart and has a number for every line named. -/
theorem names_spec (lines : List Line) {numbers : Numbering} (h : numbers.Proper) :
    (names numbers lines).1 = lines.map (names numbers lines).2.name ∧
      (names numbers lines).2.Proper ∧ (names numbers lines).2.Extends numbers ∧
      ∀ line ∈ lines, line ∈ (names numbers lines).2 := by
  obtain ⟨later, hfold, hlater, hext, hmem⟩ := foldl_number_spec lines [] h
  have hnames : names numbers lines = (lines.map later.name, later) := by
    unfold names
    rw [hfold]
    simp
  rw [hnames]
  exact ⟨rfl, hlater, hext, hmem⟩

end Numbering

/-! ### Both sides -/

/-- The numbering once both sides are named, the new side with the numbers of the old one. -/
def numbering (old new : List Line) : Numbering := ((Numbering.names ∅ old).2.names new).2

/-- Naming both sides: the names given to either are the names of its lines at the end, when
different lines are kept apart and every line has a number. -/
theorem numbering_spec (old new : List Line) :
    (Numbering.names ∅ old).1 = old.map (numbering old new).name ∧
      ((Numbering.names ∅ old).2.names new).1 = new.map (numbering old new).name ∧
      (numbering old new).Proper ∧ ∀ line ∈ old ++ new, line ∈ numbering old new := by
  obtain ⟨hnames, hproper, -, hold⟩ := Numbering.names_spec old Numbering.proper_empty
  obtain ⟨hnames', hproper', hextends, hnew⟩ := Numbering.names_spec new hproper
  refine ⟨?_, hnames', hproper', fun line hline => ?_⟩
  · rw [hnames]
    exact List.map_congr_left fun line hline => (hextends.name_eq (hold line hline)).symm
  · rcases List.mem_append.mp hline with hline | hline
    · exact hextends.mem (hold line hline)
    · exact hnew line hline

theorem names_old (old new : List Line) :
    (Numbering.names ∅ old).1 = old.map (numbering old new).name := (numbering_spec old new).1

theorem names_new (old new : List Line) :
    ((Numbering.names ∅ old).2.names new).1 = new.map (numbering old new).name :=
  (numbering_spec old new).2.1

/-- On whichever sides two lines stand, they share a name exactly if they are equal. -/
theorem name_numbering_inj {old new : List Line} {a b : Line} (ha : a ∈ old ++ new)
    (hb : b ∈ old ++ new) :
    (numbering old new).name a = (numbering old new).name b ↔ a = b := by
  obtain ⟨-, -, hproper, hmem⟩ := numbering_spec old new
  exact ⟨hproper.name_injective (hmem a ha) (hmem b hb), fun h => by rw [h]⟩

end TwinRun.Align
