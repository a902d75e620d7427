import TwinRun.Proofs.Text.Decoding

/-!
Parts of a text and parts of its bytes.

`Bytes.contains_ofString`: the bytes of a text hold those of another one exactly if the text holds
the other one. A character never starts inside the bytes of another one, because no byte that may
stand first may stand behind.
-/

namespace TwinRun

/-- The search finds a part wherever it stands. -/
theorem Bytes.contains_iff {part whole : Bytes} : part.contains whole = true ↔ part <:+: whole := by
  induction whole with
  | nil => rw [contains, List.isEmpty_iff, List.infix_nil]
  | cons b whole ih =>
      rw [contains, Bool.or_eq_true, List.isPrefixOf_iff_prefix, ih, List.infix_cons_iff]

namespace Lossy

/-- A byte that only stands behind the first one of a character. -/
def Continues (b : UInt8) : Prop := 0x80 ≤ b.toNat ∧ b.toNat < 0xC0

/-- Where the bytes of a character are such bytes: everywhere but in front. -/
theorem exists_encode_eq_cons (c : Char) :
    ∃ b behind, String.utf8EncodeChar c = b :: behind ∧ ¬Continues b ∧
      ∀ x ∈ behind, Continues x := by
  have hvalid : c.toNat < 0xD800 ∨ 0xDFFF < c.toNat ∧ c.toNat < 0x110000 := c.valid
  have hdef : c.val.toNat = c.toNat := rfl
  have hfirst : ∀ n < 256, ¬(0x80 ≤ n ∧ n < 0xC0) → ¬Continues (UInt8.ofNat n) := fun n hn h => by
    rwa [Continues, toNat_ofNat hn]
  have hnext : ∀ (n : Nat) {rest : Bytes}, (∀ x ∈ rest, Continues x) →
      ∀ x ∈ UInt8.ofNat (n % 64 + 0x80) :: rest, Continues x := fun n rest hrest => by
    refine List.forall_mem_cons.mpr ⟨?_, hrest⟩
    rw [Continues, toNat_ofNat (by omega)]
    omega
  have hend : ∀ x ∈ ([] : Bytes), Continues x := List.forall_mem_nil _
  unfold String.utf8EncodeChar
  simp only [hdef]
  generalize c.toNat = v at hvalid
  split
  · exact ⟨_, _, rfl, hfirst _ (by omega) (by omega), hend⟩
  · split
    · exact ⟨_, _, rfl, hfirst _ (by omega) (by omega), hnext _ hend⟩
    · split
      · exact ⟨_, _, rfl, hfirst _ (by omega) (by omega), hnext _ (hnext _ hend)⟩
      · exact ⟨_, _, rfl, hfirst _ (by omega) (by omega), hnext _ (hnext _ (hnext _ hend))⟩

/-- Before a byte that may stand first, the text is cut between two characters. -/
theorem exists_cut {cs : List Char} {before rest : Bytes} {x : UInt8} (hx : ¬Continues x)
    (h : before ++ x :: rest = cs.flatMap String.utf8EncodeChar) :
    ∃ front back, cs = front ++ back ∧ x :: rest = back.flatMap String.utf8EncodeChar := by
  induction cs generalizing before with
  | nil => exact absurd h (by simp)
  | cons c cs ih =>
      obtain ⟨b, behind, hencode, -, hbehind⟩ := exists_encode_eq_cons c
      cases before with
      | nil => exact ⟨[], c :: cs, rfl, h⟩
      | cons y before =>
          -- The cut lies in the first character, right behind it, or further on.
          rw [List.flatMap_cons, hencode, List.cons_append, List.cons_append, List.cons.injEq] at h
          rcases List.append_eq_append_iff.mp h.2 with ⟨more, rfl, hmore⟩ | ⟨more, rfl, hmore⟩
          · cases more with
            | nil => exact ⟨[c], cs, rfl, hmore⟩
            | cons z more =>
                have hz : x = z := (List.cons.inj hmore).1
                exact absurd (hbehind z (by simp)) (hz ▸ hx)
          · obtain ⟨front, back, rfl, hback⟩ := ih hmore.symm
            exact ⟨c :: front, back, rfl, hback⟩

/-- A text stands in front of another one if its bytes do. -/
theorem prefix_of_encode {cs ds : List Char}
    (h : cs.flatMap String.utf8EncodeChar <+: ds.flatMap String.utf8EncodeChar) : cs <+: ds := by
  obtain ⟨rest, hrest⟩ := h
  have hread := congrArg chars hrest
  rw [chars_flatMap_encode_append, chars_flatMap_encode] at hread
  exact ⟨_, hread⟩

/-- The bytes of a text stand somewhere in those of another one exactly if the text does. -/
theorem infix_encode_iff {cs ds : List Char} :
    cs.flatMap String.utf8EncodeChar <:+: ds.flatMap String.utf8EncodeChar ↔ cs <:+: ds := by
  constructor
  · rintro ⟨before, after, h⟩
    cases cs with
    | nil => exact List.nil_infix
    | cons c cs =>
        obtain ⟨b, behind, hencode, hb, -⟩ := exists_encode_eq_cons c
        have hcut : before ++ b :: (behind ++ cs.flatMap String.utf8EncodeChar ++ after)
            = ds.flatMap String.utf8EncodeChar := by
          rw [← h, List.flatMap_cons, hencode]
          simp
        -- The first character found begins where a character of the text begins, for its first byte
        -- does not go on in another one.
        obtain ⟨front, back, rfl, hback⟩ := exists_cut hb hcut
        have hprefix : (c :: cs).flatMap String.utf8EncodeChar
            <+: back.flatMap String.utf8EncodeChar := by
          rw [← hback, List.flatMap_cons, hencode]
          exact ⟨after, by simp⟩
        exact (prefix_of_encode hprefix).isInfix.trans (List.suffix_append front back).isInfix
  · rintro ⟨before, after, rfl⟩
    rw [List.flatMap_append, List.flatMap_append]
    exact List.infix_append _ _ _

end Lossy

/-- The search on bytes is a search on characters. -/
theorem Bytes.contains_ofString (part whole : String) :
    (Bytes.ofString part).contains (Bytes.ofString whole) = true ↔
      part.toList <:+: whole.toList := by
  rw [contains_iff, ofString_eq_flatMap, ofString_eq_flatMap, Lossy.infix_encode_iff]

end TwinRun
