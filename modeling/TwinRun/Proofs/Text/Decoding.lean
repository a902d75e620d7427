import Mathlib.Tactic.SplitIfs
import TwinRun.Text.Lossy

/-!
Reading bytes as text.

* `ascii_not_mem_chars`: bytes without an ASCII character, such as a line feed, are read as a text
  without it. No sequence of several bytes stands for one, because overlong forms are ill-formed.
* `chars_append_ascii`: bytes may be cut at an ASCII character before or after they are read.
* `chars_encode_append`, `chars_ofString`: well-formed text is read as it was written.
-/

namespace TwinRun

/-- A text is written out character by character. -/
theorem Bytes.ofString_eq_flatMap (s : String) :
    Bytes.ofString s = s.toList.flatMap String.utf8EncodeChar := by
  rw [Bytes.ofString, String.toUTF8_eq_toByteArray, ← String.utf8Encode_toList, List.utf8Encode,
    List.data_toByteArray, List.toList_toArray]

/-- A text is read back as it was written. -/
theorem Bytes.text?_ofString (s : String) : (Bytes.ofString s).text? = some s := by
  rw [Bytes.text?, Bytes.ofString, Array.toArray_toList]
  exact dif_pos s.isValidUTF8

namespace Lossy

/-! ### Leads and readers in numbers -/

theorem Lead.ofByte_eq (b : UInt8) :
    Lead.ofByte b =
      if b.toNat < 0x80 then .char (Char.ofNat b.toNat)
      else if b.toNat < 0xC2 then .illFormed
      else if b.toNat < 0xE0 then .opening ⟨b.toNat - 0xC0, 1, 0x80, 0xBF⟩
      else if b.toNat = 0xE0 then .opening ⟨0x0, 2, 0xA0, 0xBF⟩
      else if b.toNat = 0xED then .opening ⟨0xD, 2, 0x80, 0x9F⟩
      else if b.toNat < 0xF0 then .opening ⟨b.toNat - 0xE0, 2, 0x80, 0xBF⟩
      else if b.toNat = 0xF0 then .opening ⟨0x0, 3, 0x90, 0xBF⟩
      else if b.toNat < 0xF4 then .opening ⟨b.toNat - 0xF0, 3, 0x80, 0xBF⟩
      else if b.toNat = 0xF4 then .opening ⟨0x4, 3, 0x80, 0x8F⟩
      else .illFormed := by
  simp only [Lead.ofByte, UInt8.lt_iff_toNat_lt, ← UInt8.toNat_inj, UInt8.reduceToNat]

/-- The reader after a byte that may come next in an open sequence. -/
theorem Reader.step_of_mem {read : List Char} {p : Pending} {b : UInt8}
    (hlow : p.low.toNat ≤ b.toNat) (hhigh : b.toNat ≤ p.high.toNat) :
    Reader.step ⟨read, some p⟩ b =
      if p.more ≤ 1 then ⟨Char.ofNat (p.bits * 64 + b.toNat % 64) :: read, none⟩
      else ⟨read, some ⟨p.bits * 64 + b.toNat % 64, p.more - 1, 0x80, 0xBF⟩⟩ := by
  have hmem : p.low ≤ b ∧ b ≤ p.high :=
    ⟨UInt8.le_iff_toNat_le.mpr hlow, UInt8.le_iff_toNat_le.mpr hhigh⟩
  simp only [Reader.step, if_pos hmem]

/-! ### ASCII characters -/

/-- The byte of an ASCII character other than NUL. -/
structure Ascii (a : UInt8) : Prop where
  pos : 0 < a.toNat
  lt : a.toNat < 0x80

def asciiChar (a : UInt8) : Char := Char.ofNat a.toNat

theorem ascii_newline : Ascii Bytes.newline := ⟨by decide, by decide⟩

theorem ascii_slash : Ascii Bytes.slash := ⟨by decide, by decide⟩

variable {a : UInt8}

/-- Whatever the sequence goes on with, its value will be at least 0x80. -/
structure Pending.Long (p : Pending) : Prop where
  low : 0x80 ≤ p.low.toNat
  high : p.high.toNat ≤ 0xBF
  bits : 2 ≤ p.bits ∨ 2 ≤ p.more ∧ (1 ≤ p.bits ∨ 0x90 ≤ p.low.toNat)

/-- The character of `a` has not been read, and is not being read. -/
structure Reader.Without (a : UInt8) (r : Reader) : Prop where
  read : asciiChar a ∉ r.read
  pending : ∀ p, r.pending = some p → p.Long

/-- The number of a character that is given by its number. -/
theorem toNat_char_ofNat {v : Nat} (h : v.isValidChar) : (Char.ofNat v).toNat = v := by
  have hchar : Char.ofNat v = Char.ofNatAux v h := dif_pos h
  rw [hchar]
  rfl

theorem Ascii.toNat_char (ha : Ascii a) : (asciiChar a).toNat = a.toNat :=
  toNat_char_ofNat (.inl (Nat.lt_trans ha.lt (by decide)))

/-- Other numbers stand for other characters, or for none. -/
theorem Ascii.char_ne_ofNat (ha : Ascii a) {n : Nat} (h : n ≠ a.toNat) :
    asciiChar a ≠ Char.ofNat n := by
  intro heq
  have hnat := congrArg Char.toNat heq
  rw [ha.toNat_char] at hnat
  by_cases hvalid : n.isValidChar
  · have hn : Char.ofNat n = Char.ofNatAux n hvalid := dif_pos hvalid
    rw [hn] at hnat
    exact h hnat.symm
  · have hn : Char.ofNat n = '\x00' := dif_neg hvalid
    rw [hn] at hnat
    exact Nat.ne_of_gt ha.pos hnat

theorem Ascii.char_ne_replacement (ha : Ascii a) : asciiChar a ≠ replacement :=
  ha.char_ne_ofNat (n := 0xFFFD) (Nat.ne_of_gt (Nat.lt_trans ha.lt (by decide)))

/-- A byte that is a character alone is one of the first 128. -/
theorem Lead.of_ofByte_eq_char {b : UInt8} {c : Char} (h : Lead.ofByte b = .char c) :
    b.toNat < 0x80 ∧ Char.ofNat b.toNat = c := by
  rw [Lead.ofByte_eq] at h
  split_ifs at h with hb
  exact ⟨hb, Lead.char.inj h⟩

/-- A lead opens only long sequences. -/
theorem Lead.long_of_ofByte_eq_opening {b : UInt8} {p : Pending} (h : Lead.ofByte b = .opening p) :
    p.Long := by
  rw [Lead.ofByte_eq] at h
  split_ifs at h <;> simp only [Lead.opening.injEq] at h
  all_goals
    subst h
    refine ⟨?_, ?_, ?_⟩ <;> simp only [UInt8.reduceToNat] <;> omega

/-- Reading any other byte outside a sequence. -/
theorem Reader.Without.start (ha : Ascii a) {read : List Char} (hread : asciiChar a ∉ read)
    {b : UInt8} (hb : b ≠ a) : (Reader.start read b).Without a := by
  unfold Reader.start
  cases hlead : Lead.ofByte b with
  | char c =>
      have hne : asciiChar a ≠ c := by
        rw [← (Lead.of_ofByte_eq_char hlead).2]
        exact ha.char_ne_ofNat fun h => hb (UInt8.toNat_inj.mp h)
      exact ⟨List.not_mem_cons_of_ne_of_not_mem hne hread, by simp⟩
  | opening p =>
      exact ⟨hread, fun q hq => Option.some.inj hq ▸ Lead.long_of_ofByte_eq_opening hlead⟩
  | illFormed => exact ⟨List.not_mem_cons_of_ne_of_not_mem ha.char_ne_replacement hread, by simp⟩

/-- Reading any other byte. -/
theorem Reader.Without.step (ha : Ascii a) {r : Reader} (h : r.Without a) {b : UInt8}
    (hb : b ≠ a) : (r.step b).Without a := by
  obtain ⟨read, pending⟩ := r
  cases pending with
  | none => exact .start ha h.read hb
  | some p =>
      obtain ⟨hlow, hp.high, hp.bits⟩ := h.pending p rfl
      -- A byte that goes on in the sequence makes a number beyond ASCII; any other one ends the
      -- sequence and is looked at anew.
      by_cases hmem : p.low ≤ b ∧ b ≤ p.high
      · have hb₁ := UInt8.le_iff_toNat_le.mp hmem.1
        have hb₂ := UInt8.le_iff_toNat_le.mp hmem.2
        have hlt := ha.lt
        rw [Reader.step_of_mem hb₁ hb₂]
        split
        · refine ⟨List.not_mem_cons_of_ne_of_not_mem (ha.char_ne_ofNat ?_) h.read, by simp⟩
          omega
        · refine ⟨h.read, fun q hq => ?_⟩
          obtain rfl := Option.some.inj hq
          constructor <;> simp only [UInt8.reduceToNat] <;> omega
      · simp only [Reader.step, if_neg hmem]
        exact .start ha (List.not_mem_cons_of_ne_of_not_mem ha.char_ne_replacement h.read) hb

/-- Reading bytes without the byte of the character. -/
theorem Reader.Without.foldl (ha : Ascii a) {r : Reader} (hr : r.Without a) {b : Bytes}
    (hb : a ∉ b) : (b.foldl Reader.step r).Without a := by
  induction b generalizing r with
  | nil => exact hr
  | cons x b ih =>
      obtain ⟨hx, hb⟩ := List.ne_and_not_mem_of_not_mem_cons hb
      exact ih (hr.step ha (Ne.symm hx)) hb

/-- Before any byte is read, no character has been. -/
theorem Reader.without_nil (a : UInt8) : Reader.Without a ⟨[], none⟩ := ⟨by simp, by simp⟩

/-- Bytes without an ASCII character are read as a text without it. -/
theorem ascii_not_mem_chars (ha : Ascii a) {b : Bytes} (h : a ∉ b) : asciiChar a ∉ chars b := by
  obtain ⟨hread, -⟩ := (Reader.without_nil a).foldl ha h
  unfold chars Reader.finish
  split
  · exact fun hmem => hread (List.mem_reverse.mp hmem)
  · intro hmem
    rcases List.mem_cons.mp (List.mem_reverse.mp hmem) with heq | hmem
    · exact ha.char_ne_replacement heq
    · exact hread hmem

/-- An ASCII character ends whatever sequence is open, which leaves the reader as at its end. -/
theorem Reader.Without.step_self (ha : Ascii a) {r : Reader} (h : r.Without a) :
    r.step a = ⟨asciiChar a :: r.finish.reverse, none⟩ := by
  have hstart (read : List Char) : Reader.start read a = ⟨asciiChar a :: read, none⟩ := by
    simp only [Reader.start, Lead.ofByte_eq, if_pos ha.lt, asciiChar]
  obtain ⟨read, pending⟩ := r
  cases pending with
  | none => rw [Reader.finish, List.reverse_reverse]; exact hstart read
  | some p =>
      have hlow := (h.pending p rfl).low
      have hlt := ha.lt
      have hout : ¬(p.low ≤ a ∧ a ≤ p.high) := fun hmem =>
        absurd (UInt8.le_iff_toNat_le.mp hmem.1) (by omega)
      simp only [Reader.step, if_neg hout, hstart, Reader.finish, List.reverse_reverse]

/-! ### Well-formed text -/

/-- A reader that has read other characters before. -/
def Reader.behind (r : Reader) (read : List Char) : Reader := ⟨r.read ++ read, r.pending⟩

theorem Reader.start_behind (done read : List Char) (b : UInt8) :
    Reader.start (done ++ read) b = (Reader.start done b).behind read := by
  unfold Reader.start
  cases Lead.ofByte b <;> rfl

theorem Reader.step_behind (r : Reader) (read : List Char) (b : UInt8) :
    (r.behind read).step b = (r.step b).behind read := by
  obtain ⟨done, pending⟩ := r
  cases pending with
  | none => exact Reader.start_behind done read b
  | some p =>
      simp only [Reader.behind, Reader.step]
      split
      · split <;> rfl
      · exact Reader.start_behind (replacement :: done) read b

/-- What has been read before does not matter for what is read. -/
theorem Reader.finish_foldl_behind (r : Reader) (read : List Char) (b : Bytes) :
    (b.foldl Reader.step (r.behind read)).finish
      = read.reverse ++ (b.foldl Reader.step r).finish := by
  induction b generalizing r with
  | nil =>
      obtain ⟨done, pending⟩ := r
      cases pending <;> simp [Reader.finish, Reader.behind]
  | cons x b ih => rw [List.foldl_cons, List.foldl_cons, Reader.step_behind, ih]

/-- The byte `b` opens a sequence of which `k` bytes are to come, `next` being the first of
them. -/
structure Opens (b : UInt8) (bits k next : Nat) (p : Pending) : Prop where
  lead : Lead.ofByte b = .opening p
  bits : p.bits = bits
  more : p.more = k
  low : p.low.toNat ≤ next
  high : next ≤ p.high.toNat

theorem Opens.step {b : UInt8} {bits k next : Nat} {p : Pending} (h : Opens b bits k next p)
    (read : List Char) : Reader.step ⟨read, none⟩ b = ⟨read, some p⟩ := by
  simp only [Reader.step, Reader.start, h.lead]

theorem exists_opens_two {v : Nat} {b : UInt8} (hlow : 0x80 ≤ v) (hhigh : v < 0x800)
    (hb : b.toNat = v / 64 + 0xC0) : ∃ p, Opens b (v / 64) 1 (v % 64 + 0x80) p := by
  refine ⟨⟨v / 64, 1, 0x80, 0xBF⟩, ?_, rfl, rfl, ?_, ?_⟩
  · rw [Lead.ofByte_eq, hb, if_neg (by omega), if_neg (by omega), if_pos (by omega),
      Nat.add_sub_cancel]
  · simp only [UInt8.reduceToNat]; omega
  · simp only [UInt8.reduceToNat]; omega

theorem exists_opens_three {v : Nat} {b : UInt8} (hlow : 0x800 ≤ v) (hhigh : v < 0x10000)
    (hvalid : v < 0xD800 ∨ 0xDFFF < v) (hb : b.toNat = v / 4096 + 0xE0) :
    ∃ p, Opens b (v / 4096) 2 (v / 64 % 64 + 0x80) p := by
  -- Two first bytes narrow what may come second: one against longer spellings than needed, one
  -- against surrogates.
  by_cases hfirst : v / 4096 = 0
  · refine ⟨⟨0, 2, 0xA0, 0xBF⟩, ?_, hfirst.symm, rfl, ?_, ?_⟩
    · rw [Lead.ofByte_eq, hb, if_neg (by omega), if_neg (by omega), if_neg (by omega),
        if_pos (by omega)]
    · simp only [UInt8.reduceToNat]; omega
    · simp only [UInt8.reduceToNat]; omega
  · by_cases hsurrogate : v / 4096 = 0xD
    · refine ⟨⟨0xD, 2, 0x80, 0x9F⟩, ?_, hsurrogate.symm, rfl, ?_, ?_⟩
      · rw [Lead.ofByte_eq, hb, if_neg (by omega), if_neg (by omega), if_neg (by omega),
          if_neg (by omega), if_pos (by omega)]
      · simp only [UInt8.reduceToNat]; omega
      · simp only [UInt8.reduceToNat]; omega
    · refine ⟨⟨v / 4096, 2, 0x80, 0xBF⟩, ?_, rfl, rfl, ?_, ?_⟩
      · rw [Lead.ofByte_eq, hb, if_neg (by omega), if_neg (by omega), if_neg (by omega),
          if_neg (by omega), if_neg (by omega), if_pos (by omega), Nat.add_sub_cancel]
      · simp only [UInt8.reduceToNat]; omega
      · simp only [UInt8.reduceToNat]; omega

theorem exists_opens_four {v : Nat} {b : UInt8} (hlow : 0x10000 ≤ v) (hhigh : v < 0x110000)
    (hb : b.toNat = v / 262144 + 0xF0) :
    ∃ p, Opens b (v / 262144) 3 (v / 4096 % 64 + 0x80) p := by
  -- Here one narrowing is against longer spellings, the other one against numbers past the last
  -- character.
  by_cases hfirst : v / 262144 = 0
  · refine ⟨⟨0, 3, 0x90, 0xBF⟩, ?_, hfirst.symm, rfl, ?_, ?_⟩
    · rw [Lead.ofByte_eq, hb, if_neg (by omega), if_neg (by omega), if_neg (by omega),
        if_neg (by omega), if_neg (by omega), if_neg (by omega), if_pos (by omega)]
    · simp only [UInt8.reduceToNat]; omega
    · simp only [UInt8.reduceToNat]; omega
  · by_cases hlast : v / 262144 = 4
    · refine ⟨⟨4, 3, 0x80, 0x8F⟩, ?_, hlast.symm, rfl, ?_, ?_⟩
      · rw [Lead.ofByte_eq, hb, if_neg (by omega), if_neg (by omega), if_neg (by omega),
          if_neg (by omega), if_neg (by omega), if_neg (by omega), if_neg (by omega),
          if_neg (by omega), if_pos (by omega)]
      · simp only [UInt8.reduceToNat]; omega
      · simp only [UInt8.reduceToNat]; omega
    · refine ⟨⟨v / 262144, 3, 0x80, 0xBF⟩, ?_, rfl, rfl, ?_, ?_⟩
      · rw [Lead.ofByte_eq, hb, if_neg (by omega), if_neg (by omega), if_neg (by omega),
          if_neg (by omega), if_neg (by omega), if_neg (by omega), if_neg (by omega),
          if_pos (by omega), Nat.add_sub_cancel]
      · simp only [UInt8.reduceToNat]; omega
      · simp only [UInt8.reduceToNat]; omega

theorem toNat_ofNat {n : Nat} (h : n < 256) : (UInt8.ofNat n).toNat = n := by
  rw [UInt8.toNat_ofNat', Nat.mod_eq_of_lt h]

/-- The reader after a further byte of a sequence that is not its last. -/
theorem step_more {read : List Char} {p : Pending} {x : Nat} (hx : x < 64)
    (hmore : 1 < p.more) (hlow : p.low.toNat ≤ x + 0x80) (hhigh : x + 0x80 ≤ p.high.toNat) :
    Reader.step ⟨read, some p⟩ (UInt8.ofNat (x + 0x80))
      = ⟨read, some ⟨p.bits * 64 + x, p.more - 1, 0x80, 0xBF⟩⟩ := by
  have hb : (UInt8.ofNat (x + 0x80)).toNat = x + 0x80 := toNat_ofNat (by omega)
  rw [Reader.step_of_mem (by omega) (by omega), if_neg (by omega), hb,
    show (x + 0x80) % 64 = x by omega]

/-- The reader after the last byte of a sequence. -/
theorem step_last {read : List Char} {p : Pending} {x : Nat} (hx : x < 64)
    (hmore : p.more ≤ 1) (hlow : p.low.toNat ≤ x + 0x80) (hhigh : x + 0x80 ≤ p.high.toNat) :
    Reader.step ⟨read, some p⟩ (UInt8.ofNat (x + 0x80))
      = ⟨Char.ofNat (p.bits * 64 + x) :: read, none⟩ := by
  have hb : (UInt8.ofNat (x + 0x80)).toNat = x + 0x80 := toNat_ofNat (by omega)
  rw [Reader.step_of_mem (by omega) (by omega), if_pos hmore, hb,
    show (x + 0x80) % 64 = x by omega]

/-- The bytes of a character are read as the character. The number of the character decides how
many bytes there are; each byte gives six more bits of it. -/
theorem foldl_step_encode (c : Char) (read : List Char) :
    (String.utf8EncodeChar c).foldl Reader.step ⟨read, none⟩ = ⟨c :: read, none⟩ := by
  have hvalid : c.toNat < 0xD800 ∨ 0xDFFF < c.toNat ∧ c.toNat < 0x110000 := c.valid
  have hc : Char.ofNat c.toNat = c := Char.ofNat_toNat c
  have hdef : c.val.toNat = c.toNat := rfl
  unfold String.utf8EncodeChar
  simp only [hdef]
  generalize c.toNat = v at hvalid hc
  split
  · next hone =>
      have hb : (UInt8.ofNat v).toNat = v := toNat_ofNat (by omega)
      simp only [List.foldl_cons, List.foldl_nil, Reader.step, Reader.start, Lead.ofByte_eq, hb,
        if_pos (show v < 0x80 by omega), hc]
  · next hone =>
      split
      · next htwo =>
          rw [Nat.mod_eq_of_lt (show v / 64 < 0x20 by omega)]
          obtain ⟨p, hp⟩ := exists_opens_two (by omega) (by omega)
            (toNat_ofNat (show v / 64 + 0xC0 < 256 by omega))
          have hmore := hp.more
          rw [List.foldl_cons, hp.step, List.foldl_cons, List.foldl_nil,
            step_last (by omega) (by omega) hp.low hp.high, hp.bits,
            show v / 64 * 64 + v % 64 = v by omega, hc]
      · next htwo =>
          split
          · next hthree =>
              rw [Nat.mod_eq_of_lt (show v / 4096 < 0x10 by omega)]
              obtain ⟨p, hp⟩ := exists_opens_three (by omega) (by omega) (by omega)
                (toNat_ofNat (show v / 4096 + 0xE0 < 256 by omega))
              have hmore := hp.more
              rw [List.foldl_cons, hp.step, List.foldl_cons,
                step_more (by omega) (by omega) hp.low hp.high, List.foldl_cons, List.foldl_nil,
                step_last (by omega) (by simp only; omega) (by simp only [UInt8.reduceToNat]; omega)
                  (by simp only [UInt8.reduceToNat]; omega), hp.bits,
                show (v / 4096 * 64 + v / 64 % 64) * 64 + v % 64 = v by omega, hc]
          · next hthree =>
              rw [Nat.mod_eq_of_lt (show v / 262144 < 0x08 by omega)]
              obtain ⟨p, hp⟩ := exists_opens_four (by omega) (by omega)
                (toNat_ofNat (show v / 262144 + 0xF0 < 256 by omega))
              have hmore := hp.more
              rw [List.foldl_cons, hp.step, List.foldl_cons,
                step_more (by omega) (by omega) hp.low hp.high, List.foldl_cons,
                step_more (by omega) (by simp only; omega)
                  (by simp only [UInt8.reduceToNat]; omega)
                  (by simp only [UInt8.reduceToNat]; omega), List.foldl_cons, List.foldl_nil,
                step_last (by omega) (by simp only; omega) (by simp only [UInt8.reduceToNat]; omega)
                  (by simp only [UInt8.reduceToNat]; omega), hp.bits,
                show ((v / 262144 * 64 + v / 4096 % 64) * 64 + v / 64 % 64) * 64 + v % 64 = v by
                  omega, hc]

/-- A well-formed character in front is read first, whatever follows. -/
theorem chars_encode_append (c : Char) (b : Bytes) :
    chars (String.utf8EncodeChar c ++ b) = c :: chars b := by
  have hbehind : (⟨[c], none⟩ : Reader) = (⟨[], none⟩ : Reader).behind [c] := rfl
  rw [chars, List.foldl_append, foldl_step_encode, hbehind, Reader.finish_foldl_behind]
  rfl

/-- Well-formed text in front is read as it was written, whatever follows. -/
theorem chars_flatMap_encode_append (cs : List Char) (b : Bytes) :
    chars (cs.flatMap String.utf8EncodeChar ++ b) = cs ++ chars b := by
  induction cs with
  | nil => rfl
  | cons c cs ih =>
      rw [List.flatMap_cons, List.append_assoc, chars_encode_append, ih, List.cons_append]

/-- Well-formed text is read as it was written. -/
theorem chars_flatMap_encode (cs : List Char) : chars (cs.flatMap String.utf8EncodeChar) = cs := by
  have h := chars_flatMap_encode_append cs []
  rwa [List.append_nil, show chars [] = [] from rfl, List.append_nil] at h

/-- What stands before an ASCII character is read apart from what stands behind it, even where it
breaks off inside a sequence. -/
theorem chars_append_ascii (ha : Ascii a) {w : Bytes} (hw : a ∉ w) (b : Bytes) :
    chars (w ++ a :: b) = chars w ++ asciiChar a :: chars b := by
  have hbehind (done : List Char) :
      (⟨asciiChar a :: done, none⟩ : Reader) = (⟨[], none⟩ : Reader).behind (asciiChar a :: done) :=
    rfl
  rw [chars, List.foldl_append, List.foldl_cons,
    ((Reader.without_nil a).foldl ha hw).step_self ha, hbehind, Reader.finish_foldl_behind,
    List.reverse_cons, List.reverse_reverse, List.append_assoc]
  rfl

/-- A byte leaves a character behind, or a sequence that ends up as one. -/
theorem Reader.finish_step_ne_nil (r : Reader) (b : UInt8) : (r.step b).finish ≠ [] := by
  have hstart (read : List Char) : (Reader.start read b).finish ≠ [] := by
    unfold Reader.start
    cases Lead.ofByte b <;> simp [Reader.finish]
  unfold Reader.step
  cases r.pending with
  | none => exact hstart r.read
  | some p =>
      dsimp only
      split
      · split <;> simp [Reader.finish]
      · exact hstart (replacement :: r.read)

/-- Only no bytes are read as no text. -/
theorem chars_ne_nil {b : Bytes} (h : b ≠ []) : chars b ≠ [] := by
  rw [chars, ← List.dropLast_concat_getLast h, List.foldl_append]
  exact Reader.finish_step_ne_nil _ _

theorem chars_ofString (s : String) : chars (Bytes.ofString s) = s.toList := by
  rw [Bytes.ofString_eq_flatMap, chars_flatMap_encode]

end Lossy

end TwinRun
