import Mathlib
import TwinRun.Proofs.Text.Decoding

/-!
Which bytes are read as a replacement.

`Lossy.Reads` says what text bytes stand for without running a reader over them. A character in
front stands for itself. Where none stands in front, one replacement stands for the longest bytes
that a character may start with, or for a single byte if there are none.

* `Lossy.Reader.opened_of_start`: inside the bytes of a character, the reader waits for more.
* `Lossy.Leads`, `Lossy.Reader.leads_of_foldl`: where the reader waits, every number that agrees
  with the bits read so far is that of a character with these bytes in front.
* `Lossy.reads_chars`: the reader reads what the bytes stand for.
-/

namespace TwinRun.Lossy

/-- Bytes with which some character starts. -/
def Starts (part : Bytes) : Prop := ∃ c, part <+: String.utf8EncodeChar c

theorem Starts.left {part more : Bytes} (h : Starts (part ++ more)) : Starts part := by
  obtain ⟨c, hc⟩ := h
  exact ⟨c, (List.prefix_append part more).trans hc⟩

/-- No character stands in front of `part ++ rest`, and `part` is as much of it as some character
starts with, or a single byte. -/
structure IllFormed (part rest : Bytes) : Prop where
  no_char : ∀ c, ¬String.utf8EncodeChar c <+: part ++ rest
  ne_nil : part ≠ []
  starts : part.length = 1 ∨ Starts part
  longest : ∀ b ∈ rest.head?, ¬Starts (part ++ [b])

/-- The text that bytes stand for. -/
inductive Reads : Bytes → List Char → Prop
  | nil : Reads [] []
  | char {rest : Bytes} {cs : List Char} (c : Char) (tail : Reads rest cs) :
      Reads (String.utf8EncodeChar c ++ rest) (c :: cs)
  | replaced {part rest : Bytes} {cs : List Char} (front : IllFormed part rest)
      (tail : Reads rest cs) : Reads (part ++ rest) (replacement :: cs)

/-! ### How much has been read -/

theorem Reader.length_finish_start (read : List Char) (b : UInt8) :
    (Reader.start read b).finish.length = read.length + 1 := by
  unfold Reader.start
  cases Lead.ofByte b <;> simp [Reader.finish]

/-- A byte never makes the text shorter. -/
theorem Reader.length_finish_step (r : Reader) (b : UInt8) :
    r.finish.length ≤ (r.step b).finish.length := by
  obtain ⟨read, pending⟩ := r
  cases pending with
  | none =>
      have hstart := Reader.length_finish_start read b
      simp only [Reader.step, Reader.finish, List.length_reverse] at hstart ⊢
      omega
  | some p =>
      have hstart := Reader.length_finish_start (replacement :: read) b
      simp only [Reader.step]
      split
      · split <;> simp [Reader.finish]
      · rw [hstart]
        simp [Reader.finish]

theorem Reader.length_finish_foldl (r : Reader) (b : Bytes) :
    r.finish.length ≤ (b.foldl Reader.step r).finish.length := by
  induction b generalizing r with
  | nil => exact Nat.le_refl _
  | cons x b ih => exact Nat.le_trans (r.length_finish_step x) (ih (r.step x))

/-- Outside a sequence, the next bytes make the text longer. -/
theorem Reader.lt_length_finish_foldl (read : List Char) {b : Bytes} (hb : b ≠ []) :
    read.length < (b.foldl Reader.step ⟨read, none⟩).finish.length := by
  cases b with
  | nil => exact absurd rfl hb
  | cons x b =>
      refine Nat.lt_of_lt_of_le ?_ (Reader.length_finish_foldl (Reader.start read x) b)
      rw [Reader.length_finish_start]
      exact Nat.lt_succ_self _

/-- Inside the bytes of a character nothing has been read, and a sequence is open: anything else
would be at least one character too many when the whole character has been read. -/
theorem Reader.opened_of_start {c : Char} {part : Bytes} (hne : part ≠ [])
    (hpart : part <+: String.utf8EncodeChar c) (hproper : part ≠ String.utf8EncodeChar c) :
    ∃ p, part.foldl Reader.step ⟨[], none⟩ = ⟨[], some p⟩ := by
  obtain ⟨tail, htail⟩ := hpart
  have htailne : tail ≠ [] := by
    rintro rfl
    exact hproper (by rwa [List.append_nil] at htail)
  have hwhole : tail.foldl Reader.step (part.foldl Reader.step ⟨[], none⟩) = ⟨[c], none⟩ := by
    rw [← List.foldl_append, htail, foldl_step_encode]
  have hone : (Reader.finish ⟨[c], none⟩).length = 1 := rfl
  have hpos := Reader.lt_length_finish_foldl [] hne
  generalize part.foldl Reader.step ⟨[], none⟩ = r at hwhole hpos ⊢
  obtain ⟨read, pending⟩ := r
  -- A reader that waits for nothing would take the rest of the character for further characters.
  cases pending with
  | none =>
      have hlonger := Reader.lt_length_finish_foldl read htailne
      rw [hwhole, hone] at hlonger
      simp only [Reader.finish, List.length_reverse, List.length_nil] at hpos
      omega
  | some p =>
      have hlonger := Reader.length_finish_foldl ⟨read, some p⟩ tail
      rw [hwhole, hone] at hlonger
      obtain rfl : read = [] := by simpa [Reader.finish] using hlonger
      exact ⟨p, rfl⟩

/-! ### Characters by their numbers -/

/-- The last `k` bytes of the character with the number `v`, if it has more than `k`. -/
def tail : (k v : Nat) → Bytes
  | 0, _ => []
  | k + 1, v => UInt8.ofNat (v / 64 ^ k % 64 + 0x80) :: tail k v

theorem encode_one {v : Nat} (h : v < 0x80) :
    String.utf8EncodeChar (Char.ofNat v) = [UInt8.ofNat v] := by
  have hval : (Char.ofNat v).val.toNat = v := toNat_char_ofNat (.inl (by omega))
  simp only [String.utf8EncodeChar, hval]
  rw [if_pos (by omega)]

theorem encode_two {v : Nat} (hlow : 0x80 ≤ v) (hhigh : v < 0x800) :
    String.utf8EncodeChar (Char.ofNat v) = UInt8.ofNat (v / 64 + 0xC0) :: tail 1 v := by
  have hval : (Char.ofNat v).val.toNat = v := toNat_char_ofNat (.inl (by omega))
  simp only [String.utf8EncodeChar, hval]
  rw [if_neg (by omega), if_pos (by omega), Nat.mod_eq_of_lt (show v / 64 < 32 by omega)]
  simp only [tail, Nat.pow_zero, Nat.div_one]

theorem encode_three {v : Nat} (hlow : 0x800 ≤ v) (hhigh : v < 0x10000)
    (hvalid : v < 0xD800 ∨ 0xDFFF < v) :
    String.utf8EncodeChar (Char.ofNat v) = UInt8.ofNat (v / 4096 + 0xE0) :: tail 2 v := by
  have hval : (Char.ofNat v).val.toNat = v :=
    toNat_char_ofNat (hvalid.imp id fun h => ⟨h, by omega⟩)
  simp only [String.utf8EncodeChar, hval]
  rw [if_neg (by omega), if_neg (by omega), if_pos (by omega),
    Nat.mod_eq_of_lt (show v / 4096 < 16 by omega)]
  simp only [tail, Nat.reducePow, Nat.div_one]

theorem encode_four {v : Nat} (hlow : 0x10000 ≤ v) (hhigh : v < 0x110000) :
    String.utf8EncodeChar (Char.ofNat v) = UInt8.ofNat (v / 262144 + 0xF0) :: tail 3 v := by
  have hval : (Char.ofNat v).val.toNat = v := toNat_char_ofNat (.inr ⟨by omega, hhigh⟩)
  simp only [String.utf8EncodeChar, hval]
  rw [if_neg (by omega), if_neg (by omega), if_neg (by omega),
    Nat.mod_eq_of_lt (show v / 262144 < 8 by omega)]
  simp only [tail, Nat.reducePow, Nat.div_one]

/-! ### Open sequences -/

/-- The bytes `part` open the sequence `p`: whatever number agrees with the bits so far and goes on
as it may, it is that of a character that starts with `part`. -/
structure Leads (part : Bytes) (p : Pending) : Prop where
  more : 0 < p.more
  low : 0x80 ≤ p.low.toNat
  nonempty : p.low.toNat ≤ p.high.toNat
  high : p.high.toNat ≤ 0xBF
  encode : ∀ v, v / 64 ^ p.more = p.bits →
    p.low.toNat ≤ v / 64 ^ (p.more - 1) % 64 + 0x80 →
    v / 64 ^ (p.more - 1) % 64 + 0x80 ≤ p.high.toNat →
    String.utf8EncodeChar (Char.ofNat v) = part ++ tail p.more v

theorem leads_of_opening {b : UInt8} {p : Pending} (h : Lead.ofByte b = .opening p) :
    Leads [b] p := by
  have hbyte : ∀ n, n = b.toNat → UInt8.ofNat n = b := fun n hn => by rw [hn, UInt8.ofNat_toNat]
  rw [Lead.ofByte_eq] at h
  split_ifs at h <;> simp only [Lead.opening.injEq] at h
  all_goals
    subst h
    constructor <;> simp only [Nat.reducePow, Nat.reduceSub, Nat.reduceLT, Nat.reduceLeDiff,
      Nat.div_one, UInt8.reduceToNat]
    intro v hv hlow hhigh
  · rw [encode_two (by omega) (by omega), hbyte _ (by omega), List.singleton_append]
  · rw [encode_three (by omega) (by omega) (by omega), hbyte _ (by omega), List.singleton_append]
  · rw [encode_three (by omega) (by omega) (by omega), hbyte _ (by omega), List.singleton_append]
  · rw [encode_three (by omega) (by omega) (by omega), hbyte _ (by omega), List.singleton_append]
  · rw [encode_four (by omega) (by omega), hbyte _ (by omega), List.singleton_append]
  · rw [encode_four (by omega) (by omega), hbyte _ (by omega), List.singleton_append]
  · rw [encode_four (by omega) (by omega), hbyte _ (by omega), List.singleton_append]

section Next

variable {part : Bytes} {p : Pending} {b : UInt8} (h : Leads part p) (hlow : p.low ≤ b)
  (hhigh : b ≤ p.high)
include h hlow hhigh

/-- The next byte gives six more bits, and comes next in every character with these bits. -/
theorem Leads.encode_next {v : Nat} (hv : v / 64 ^ (p.more - 1) = p.bits * 64 + b.toNat % 64) :
    String.utf8EncodeChar (Char.ofNat v) = part ++ b :: tail (p.more - 1) v := by
  have hb₁ := UInt8.le_iff_toNat_le.mp hlow
  have hb₂ := UInt8.le_iff_toNat_le.mp hhigh
  have hbounds := And.intro h.low h.high
  obtain ⟨k, hk⟩ := Nat.exists_eq_add_of_lt h.more
  rw [Nat.zero_add] at hk
  rw [hk, Nat.add_sub_cancel] at hv
  have hnext : v / 64 ^ k % 64 + 0x80 = b.toNat := by omega
  have hbits : v / 64 ^ (k + 1) = p.bits := by
    rw [Nat.pow_succ, ← Nat.div_div_eq_div_mul, hv]
    omega
  have hencode := h.encode v
  rw [hk, Nat.add_sub_cancel, hnext, tail, hnext, UInt8.ofNat_toNat] at hencode
  rw [hk, Nat.add_sub_cancel]
  exact hencode hbits hb₁ hb₂

/-- One more byte of the sequence leaves it open. -/
theorem Leads.step (hmore : 1 < p.more) :
    Leads (part ++ [b]) ⟨p.bits * 64 + b.toNat % 64, p.more - 1, 0x80, 0xBF⟩ where
  more := Nat.sub_pos_of_lt hmore
  low := Nat.le_refl 0x80
  nonempty := show 0x80 ≤ 0xBF by decide
  high := Nat.le_refl 0xBF
  encode v hv _ _ := by
    rw [h.encode_next hlow hhigh hv, List.append_assoc, List.singleton_append]

/-- Every byte that may come next does so in some character. -/
theorem Leads.starts : Starts (part ++ [b]) := by
  have hpos : 0 < 64 ^ (p.more - 1) := Nat.pow_pos (by decide)
  have hencode := h.encode_next hlow hhigh
    (Nat.mul_div_cancel (p.bits * 64 + b.toNat % 64) hpos)
  exact ⟨_, _, by rw [hencode, List.append_assoc, List.singleton_append]⟩

end Next

/-- A byte that is read afresh and leaves a sequence open, with nothing read, opens it. -/
theorem Reader.start_eq_waiting {read : List Char} {b : UInt8} {p : Pending}
    (h : Reader.start read b = ⟨[], some p⟩) : read = [] ∧ Lead.ofByte b = .opening p := by
  unfold Reader.start at h
  cases hlead : Lead.ofByte b with
  | opening q =>
      rw [hlead] at h
      cases h
      exact ⟨rfl, rfl⟩
  | char c | illFormed =>
      rw [hlead] at h
      cases h

/-- Where a step leaves a sequence open, with nothing read, its byte opens the sequence or goes on
in it. -/
theorem Reader.step_eq_waiting {r : Reader} {b : UInt8} {p : Pending}
    (h : r.step b = ⟨[], some p⟩) :
    (r = ⟨[], none⟩ ∧ Lead.ofByte b = .opening p) ∨
      ∃ q : Pending, r = ⟨[], some q⟩ ∧ q.low ≤ b ∧ b ≤ q.high ∧ 1 < q.more ∧
        p = ⟨q.bits * 64 + b.toNat % 64, q.more - 1, 0x80, 0xBF⟩ := by
  obtain ⟨read, pending⟩ := r
  cases pending with
  | none =>
      obtain ⟨rfl, hlead⟩ := Reader.start_eq_waiting h
      exact .inl ⟨rfl, hlead⟩
  | some q =>
      simp only [Reader.step] at h
      split at h
      · next hmem =>
          split at h
          · cases h
          · next hmore =>
              cases h
              exact .inr ⟨q, rfl, hmem.1, hmem.2, Nat.lt_of_not_le hmore, rfl⟩
      · exact absurd (Reader.start_eq_waiting h).1 (List.cons_ne_nil _ _)

/-- Where the reader waits and has read nothing, the bytes so far have opened its sequence. The
induction is on these bytes from their end, as the reader goes on from the state before the last
of them. -/
theorem Reader.leads_of_foldl {part : Bytes} {p : Pending}
    (h : part.foldl Reader.step ⟨[], none⟩ = ⟨[], some p⟩) : Leads part p := by
  induction part using List.reverseRecOn generalizing p with
  | nil => cases h
  | append_singleton part b ih =>
      rw [List.foldl_append, List.foldl_cons, List.foldl_nil] at h
      rcases Reader.step_eq_waiting h with ⟨hstate, hlead⟩ | ⟨q, hstate, hlow, hhigh, hmore, rfl⟩
      · -- Whatever stood before the opening byte would have been read.
        have hpart : part = [] := by
          by_contra hne
          have hpos := Reader.lt_length_finish_foldl [] hne
          rw [hstate] at hpos
          exact Nat.lt_irrefl _ hpos
        rw [hpart, List.nil_append]
        exact leads_of_opening hlead
      · exact (ih hstate).step hlow hhigh hmore

/-- A byte that may stand in front of a character stands in front of some. -/
theorem starts_of_lead {b : UInt8} (h : Lead.ofByte b ≠ .illFormed) : Starts [b] := by
  cases hlead : Lead.ofByte b with
  | char c =>
      obtain ⟨hb, -⟩ := Lead.of_ofByte_eq_char hlead
      have hencode : String.utf8EncodeChar (Char.ofNat b.toNat) = [b] := by
        rw [encode_one hb, UInt8.ofNat_toNat]
      exact ⟨_, [], by rw [hencode, List.append_nil]⟩
  | opening p =>
      have hleads := leads_of_opening hlead
      exact (hleads.starts (UInt8.le_refl _) (UInt8.le_iff_toNat_le.mpr hleads.nonempty)).left
  | illFormed => exact absurd hlead h

/-! ### Reading -/

/-- What is ill-formed in front is read as one replacement, and the rest as if it stood alone. -/
theorem chars_illFormed_append {part rest : Bytes} (h : IllFormed part rest) :
    chars (part ++ rest) = replacement :: chars rest := by
  have hbehind : (⟨[replacement], none⟩ : Reader) = (⟨[], none⟩ : Reader).behind [replacement] :=
    rfl
  -- Either the reader waits behind the part and the next byte disappoints it, or the part is a
  -- single byte that opens nothing.
  by_cases hstarts : Starts part
  · obtain ⟨c, hc⟩ := hstarts
    have hproper : part ≠ String.utf8EncodeChar c := by
      rintro rfl
      exact h.no_char c (List.prefix_append _ rest)
    obtain ⟨p, hp⟩ := Reader.opened_of_start h.ne_nil hc hproper
    rw [chars, List.foldl_append, hp]
    cases rest with
    | nil => rfl
    | cons b rest =>
        have hout : ¬(p.low ≤ b ∧ b ≤ p.high) := fun hmem =>
          h.longest b rfl ((Reader.leads_of_foldl hp).starts hmem.1 hmem.2)
        have hstep : Reader.step ⟨[], some p⟩ b =
            (Reader.step ⟨[], none⟩ b).behind [replacement] := by
          simp only [Reader.step, if_neg hout]
          exact Reader.start_behind [] [replacement] b
        rw [List.foldl_cons, hstep, Reader.finish_foldl_behind]
        rfl
  · obtain ⟨b, rfl⟩ := List.length_eq_one_iff.mp (h.starts.resolve_right hstarts)
    have hlead : Lead.ofByte b = .illFormed := by
      by_contra hlead
      exact hstarts (starts_of_lead hlead)
    have hstep : Reader.step ⟨[], none⟩ b = ⟨[replacement], none⟩ := by
      simp only [Reader.step, Reader.start, hlead]
    rw [List.singleton_append, chars, List.foldl_cons, hstep, hbehind, Reader.finish_foldl_behind]
    rfl

/-- Some bytes go on until no character starts with one more. -/
theorem exists_longest {part : Bytes} (hne : part ≠ [])
    (hstarts : part.length = 1 ∨ Starts part) (rest : Bytes) :
    ∃ more rest', rest = more ++ rest' ∧
      ((part ++ more).length = 1 ∨ Starts (part ++ more)) ∧
      ∀ b ∈ rest'.head?, ¬Starts (part ++ more ++ [b]) := by
  induction rest generalizing part with
  | nil => exact ⟨[], [], rfl, by rwa [List.append_nil], by simp⟩
  | cons b rest ih =>
      by_cases hb : Starts (part ++ [b])
      · obtain ⟨more, rest', rfl, hmore, hlongest⟩ := ih (List.append_ne_nil_of_left_ne_nil hne [b])
          (.inr hb)
        rw [List.append_assoc] at hmore hlongest
        exact ⟨b :: more, rest', rfl, hmore, hlongest⟩
      · refine ⟨[], b :: rest, rfl, by rwa [List.append_nil], ?_⟩
        intro x hx
        obtain rfl : b = x := by simpa using hx
        rwa [List.append_nil]

/-- In front of any bytes stands a character or something ill-formed. -/
theorem exists_front {b : Bytes} (hne : b ≠ []) :
    (∃ c rest, b = String.utf8EncodeChar c ++ rest) ∨
      ∃ part rest, b = part ++ rest ∧ IllFormed part rest := by
  by_cases hchar : ∃ c, String.utf8EncodeChar c <+: b
  · obtain ⟨c, rest, rfl⟩ := hchar
    exact .inl ⟨c, rest, rfl⟩
  · obtain ⟨x, b, rfl⟩ := List.exists_cons_of_ne_nil hne
    obtain ⟨more, rest, rfl, hstarts, hlongest⟩ :=
      exists_longest (List.cons_ne_nil x []) (.inl rfl) b
    exact .inr ⟨x :: more, rest, rfl, fun c hc => hchar ⟨c, hc⟩, List.cons_ne_nil x more, hstarts,
      hlongest⟩

/-- **Replacement.** The reader reads bytes as the text that they stand for. -/
theorem reads_chars (b : Bytes) : Reads b (chars b) := by
  -- By the length, as what is taken from the front has one byte or several.
  induction hlength : b.length using Nat.strongRecOn generalizing b with
  | _ length ih =>
      by_cases hne : b = []
      · subst hne
        exact .nil
      · rcases exists_front hne with ⟨c, rest, rfl⟩ | ⟨part, rest, rfl, hfront⟩
        · have hpos := List.length_pos_iff.mpr (String.utf8EncodeChar_ne_nil (c := c))
          rw [List.length_append] at hlength
          rw [chars_encode_append]
          exact .char c (ih rest.length (by omega) rest rfl)
        · have hpos := List.length_pos_iff.mpr hfront.ne_nil
          rw [List.length_append] at hlength
          rw [chars_illFormed_append hfront]
          exact .replaced hfront (ih rest.length (by omega) rest rfl)

end TwinRun.Lossy
