import Mathlib
import TwinRun.Proofs.Report.Reading
import TwinRun.Report.Console

/-!
The two receivers of a report agree.

A terminal is modelled by the appearance in force: a graphic rendition sequence changes it and shows
nothing, and every other character is shown in it.

* `Console.painted_line`: a line in colour is shown in its own look, and its end is plain again.
* `Console.painted_lines`: so the lines of a report are shown each in its look, whatever line stands
  before it.
* `Console.shown_agrees`: without colour the console shows what the buffer collects, and in colour
  what remains without the sequences.
-/

namespace TwinRun.Console

/-! ### A terminal -/

def Colour.ofCode? (code : Nat) : Option Colour :=
  [red, green, yellow, cyan].find? fun c => c.code == code

def Appearance.after (a : Appearance) : (code : Nat) → Appearance
  | 0 => {}
  | 1 => { a with bold := true }
  | 2 => { a with dimmed := true }
  | code => { a with colour := (Colour.ofCode? code).or a.colour }

theorem Appearance.after_code (a : Appearance) (c : Colour) :
    a.after c.code = { a with colour := some c } := by
  cases c <;> rfl

/-- A graphic rendition sequence in front of a text: an escape character, a bracket, digits and the
letter m. Gives its code and what stands behind it. -/
def sequence? : List Char → Option (Nat × List Char)
  | '\x1b' :: '[' :: cs =>
      match ReportLine.readNumber? cs with
      | some (code, 'm' :: rest) => some (code, rest)
      | _ => none
  | _ => none

theorem length_lt_of_sequence? {cs rest : List Char} {code : Nat}
    (h : sequence? cs = some (code, rest)) : rest.length < cs.length := by
  unfold sequence? at h
  split at h
  · next cs =>
      split at h
      · next hnumber =>
          cases h
          obtain ⟨n, -, hrest⟩ := Option.map_eq_some_iff.mp hnumber
          have hle := (List.dropWhile_suffix (l := cs) Char.isDigit).length_le
          rw [(Prod.mk.inj hrest).2] at hle
          simp only [List.length_cons] at hle ⊢
          omega
      · cases h
  · cases h

/-- The characters that are shown, each in the appearance in force. -/
def painted (a : Appearance) (cs : List Char) : List (Char × Appearance) :=
  match _hsequence : sequence? cs with
  | some (code, rest) => painted (a.after code) rest
  | none =>
      match cs with
      | [] => []
      | c :: cs => (c, a) :: painted a cs
termination_by cs.length
decreasing_by
  · exact length_lt_of_sequence? _hsequence
  · exact Nat.lt_succ_self _

/-- A text with every graphic rendition sequence deleted. -/
def plain (text : String) : String := String.ofList ((painted {} text.toList).map Prod.fst)

variable {a : Appearance}

/-! ### What the terminal shows -/

@[simp] theorem painted_nil : painted a [] = [] := by
  rw [painted]
  rfl

theorem painted_of_sequence {cs rest : List Char} {code : Nat}
    (h : sequence? cs = some (code, rest)) : painted a cs = painted (a.after code) rest := by
  rw [painted]
  split
  · next hsequence =>
      rw [h] at hsequence
      cases hsequence
      rfl
  · next hsequence =>
      rw [h] at hsequence
      cases hsequence

theorem sequence?_of_ne {c : Char} (h : c ≠ '\x1b') (cs : List Char) :
    sequence? (c :: cs) = none := by
  unfold sequence?
  split
  · next heq => exact absurd (List.cons.inj heq).1 h
  · rfl

theorem painted_of_ne {c : Char} (h : c ≠ '\x1b') (cs : List Char) :
    painted a (c :: cs) = (c, a) :: painted a cs := by
  rw [painted]
  split
  · next hsequence =>
      rw [sequence?_of_ne h] at hsequence
      cases hsequence
  · rfl

/-- A text without escape characters is shown as it is. -/
theorem painted_text {cs : List Char} (h : '\x1b' ∉ cs) (rest : List Char) :
    painted a (cs ++ rest) = cs.map (·, a) ++ painted a rest := by
  induction cs with
  | nil => rfl
  | cons c cs ih =>
      obtain ⟨hc, hcs⟩ := not_or.mp (mt List.mem_cons.mpr h)
      rw [List.cons_append, painted_of_ne (Ne.symm hc), ih hcs, List.map_cons, List.cons_append]

/-- A sequence changes the appearance and shows nothing. -/
theorem painted_escape (code : Nat) (rest : List Char) :
    painted a ((escape code).toList ++ rest) = painted (a.after code) rest := by
  have hescape : (escape code).toList ++ rest
      = '\x1b' :: '[' :: (Decimal.digits code ++ 'm' :: rest) := by
    simp [escape, Decimal.text]
  have hsequence : sequence? ('\x1b' :: '[' :: (Decimal.digits code ++ 'm' :: rest))
      = some (code, rest) := by
    simp only [sequence?, ReportLine.readNumber?_digits code (c := 'm') (by decide)]
  rw [hescape, painted_of_sequence hsequence]

/-- The sequences of a look put it in force, whatever was in force before. -/
theorem painted_start (look : Appearance) (rest : List Char) :
    painted a (look.start.toList ++ rest) = painted look rest := by
  obtain ⟨bold, dimmed, colour⟩ := look
  simp only [Appearance.start, reset, String.toList_append, List.append_assoc, painted_escape]
  cases bold <;> cases dimmed <;> cases colour <;>
    simp [painted_escape, Appearance.after_code] <;> rfl

/-- The characters of a line in its own look, and a line feed in none. -/
def ownLook (look : Option Appearance) (text : String) : List (Char × Appearance) :=
  text.toList.map (·, look.getD {}) ++ [⟨'\n', {}⟩]

/-- A line in colour is shown in its own look, and nothing of it stays in force. -/
theorem painted_line (look : Option Appearance) {text : String} (h : '\x1b' ∉ text.toList)
    (rest : List Char) : painted {} ((line .always look text).toList ++ rest)
      = ownLook look text ++ painted {} rest := by
  have hstart : ∀ cs, painted {} (((look.map Appearance.start).getD "").toList ++ cs)
      = painted (look.getD {}) cs := by
    intro cs
    cases look with
    | none => rfl
    | some look => exact painted_start look cs
  have hend : ∀ a, painted a (reset.toList ++ '\n' :: rest) = ('\n', {}) :: painted {} rest := by
    intro a
    rw [reset, painted_escape, painted_of_ne (by decide)]
    rfl
  have hline : (line .always look text).toList ++ rest
      = ((look.map Appearance.start).getD "").toList
        ++ (text.toList ++ (reset.toList ++ '\n' :: rest)) := by
    simp [line]
  rw [hline, hstart, painted_text h, hend, ownLook, List.append_assoc, List.singleton_append]

/-! ### Lines -/

def lines : ReportCall → List (Option Appearance × String)
  | .separator name => [(some separatorAppearance, separatorLine name)]
  | .comparison c => c.rendered.map fun (style, text) => (appearance style, text)

theorem output_eq (choice : ColourChoice) (call : ReportCall) :
    output choice call = String.join ((lines call).map fun l => line choice l.1 l.2) := by
  cases call with
  | separator name => simp [lines, output, String.join_cons]
  | comparison c =>
      rw [lines, List.map_map]
      rfl

theorem receive_eq (sink : BufferSink) (call : ReportCall) : (sink.receive call).buffer
    = sink.buffer ++ String.join ((lines call).map fun l => l.2 ++ "\n") := by
  cases call with
  | separator name =>
      simp [lines, BufferSink.receive, String.join_cons, String.append_assoc]
  | comparison c =>
      rw [lines, List.map_map]
      rfl

/-- The names, labels and lines of a call hold no escape character. -/
def Escapeless : ReportCall → Prop
  | .separator name => '\x1b' ∉ name.toList
  | .comparison c => '\x1b' ∉ c.referenceLabel.toList ∧ '\x1b' ∉ c.candidateLabel.toList ∧
      ∀ h ∈ c.hunks, ∀ l ∈ h.lines, '\x1b' ∉ l.text.toList

instance : DecidablePred Escapeless := fun call => by
  cases call <;> unfold Escapeless <;> infer_instance

theorem escape_not_mem_header (h : Hunk) : '\x1b' ∉ h.header.toList := by
  have hrange : ∀ start length, '\x1b' ∉ (Hunk.range start length).toList := by
    intro start length hmem
    rcases ReportLine.isDigit_or_comma_of_mem_range hmem with hmem | hmem <;> simp at hmem
  simp [Hunk.header, hrange]

theorem escape_not_mem_rendered {l : DiffLine} (h : '\x1b' ∉ l.text.toList) :
    ∀ shown ∈ l.rendered, '\x1b' ∉ shown.2.toList := by
  intro shown hshown
  rcases List.mem_cons.mp hshown with rfl | hnote
  · cases hkind : l.kind <;> simp [LineKind.mark, h]
  · split at hnote
    · obtain rfl := List.mem_singleton.mp hnote
      decide
    · cases hnote

/-- What is shown then holds none, either. -/
theorem Escapeless.not_mem {call : ReportCall} (h : Escapeless call) :
    ∀ l ∈ lines call, '\x1b' ∉ l.2.toList := by
  cases call with
  | separator name =>
      intro l hl
      obtain rfl := List.mem_singleton.mp hl
      have hname : '\x1b' ∉ name.toList := h
      simp [separatorLine, hname]
  | comparison c =>
      obtain ⟨hreference, hcandidate, hhunks⟩ := h
      intro l hl
      obtain ⟨shown, hshown, rfl⟩ := List.mem_map.mp hl
      rw [Comparison.rendered] at hshown
      split at hshown
      · cases hshown
      · simp only [List.mem_cons, List.mem_flatMap] at hshown
        rcases hshown with rfl | rfl | ⟨hunk, hhunk, hshown⟩
        · simp [hreference]
        · simp [hcandidate]
        rcases List.mem_cons.mp hshown with rfl | hshown
        · exact escape_not_mem_header hunk
        · obtain ⟨d, hd, hshown⟩ := List.mem_flatMap.mp hshown
          exact escape_not_mem_rendered (hhunks hunk hhunk d hd) shown hshown

/-! ### A whole report -/

def shown (choice : ColourChoice) (calls : List ReportCall) : String :=
  String.join (calls.map (output choice))

/-- The lines of all calls are shown in order. -/
theorem shown_eq (choice : ColourChoice) (calls : List ReportCall) :
    shown choice calls = String.join ((calls.flatMap lines).map fun l => line choice l.1 l.2) := by
  rw [shown, funext (output_eq choice)]
  induction calls with
  | nil => rfl
  | cons call calls ih =>
      rw [List.map_cons, String.join_cons, ih, List.flatMap_cons, List.map_append,
        String.join_append]

/-- The buffer collects the texts of the lines, a line feed after each. -/
theorem buffer_eq (calls : List ReportCall) (sink : BufferSink) :
    (calls.foldl BufferSink.receive sink).buffer
      = sink.buffer ++ String.join ((calls.flatMap lines).map fun l => l.2 ++ "\n") := by
  induction calls generalizing sink with
  | nil => exact String.append_empty.symm
  | cons call calls ih =>
      rw [List.foldl_cons, ih, receive_eq, List.flatMap_cons, List.map_append, String.join_append,
        String.append_assoc]

/-- Lines in colour are shown each in its own look: none of them reaches into the next one. -/
theorem painted_lines {ls : List (Option Appearance × String)}
    (h : ∀ l ∈ ls, '\x1b' ∉ l.2.toList) :
    painted {} (String.join (ls.map fun l => line .always l.1 l.2)).toList
      = ls.flatMap fun l => ownLook l.1 l.2 := by
  induction ls with
  | nil => exact painted_nil
  | cons l ls ih =>
      obtain ⟨hl, hls⟩ := List.forall_mem_cons.mp h
      rw [List.map_cons, String.join_cons, String.toList_append, painted_line l.1 hl, ih hls,
        List.flatMap_cons]

/-- **The two receivers agree.** Without colour the console shows exactly what the buffer collects.
In colour each line ends in a reset and its line feed; and if no name, label or line holds an escape
character, deleting the graphic rendition sequences leaves what the buffer collects, and the
characters of each line are shown in the look of this line alone, with nothing left in force at its
end. -/
theorem shown_agrees (calls : List ReportCall) :
    let buffer := (calls.foldl BufferSink.receive {}).buffer
    shown .never calls = buffer ∧
      shown .always calls = String.join ((calls.flatMap lines).map fun l =>
        (l.1.map Appearance.start).getD "" ++ l.2 ++ reset ++ "\n") ∧
      ((∀ call ∈ calls, Escapeless call) → plain (shown .always calls) = buffer ∧
        painted {} (shown .always calls).toList
          = (calls.flatMap lines).flatMap fun l => ownLook l.1 l.2) := by
  intro buffer
  have hbuffer : buffer = String.join ((calls.flatMap lines).map fun l => l.2 ++ "\n") :=
    (buffer_eq calls {}).trans String.empty_append
  refine ⟨(shown_eq .never calls).trans hbuffer.symm, shown_eq .always calls, fun hcalls => ?_⟩
  have hlines : ∀ l ∈ calls.flatMap lines, '\x1b' ∉ l.2.toList := by
    intro l hl
    obtain ⟨call, hcall, hl⟩ := List.mem_flatMap.mp hl
    exact (hcalls call hcall).not_mem l hl
  have hpainted := painted_lines hlines
  rw [← shown_eq] at hpainted
  refine ⟨?_, hpainted⟩
  rw [plain, hpainted, hbuffer, ← String.toList_inj, String.toList_ofList, String.toList_join,
    List.flatMap_map, List.map_flatMap]
  simp [ownLook, Function.comp_def]

/-- A case whose name and lines go on where a sequence could, and a match after it. -/
def imitation : List ReportCall :=
  [.separator "[0m",
    .comparison ⟨"[0m", "1m", "[2m", [⟨1, 1, 0, 0, [⟨.removed, "31m", true⟩]⟩]⟩,
    .separator "b", .comparison ⟨"b", "r", "c", []⟩]

theorem shown_agrees_imitation :
    let report := "-----[0m-----\n--- 1m\n+++ [2m\n@@ -1 +0,0 @@\n-31m\n"
      ++ "\\ No newline at end of file\n-----b-----\n"
    shown .never imitation = report ∧ plain (shown .always imitation) = report := by
  intro report
  have hbuffer : (imitation.foldl BufferSink.receive {}).buffer = report := by cbv
  obtain ⟨hnever, -, halways⟩ := shown_agrees imitation
  exact ⟨hnever.trans hbuffer, (halways (by decide)).1.trans hbuffer⟩

end TwinRun.Console
