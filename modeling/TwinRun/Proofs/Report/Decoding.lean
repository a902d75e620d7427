import TwinRun.Proofs.Diff.Hunk
import TwinRun.Proofs.Diff.Script
import TwinRun.Proofs.Report.Reading
import TwinRun.Proofs.Text.Lines

/-!
Decoding a whole report.

The lines are read from the front, with the numbers of lines that the hunk header has announced and
that are still to come: only they tell the lines of a hunk from separators and file headers. What
the lines say is then put together from the end.

* `Report.scan_of_fits`: lines that stand where they may are read back.
* `Hunk.readable_of_mem_diff`: the headers of a diff count right, and its lines are single lines.
* `Report.decode?_buffer`: the collected text determines what was reported.
-/

namespace TwinRun

/-! ### The decoder -/

/-- How many lines of either side are still to come in a hunk. -/
structure Left where
  old : Nat
  new : Nat
  deriving DecidableEq, Repr

namespace Left

/-- Outside any hunk. -/
def nothing : Left := ⟨0, 0⟩

def inHunk (left : Left) : Bool := left ≠ nothing

def after (left : Left) : ReportLine → Left
  | .header _ oldLength _ newLength => ⟨oldLength, newLength⟩
  | .body .context _ => ⟨left.old - 1, left.new - 1⟩
  | .body .removed _ => ⟨left.old - 1, left.new⟩
  | .body .added _ => ⟨left.old, left.new - 1⟩
  | _ => left

end Left

/-- What a report says of a case whose outputs differ. -/
structure Reported where
  referenceLabel : String
  candidateLabel : String
  hunks : List Hunk
  deriving DecidableEq, Repr

/-- What a report says of a comparison: nothing of a match. -/
def Comparison.reported (c : Comparison) : Option Reported :=
  if c.isMatch then none else some ⟨c.referenceLabel, c.candidateLabel, c.hunks⟩

namespace Report

/-- Reads lines from the front. -/
def scan : Left → List (List Char) → Option (List ReportLine)
  | _, [] => some []
  | left, line :: lines => do
      let item ← ReportLine.read? left.inHunk line
      let items ← scan (left.after item) lines
      some (item :: items)

/-- What the lines from some line on say: first the end of a case that began before them, then the
cases behind it. -/
structure Parts where
  missingNewline : Bool
  lines : List DiffLine
  hunks : List Hunk
  candidateLabel : String
  report : Option Reported
  cases : List (String × Option Reported)
  deriving DecidableEq, Repr

/-- What is said where a case ends. -/
def Parts.behind (cases : List (String × Option Reported)) : Parts :=
  ⟨false, [], [], "", none, cases⟩

/-- What the lines say with one more line before them. -/
def Parts.add (item : ReportLine) (p : Parts) : Parts :=
  match item with
  | .note => { p with missingNewline := true }
  | .body kind text =>
      { p with missingNewline := false, lines := ⟨kind, text, p.missingNewline⟩ :: p.lines }
  | .header oldStart oldLength newStart newLength =>
      { p with
        lines := []
        hunks := ⟨oldStart, oldLength, newStart, newLength, p.lines⟩ :: p.hunks }
  | .candidate label => { p with candidateLabel := label }
  | .reference label =>
      { p with
        hunks := []
        candidateLabel := ""
        report := some ⟨label, p.candidateLabel, p.hunks⟩ }
  | .separator name => .behind ((name, p.report) :: p.cases)

/-- Reads a report: the names of the cases and what is said of each. -/
def decode? (buffer : String) : Option (List (String × Option Reported)) :=
  (scan .nothing ((TextLine.split buffer.toList).map fun line => line.text.toList)).map fun items =>
    (items.foldr Parts.add (.behind [])).cases

end Report

/-! ### The lines of a report -/

def DiffLine.report (line : DiffLine) : List ReportLine :=
  .body line.kind line.text :: if line.missingNewline then [.note] else []

def Hunk.report (h : Hunk) : List ReportLine :=
  .header h.oldStart h.oldLength h.newStart h.newLength :: h.lines.flatMap DiffLine.report

def Comparison.report (c : Comparison) : List ReportLine :=
  if c.isMatch then []
  else .reference c.referenceLabel :: .candidate c.candidateLabel :: c.hunks.flatMap Hunk.report

theorem DiffLine.map_text_report (line : DiffLine) :
    line.report.map ReportLine.text = line.rendered.map Prod.snd := by
  rw [report, rendered]
  cases line.missingNewline <;> rfl

theorem Hunk.map_text_report (h : Hunk) :
    h.report.map ReportLine.text = h.rendered.map Prod.snd := by
  rw [report, rendered, List.map_cons, List.map_cons, List.map_flatMap, List.map_flatMap]
  simp only [DiffLine.map_text_report]
  rfl

/-- The shown lines of a comparison. -/
theorem Comparison.map_text_report (c : Comparison) :
    c.report.map ReportLine.text = c.rendered.map Prod.snd := by
  rw [report, rendered]
  split
  · rfl
  · simp only [List.map_cons, List.map_flatMap, Hunk.map_text_report]
    rfl

/-! ### Scanning -/

namespace Report

/-- Every line stands where it may, with these lines of a hunk still to come. -/
def Fits : Left → List ReportLine → Prop
  | _, [] => True
  | left, item :: items => item.MayStand left.inHunk ∧ Fits (left.after item) items

/-- Lines that stand where they may are read back. -/
theorem scan_of_fits {left : Left} {items : List ReportLine} (h : Fits left items) :
    scan left (items.map fun item => item.text.toList) = some items := by
  induction items generalizing left with
  | nil => rfl
  | cons item items ih =>
      rw [List.map_cons, scan, ReportLine.read?_text h.1, Option.bind_eq_bind, Option.bind_some,
        ih h.2]
      rfl

theorem Fits.append {left : Left} {items items' : List ReportLine} (h : Fits left items)
    (h' : Fits (items.foldl Left.after left) items') : Fits left (items ++ items') := by
  induction items generalizing left with
  | nil => exact h'
  | cons item items ih => exact ⟨h.1, ih h.2 h'⟩

end Report

open Report

def Left.ofLines (lines : List DiffLine) : Left :=
  ⟨lines.countP fun line => line.kind ≠ .added, lines.countP fun line => line.kind ≠ .removed⟩

/-- A line counts on the sides it stands on, with or without a note. -/
theorem Left.foldl_after_report (line : DiffLine) (lines : List DiffLine) :
    line.report.foldl after (ofLines (line :: lines)) = ofLines lines := by
  obtain ⟨kind, text, missingNewline⟩ := line
  cases kind <;> cases missingNewline <;> simp [DiffLine.report, after, ofLines]

theorem Left.inHunk_ofLines_cons (line : DiffLine) (lines : List DiffLine) :
    (ofLines (line :: lines)).inHunk = true := by
  obtain ⟨kind, text, missingNewline⟩ := line
  cases kind <;> simp [inHunk, ofLines, nothing]

/-- Lines that have been counted right stand inside their hunk, and the hunk ends with them. -/
theorem Report.fits_lines (lines : List DiffLine) :
    Fits (.ofLines lines) (lines.flatMap DiffLine.report) ∧
      (lines.flatMap DiffLine.report).foldl Left.after (.ofLines lines) = .nothing := by
  induction lines with
  | nil => exact ⟨trivial, rfl⟩
  | cons line lines ih =>
      -- By the lines that are left: before each, the hunk still announces at least that many.
      rw [List.flatMap_cons, List.foldl_append, Left.foldl_after_report]
      refine ⟨Fits.append ?_ ?_, ih.2⟩
      · rw [DiffLine.report]
        refine ⟨Left.inHunk_ofLines_cons line lines, ?_⟩
        split
        · exact ⟨trivial, trivial⟩
        · trivial
      · rw [Left.foldl_after_report]
        exact ih.1

/-- What a hunk must satisfy to be read back: its header counts right and its lines are single
lines. -/
structure Hunk.Readable (h : Hunk) : Prop where
  counted : Left.ofLines h.lines = ⟨h.oldLength, h.newLength⟩
  single : ∀ line ∈ h.lines, '\n' ∉ line.text.toList

/-- Between hunks a readable hunk stands where it may, and leaves nothing to come. -/
theorem Report.fits_hunk {h : Hunk} (hread : h.Readable) :
    Fits .nothing h.report ∧ h.report.foldl Left.after .nothing = .nothing := by
  obtain ⟨hfits, hend⟩ := fits_lines h.lines
  rw [hread.counted] at hfits hend
  exact ⟨⟨rfl, hfits⟩, hend⟩

theorem Report.fits_hunks {hunks : List Hunk} (hread : ∀ h ∈ hunks, h.Readable) :
    Fits .nothing (hunks.flatMap Hunk.report) ∧
      (hunks.flatMap Hunk.report).foldl Left.after .nothing = .nothing := by
  induction hunks with
  | nil => exact ⟨trivial, rfl⟩
  | cons h hunks ih =>
      obtain ⟨hh, hhunks⟩ := List.forall_mem_cons.mp hread
      obtain ⟨hfits, hend⟩ := fits_hunk hh
      obtain ⟨hfits', hend'⟩ := ih hhunks
      rw [List.flatMap_cons, List.foldl_append, hend]
      exact ⟨hfits.append (hend ▸ hfits'), hend'⟩

/-! ### Putting together -/

namespace Report

/-- The lines of a hunk come before those that are already there. -/
theorem foldr_add_lines (lines : List DiffLine) {p : Parts} (hp : p.missingNewline = false) :
    (lines.flatMap DiffLine.report).foldr Parts.add p = { p with lines := lines ++ p.lines } := by
  induction lines with
  | nil => rfl
  | cons line lines ih =>
      obtain ⟨kind, text, missingNewline⟩ := line
      rw [List.flatMap_cons, List.foldr_append, ih]
      cases missingNewline <;> simp [DiffLine.report, Parts.add, hp]

/-- So do hunks, where no line is waiting for a header. -/
theorem foldr_add_hunks (hunks : List Hunk) {p : Parts} (hp : p.missingNewline = false)
    (hlines : p.lines = []) :
    (hunks.flatMap Hunk.report).foldr Parts.add p = { p with hunks := hunks ++ p.hunks } := by
  induction hunks with
  | nil => rfl
  | cons h hunks ih =>
      rw [List.flatMap_cons, List.foldr_append, ih, Hunk.report, List.foldr_cons,
        foldr_add_lines h.lines (p := { p with hunks := hunks ++ p.hunks }) hp]
      simp [Parts.add, hlines]

def caseLines (name : String) (c : Comparison) : List ReportLine := .separator name :: c.report

/-- The lines of a case say its name and what is reported of its comparison. -/
theorem foldr_add_caseLines (name : String) (c : Comparison)
    (cases : List (String × Option Reported)) :
    (caseLines name c).foldr Parts.add (.behind cases) = .behind ((name, c.reported) :: cases) := by
  rw [caseLines, Comparison.report, Comparison.reported]
  split
  · rfl
  · rw [List.foldr_cons, List.foldr_cons, List.foldr_cons, foldr_add_hunks _ rfl rfl]
    simp [Parts.add, Parts.behind]

theorem foldr_add_flatMap_caseLines (cases : List (String × Comparison)) :
    (cases.flatMap fun (name, c) => caseLines name c).foldr Parts.add (.behind [])
      = .behind (cases.map fun (name, c) => (name, c.reported)) := by
  induction cases with
  | nil => rfl
  | cons x cases ih =>
      rw [List.flatMap_cons, List.foldr_append, ih, foldr_add_caseLines, List.map_cons]

end Report

/-! ### Hunks of a diff -/

/-- What an edit is about stands on one of the two sides. -/
theorem Edit.item_mem {α : Type} {script : List (Edit α)} {e : Edit α} (h : e ∈ script) :
    e.item ∈ olds script ∨ e.item ∈ news script := by
  cases e with
  | equal a => exact .inl (List.mem_filterMap.mpr ⟨_, h, rfl⟩)
  | delete a => exact .inl (List.mem_filterMap.mpr ⟨_, h, rfl⟩)
  | insert a => exact .inr (List.mem_filterMap.mpr ⟨_, h, rfl⟩)

/-- Shown edits count as their edits do. -/
theorem Left.ofLines_map_ofEdit (script : List (Edit Line)) :
    ofLines (script.map DiffLine.ofEdit)
      = ⟨(Edit.olds script).length, (Edit.news script).length⟩ := by
  rw [← countP_old?, ← countP_new?, ofLines, List.countP_map, List.countP_map]
  congr 1 <;>
    exact List.countP_congr fun e _ => by cases e <;> simp [DiffLine.ofEdit, Edit.old?, Edit.new?]

/-- The hunks of a diff count right, and every line of theirs is a single line, whatever the bytes
and the context. -/
theorem Hunk.readable_of_mem_diff {old new : Bytes} {context : Nat} {h : Hunk}
    (hmem : h ∈ diff old new context) : h.Readable := by
  obtain ⟨w, hw, rfl⟩ := List.mem_map.mp hmem
  obtain ⟨hstop, hlength⟩ := (windows_tile _ context).window_bounds w hw
  rw [NumberedScript.hunk_eq hstop.le hlength]
  refine ⟨Left.ofLines_map_ofEdit _, fun line hline => ?_⟩
  obtain ⟨e, he, rfl⟩ := List.mem_map.mp hline
  have hitem := Edit.item_mem (List.mem_of_mem_drop (List.mem_of_mem_take he))
  rw [Script.olds_ofLines, Script.news_ofLines] at hitem
  have hsingle : Bytes.newline ∉ e.item.text :=
    hitem.elim Line.newline_not_mem_of_mem_split Line.newline_not_mem_of_mem_split
  have htext : (DiffLine.ofEdit e).text.toList = Lossy.chars e.item.text := by
    cases e <;> simp [DiffLine.ofEdit, Edit.item, Bytes.lossy]
  rw [htext]
  exact Lossy.ascii_not_mem_chars Lossy.ascii_newline hsingle

/-! ### Reports -/

namespace Report

def calls (cases : List (String × Comparison)) : List ReportCall :=
  cases.flatMap fun (name, c) => [.separator name, .comparison c]

def buffer (cases : List (String × Comparison)) : String :=
  ((calls cases).foldl BufferSink.receive {}).buffer

/-- A case as the program reports it: names without line feeds, and the hunks of some diff. -/
structure Legible (name : String) (c : Comparison) : Prop where
  name : '\n' ∉ name.toList
  referenceLabel : '\n' ∉ c.referenceLabel.toList
  candidateLabel : '\n' ∉ c.candidateLabel.toList
  hunks : ∃ old new context, c.hunks = diff old new context

theorem Legible.readable {name : String} {c : Comparison} (h : Legible name c) :
    ∀ hunk ∈ c.hunks, hunk.Readable := by
  obtain ⟨old, new, context, hhunks⟩ := h.hunks
  rw [hhunks]
  exact fun _ => Hunk.readable_of_mem_diff

/-- Between cases the lines of a legible case stand where they may, and leave nothing to come. -/
theorem Legible.fits {name : String} {c : Comparison} (h : Legible name c) :
    Fits .nothing (caseLines name c) ∧
      (caseLines name c).foldl Left.after .nothing = .nothing := by
  obtain ⟨hfits, hend⟩ := fits_hunks h.readable
  rw [caseLines, Comparison.report]
  split
  · exact ⟨⟨rfl, trivial⟩, rfl⟩
  · exact ⟨⟨rfl, rfl, rfl, hfits⟩, hend⟩

theorem fits_flatMap_caseLines {cases : List (String × Comparison)}
    (h : ∀ x ∈ cases, Legible x.1 x.2) :
    Fits .nothing (cases.flatMap fun (name, c) => caseLines name c) := by
  induction cases with
  | nil => trivial
  | cons x cases ih =>
      obtain ⟨hx, hcases⟩ := List.forall_mem_cons.mp h
      obtain ⟨hfits, hend⟩ := hx.fits
      refine hfits.append ?_
      rw [hend]
      exact ih hcases

/-! ### The collected text -/

theorem newline_not_mem_range (start length : Nat) :
    '\n' ∉ (Hunk.range start length).toList := by
  intro h
  rcases ReportLine.isDigit_or_comma_of_mem_range h with h | h <;> simp at h

theorem newline_not_mem_hunk {h : Hunk} (hread : h.Readable) :
    ∀ item ∈ h.report, '\n' ∉ item.text.toList := by
  intro item hitem
  rcases List.mem_cons.mp hitem with rfl | hitem
  · simp [ReportLine.text, Hunk.header, newline_not_mem_range]
  · obtain ⟨line, hline, hitem⟩ := List.mem_flatMap.mp hitem
    rcases List.mem_cons.mp hitem with rfl | hitem
    · have hsingle := hread.single line hline
      cases hkind : line.kind <;> simp [ReportLine.text, LineKind.mark, hsingle]
    · split at hitem
      · obtain rfl := List.mem_singleton.mp hitem
        decide
      · cases hitem

/-- Every line of a legible case is a single line. -/
theorem Legible.newline_not_mem {name : String} {c : Comparison} (h : Legible name c) :
    ∀ item ∈ caseLines name c, '\n' ∉ item.text.toList := by
  intro item hitem
  rcases List.mem_cons.mp hitem with rfl | hitem
  · simp [ReportLine.text, separatorLine, h.name]
  · rw [Comparison.report] at hitem
    split at hitem
    · cases hitem
    · simp only [List.mem_cons, List.mem_flatMap] at hitem
      rcases hitem with rfl | rfl | ⟨hunk, hhunk, hitem⟩
      · simp [ReportLine.text, h.referenceLabel]
      · simp [ReportLine.text, h.candidateLabel]
      · exact newline_not_mem_hunk (h.readable hunk hhunk) item hitem

/-- The shown form of a comparison, character by character. -/
theorem toList_render (c : Comparison) :
    c.render.toList = c.report.flatMap fun item => item.text.toList ++ ['\n'] := by
  have hrender : c.render = String.join ((c.report.map ReportLine.text).map (· ++ "\n")) := by
    rw [Comparison.map_text_report, List.map_map]
    rfl
  rw [hrender, String.toList_join, List.flatMap_map, List.flatMap_map]
  simp

/-- The collected text is that of the lines of the cases, a line feed after each. -/
theorem toList_foldl_receive (cases : List (String × Comparison)) (sink : BufferSink) :
    ((calls cases).foldl BufferSink.receive sink).buffer.toList = sink.buffer.toList ++
      (cases.flatMap fun (name, c) => caseLines name c).flatMap
        fun item => item.text.toList ++ ['\n'] := by
  induction cases generalizing sink with
  | nil => exact (List.append_nil _).symm
  | cons x cases ih =>
      obtain ⟨name, c⟩ := x
      have hcalls : calls ((name, c) :: cases)
          = .separator name :: .comparison c :: calls cases := rfl
      rw [hcalls, List.foldl_cons, List.foldl_cons, ih, List.flatMap_cons, List.flatMap_append]
      simp [BufferSink.receive, toList_render, caseLines, ReportLine.text]

/-- **Unique decoding.** The collected text determines what has been reported: the names in order
and, for each, whether the outputs matched, and if not both labels and every hunk in full. This
holds whatever the lines of the hunks look like. -/
theorem decode?_buffer {cases : List (String × Comparison)} (h : ∀ x ∈ cases, Legible x.1 x.2) :
    decode? (buffer cases) = some (cases.map fun (name, c) => (name, c.reported)) := by
  obtain ⟨items, hitems⟩ : ∃ items, items = cases.flatMap fun (name, c) => caseLines name c :=
    ⟨_, rfl⟩
  have hsingle : ∀ w ∈ items.map fun item => item.text.toList, '\n' ∉ w := by
    intro w hw
    obtain ⟨item, hitem, rfl⟩ := List.mem_map.mp hw
    rw [hitems] at hitem
    obtain ⟨x, hx, hitem⟩ := List.mem_flatMap.mp hitem
    exact (h x hx).newline_not_mem item hitem
  -- The buffer is those lines with a line feed behind each, so cutting it gives them back.
  have htext : (buffer cases).toList
      = (items.map fun item => item.text.toList).flatMap (· ++ ['\n']) := by
    rw [buffer, toList_foldl_receive, hitems, List.flatMap_map]
    rfl
  have hlines : (TextLine.split (buffer cases).toList).map (fun line => line.text.toList)
      = items.map fun item => item.text.toList := by
    rw [htext, TextLine.split_flatMap_newline hsingle]
    simp
  -- Inside a hunk the lengths announced decide how a line is read, not its first characters.
  have hscan : scan .nothing (items.map fun item => item.text.toList) = some items :=
    scan_of_fits (hitems ▸ fits_flatMap_caseLines h)
  rw [decode?, hlines, hscan, Option.map_some, hitems, foldr_add_flatMap_caseLines]
  rfl

/-- A removed line that looks like a separator and an added one that looks like a file header. -/
theorem decode?_buffer_imitations :
    let old := Bytes.ofString "----x-----"
    let new := Bytes.ofString "++ y\n"
    let c : Comparison := ⟨"case", "ref", "cand", diff old new 3⟩
    decode? (buffer [("case", c)]) = some [("case", c.reported)] :=
  decode?_buffer fun x hx => by
    obtain rfl := List.mem_singleton.mp hx
    exact ⟨by decide, by decide, by decide, _, _, _, rfl⟩

end Report

end TwinRun
