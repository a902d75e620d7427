import Mathlib
import TwinRun.Harness
import TwinRun.Proofs.Discovery
import TwinRun.Proofs.Path
import TwinRun.Proofs.System.World
import TwinRun.Proofs.Text.Parts

/-!
Which files are cases.

A directory may be listed in any order (`Host.arranged`), in another one every time.

* `IsCase`: which names in a directory are those of cases, by the tree alone.
* `Found`: the cases of a directory are those names, each once and in order.
* `discovery_exact`: in every order, finding the cases gives the same list, the cases of one
  directory after those of another, and the harness takes those of them that the filter selects.
-/

namespace TwinRun

/-- The host, but with the entries of a directory in an order that may depend on anything. -/
def Host.arranged {σ : Type} (host : Host σ) (arrange : σ → Path → List Listed → List Listed) :
    Host σ :=
  { host with
    list := fun path s =>
      match host.list path s with
      | .ok entries s' => .ok (arrange s path entries) s'
      | .error e s' => .error e s' }

/-- The same entries in some order, or the same error. -/
def SameEntries : (shown there : Except SystemError (List Listed)) → Prop
  | .ok entries, .ok entries' => entries.Perm entries'
  | .error e, .error e' => e = e'
  | _, _ => False

/-- A system on which looking shows a world. Entries are listed in any order, and neither looking
nor telling changes more of the world than what its console shows. -/
structure Host.Shows {σ : Type} (host : Host σ) (view : σ → World) : Prop where
  note : ∀ e s, (view s).Alike (view (host.note e s))
  isDirectory : ∀ p s, host.isDirectory p s = World.leadsTo .directory p (view s)
  sameDirectory : ∀ p q s, host.sameDirectory p q s = World.sameDirectory p q (view s)
  inspect : ∀ p s, ∃ s', (host.inspect true p).attempt s
      = .ok (World.inspection (view s).files (view s).directory true p) s' ∧
    (view s).Alike (view s')
  list : ∀ p s, ∃ shown s', (host.list p).attempt s = .ok shown s' ∧
    SameEntries shown (World.listing (view s).files (view s).directory p) ∧
    (view s).Alike (view s')

/-- The world itself, however it lists its entries. -/
theorem World.shows_arranged {starter : World.Starter} {filter : Log.Filter} {overflow : Overflow}
    {arrange : World → Path → List Listed → List Listed}
    (harrange : ∀ w path entries, (arrange w path entries).Perm entries) :
    ((World.hostOf starter filter overflow).arranged arrange).Shows fun w => w where
  note := World.alike_note starter filter overflow
  isDirectory _ _ := rfl
  sameDirectory _ _ _ := rfl
  inspect p w := ⟨w, World.attempt_look (fun fs d => World.inspection fs d true p) w, .refl w⟩
  list p w := by
    have hlook : (World.hostOf starter filter overflow).list p
        = World.look fun fs d => World.listing fs d p := rfl
    cases hlisting : World.listing w.files w.directory p with
    | ok entries =>
        refine ⟨.ok (arrange w p entries), w, ?_, harrange w p entries, .refl w⟩
        simp only [Operation.attempt, Host.arranged, hlook, World.look, hlisting]
    | error e =>
        refine ⟨.error e, w, ?_, rfl, .refl w⟩
        simp only [Operation.attempt, Host.arranged, hlook, World.look, hlisting]

namespace Discovery

variable {w : World} {dir : Path} {l : Location} {extension : String} {name : Bytes}

/-! ### What a case is -/

/-- A name ends in the extension behind its last dot, and something stands before the dot. -/
structure Named (extension : String) (name : Bytes) : Prop where
  last : Bytes.dot ∉ Bytes.ofString extension
  behind : ∃ stem, stem ≠ [] ∧ name = stem ++ Bytes.dot :: Bytes.ofString extension

/-- The entry `name` of the directory at `l` is a case: a regular file of this extension, or a link
of this name whose path leads to a regular file. -/
structure IsCase (w : World) (dir : Path) (l : Location) (extension : String) (name : Bytes) :
    Prop where
  file : ∃ n, w.files.get? (l ++ [name]) = some n ∧
    (World.kindOf n = .file ∨
      World.kindOf n = .link ∧ World.leadsTo .file (dir.join ⟨name⟩) w = true)
  named : Named extension name

structure StandsFor (dir : Path) (name : Bytes) (c : Case) : Prop where
  path : c.path = dir.join ⟨name⟩
  name : Case.nameOf? c.path = some c.name

/-- The cases of a directory: none if it is not there, otherwise each once, sorted by their file
names. -/
structure Found (w : World) (extension : String) (dir : Path) (cases : List Case) : Prop where
  absent : World.leadsTo .directory dir w = false → cases = []
  present : ∀ l, w.files.find w.directory dir true = .ok (l, .directory) →
    ∃ names : List Bytes, names.Pairwise (· < ·) ∧
      (∀ name, name ∈ names ↔ IsCase w dir l extension name) ∧
      List.Forall₂ (StandsFor dir) names cases

/-! ### What is seen of an entry -/

theorem caseOf?_eq_some (ha : OrdinaryName name) {kind : EntryKind} {c : Case} :
    caseOf? extension (dir.join ⟨name⟩) kind = some c ↔
      kind = .file ∧ Named extension name ∧ StandsFor dir name c := by
  have hextension : (dir.join ⟨name⟩).extension? = some (Bytes.ofString extension) ↔
      Named extension name := by
    rw [Path.extension?, Path.fileName?_join dir ha, Option.bind_some, Path.extensionOf_eq_some]
    exact ⟨fun ⟨h, h'⟩ => ⟨h, h'⟩, fun ⟨h, h'⟩ => ⟨h, h'⟩⟩
  have hcase : Case.ofPath? (dir.join ⟨name⟩) = some c ↔ StandsFor dir name c := by
    rw [Case.ofPath?, Option.map_eq_some_iff]
    constructor
    · rintro ⟨text, htext, rfl⟩
      exact ⟨rfl, htext⟩
    · rintro ⟨hpath, hname⟩
      exact ⟨c.name, by rw [← hpath, hname], by rw [← hpath]⟩
  rw [caseOf?, ← hextension, ← hcase]
  split
  · next h => exact ⟨fun hc => ⟨h.1, h.2, hc⟩, fun hc => hc.2.2⟩
  · next h => exact ⟨fun hc => (by cases hc), fun hc => absurd ⟨hc.1, hc.2.1⟩ h⟩

/-- Every entry has a case that stands for it. -/
theorem exists_standsFor (dir : Path) (ha : OrdinaryName name) : ∃ c, StandsFor dir name c := by
  have hname : ∃ text, Case.nameOf? (dir.join ⟨name⟩) = some text := by
    rw [Case.nameOf?, Path.fileName?_join dir ha]
    exact ⟨_, rfl⟩
  obtain ⟨text, htext⟩ := hname
  exact ⟨⟨_, text⟩, rfl, htext⟩

def seen (w : World) (dir : Path) (extension : String) (entry : Listed) : Option Case :=
  match entry.kind with
  | .ok .link =>
      if World.leadsTo .file (dir.join ⟨entry.name⟩) w then
        caseOf? extension (dir.join ⟨entry.name⟩) .file
      else none
  | .ok kind => caseOf? extension (dir.join ⟨entry.name⟩) kind
  | .error _ => none

/-- A visit sees a case exactly where one is. -/
theorem seen_listed (ha : OrdinaryName name) {c : Case} :
    seen w dir extension (World.listed w.files l name) = some c ↔
      IsCase w dir l extension name ∧ StandsFor dir name c := by
  unfold seen
  cases hn : w.files.get? (l ++ [name]) with
  | none =>
      have hno : ¬IsCase w dir l extension name := by
        rintro ⟨⟨n, hn', -⟩, -⟩
        rw [hn] at hn'
        cases hn'
      simp [World.listed, hn, hno]
  | some n =>
      have hcase : IsCase w dir l extension name ↔ (World.kindOf n = .file ∨
          World.kindOf n = .link ∧ World.leadsTo .file (dir.join ⟨name⟩) w = true) ∧
          Named extension name := by
        constructor
        · rintro ⟨⟨n', hn', hkind⟩, hnamed⟩
          obtain rfl := Option.some.inj (hn.symm.trans hn')
          exact ⟨hkind, hnamed⟩
        · rintro ⟨hkind, hnamed⟩
          exact ⟨⟨n, hn, hkind⟩, hnamed⟩
      rw [hcase]
      simp only [World.listed, hn]
      cases World.kindOf n with
      | link =>
          dsimp only
          split
          · next hleads => simp [caseOf?_eq_some ha, hleads]
          · next hleads => simp [hleads]
      | file | directory | other => simp [caseOf?_eq_some ha]

/-! ### Looking at a system that shows a world -/

section Shows

variable {σ : Type} {host : Host σ} {view : σ → World} (hshows : host.Shows view) {s : σ}
include hshows

theorem finds_tell (e : Log.Event) :
    Finds (fun s s' => (view s).Alike (view s')) s (host.tell e) () :=
  fun s₁ h => ⟨host.note e s₁, rfl, h.trans (hshows.note e s₁)⟩

/-- Passing over an entry gives nothing. -/
theorem finds_skip (text : String) :
    Finds (fun s s' => (view s).Alike (view s')) s (skip host dir text) none :=
  (finds_tell hshows _).bind (.pure none)

/-- A question about the tree has one answer. -/
theorem finds_sameDirectory (p q : Path) :
    Finds (fun s s' => (view s).Alike (view s')) s (Host.ask (host.sameDirectory p q))
      (World.sameDirectory p q (view s)) := by
  refine .ask fun s₁ h => ?_
  rw [hshows.sameDirectory, World.sameDirectory, World.sameDirectory, h.files, h.directory]

theorem finds_isDirectory :
    Finds (fun s s' => (view s).Alike (view s')) s (Host.ask (host.isDirectory dir))
      (World.leadsTo .directory dir (view s)) := by
  refine .ask fun s₁ h => ?_
  rw [hshows.isDirectory, World.leadsTo, World.leadsTo, h.files, h.directory]

theorem finds_inspect (p : Path) :
    Finds (fun s s' => (view s).Alike (view s')) s (host.inspect true p).attempt
      (World.inspection (view s).files (view s).directory true p) := by
  intro s₁ h
  obtain ⟨s₂, hinspect, h'⟩ := hshows.inspect p s₁
  rw [h.files, h.directory] at hinspect
  exact ⟨s₂, hinspect, h.trans h'⟩

/-- A visit gives what is seen. -/
theorem finds_visit (entry : Listed) :
    Finds (fun s s' => (view s).Alike (view s')) s (visit host dir extension entry)
      (seen (view s) dir extension entry) := by
  have hinspect := finds_inspect hshows (s := s) (dir.join ⟨entry.name⟩)
  have hleads : World.leadsTo .file (dir.join ⟨entry.name⟩) (view s) =
      match World.inspection (view s).files (view s).directory true (dir.join ⟨entry.name⟩) with
      | .ok kind => decide (kind = .file)
      | .error _ => false := by
    rw [World.leadsTo, World.inspection]
    cases (view s).files.find (view s).directory (dir.join ⟨entry.name⟩) true <;> rfl
  unfold visit seen
  dsimp only
  cases entry.kind with
  | error e => exact finds_skip hshows _
  | ok kind =>
      cases kind with
      | link =>
          -- Only a link is followed, and what counts is what is there in the end.
          refine hinspect.bind ?_
          dsimp only
          rw [hleads]
          cases World.inspection (view s).files (view s).directory true
              (dir.join ⟨entry.name⟩) with
          | error e => exact finds_skip hshows _
          | ok kind =>
              cases kind with
              | directory =>
                  refine Finds.bind (finds_sameDirectory hshows _ _) ?_
                  split
                  · exact finds_skip hshows _
                  · exact .pure none
              | file => exact .pure _
              | link | other => exact .pure none
      | file | directory | other => exact .pure _

end Shows

/-! ### Sorting -/

def sorted (entries : List Listed) : List Listed :=
  entries.mergeSort fun a b => Bytes.le a.name b.name

theorem le_trans_bytes (a b c : Bytes) (h : Bytes.le a b = true) (h' : Bytes.le b c = true) :
    Bytes.le a c = true :=
  Bytes.le_iff.mpr (List.le_trans (Bytes.le_iff.mp h) (Bytes.le_iff.mp h'))

theorem le_total_bytes (a b : Bytes) : (Bytes.le a b || Bytes.le b a) = true := by
  rw [Bool.or_eq_true, Bytes.le_iff, Bytes.le_iff]
  exact List.le_total a b

/-- The names in a directory in their order, each once. -/
theorem pairwise_names (h : w.files.WellFormed) (l : Location) :
    ((w.files.names l).mergeSort Bytes.le).Pairwise (· < ·) := by
  have hsorted := List.pairwise_mergeSort le_trans_bytes le_total_bytes (w.files.names l)
  have hnodup : ((w.files.names l).mergeSort Bytes.le).Nodup :=
    (List.mergeSort_perm _ _).nodup_iff.mpr (Files.nodup_names h.keys l)
  refine (hsorted.and hnodup).imp fun ⟨hle, hne⟩ => ?_
  exact Std.lt_of_le_of_ne (Bytes.le_iff.mp hle) hne

/-- Sorting undoes every arrangement. -/
theorem sorted_arranged (fs : Files) (l : Location) {entries : List Listed}
    (hperm : entries.Perm ((fs.names l).map (World.listed fs l))) :
    sorted entries = ((fs.names l).mergeSort Bytes.le).map (World.listed fs l) := by
  have hname : ∀ e ∈ sorted entries, e = World.listed fs l e.name := by
    intro e he
    obtain ⟨a, -, rfl⟩ := List.mem_map.mp (hperm.mem_iff.mp (List.mem_mergeSort.mp he))
    rfl
  have hsorted : (sorted entries).Pairwise fun a b => Bytes.le a.name b.name = true :=
    List.pairwise_mergeSort (fun a b c => le_trans_bytes a.name b.name c.name)
      (fun a b => le_total_bytes a.name b.name) entries
  refine List.Perm.eq_of_pairwise ?_ hsorted ?_ ?_
  · -- Two entries of one name are the same, as the directory decides what is there.
    intro a b ha hb hab hba
    obtain ⟨c, -, rfl⟩ := List.mem_map.mp hb
    rw [hname a ha, List.le_antisymm (Bytes.le_iff.mp hab) (Bytes.le_iff.mp hba)]
    rfl
  · exact List.pairwise_map.mpr (List.pairwise_mergeSort le_trans_bytes le_total_bytes _)
  · exact (List.mergeSort_perm _ _).trans (hperm.trans ((List.mergeSort_perm _ _).symm.map _))

/-! ### The cases of a directory -/

def casesIn (w : World) (extension : String) (dir : Path) : List Case :=
  match World.listing w.files w.directory dir with
  | .ok entries => (sorted entries).filterMap (seen w dir extension)
  | .error _ => []

/-- What is found item by item stands to the items that give something as each to its own. -/
theorem forall₂_filterMap {α β : Type} {f : α → Option β} {R : α → β → Prop} {l : List α}
    (h : ∀ a ∈ l, ∀ b, f a = some b → R a b) :
    List.Forall₂ R (l.filter fun a => (f a).isSome) (l.filterMap f) := by
  induction l with
  | nil => exact .nil
  | cons a l ih =>
      obtain ⟨ha, hl⟩ := List.forall_mem_cons.mp h
      cases hf : f a with
      | none =>
          rw [List.filter_cons_of_neg (by simp [hf]), List.filterMap_cons_none hf]
          exact ih hl
      | some b =>
          rw [List.filter_cons_of_pos (by simp [hf]), List.filterMap_cons_some hf]
          exact .cons (ha b hf) (ih hl)

/-- A path that leads to a directory is that of a place with a listing. -/
theorem leadsTo_directory_iff :
    World.leadsTo .directory dir w = true ↔
      ∃ l, w.files.find w.directory dir true = .ok (l, .directory) := by
  rw [World.leadsTo]
  cases w.files.find w.directory dir true with
  | error e => simp
  | ok r =>
      obtain ⟨l, n⟩ := r
      cases n <;> simp [World.kindOf]

/-- Where no directory is, no case is. -/
theorem casesIn_of_absent (h : World.leadsTo .directory dir w = false) :
    casesIn w extension dir = [] := by
  unfold casesIn
  cases hlisting : World.listing w.files w.directory dir with
  | error e => rfl
  | ok entries =>
      obtain ⟨l, hfind, -⟩ := World.listing_eq_ok.mp hlisting
      rw [leadsTo_directory_iff.mpr ⟨l, hfind⟩] at h
      cases h

/-- The cases of a directory are seen at its entries, taken in their order. -/
theorem casesIn_of_find (h : w.files.find w.directory dir true = .ok (l, .directory)) :
    casesIn w extension dir = (((w.files.names l).mergeSort Bytes.le).map
      (World.listed w.files l)).filterMap (seen w dir extension) := by
  have hlisting := World.listing_eq_ok.mpr ⟨l, h, rfl⟩
  unfold casesIn
  rw [hlisting]
  dsimp only
  rw [sorted_arranged w.files l (.refl _)]

/-- The cases that are seen are those of the directory. -/
theorem found_casesIn (hw : w.Sound) (extension : String) (dir : Path) :
    Found w extension dir (casesIn w extension dir) where
  absent := casesIn_of_absent
  present l hfind := by
    have hordinary : ∀ name ∈ (w.files.names l).mergeSort Bytes.le, OrdinaryName name := by
      intro name hname
      obtain ⟨n, hn⟩ := Files.mem_names.mp (List.mem_mergeSort.mp hname)
      exact hw.files.ordinary hn name (by simp)
    refine ⟨((w.files.names l).mergeSort Bytes.le).filter fun name =>
        (seen w dir extension (World.listed w.files l name)).isSome,
      (pairwise_names hw.files l).filter _, fun name => ?_, ?_⟩
    · rw [List.mem_filter, Option.isSome_iff_exists]
      constructor
      · rintro ⟨hname, c, hc⟩
        exact ((seen_listed (hordinary name hname)).mp hc).1
      · intro hcase
        obtain ⟨n, hn, -⟩ := hcase.file
        have hmem := (hw.files.mem_nodes (by simp)).mpr hn
        have hname : name ∈ (w.files.names l).mergeSort Bytes.le :=
          List.mem_mergeSort.mpr (Files.mem_names.mpr ⟨n, hmem⟩)
        obtain ⟨c, hc⟩ := exists_standsFor dir (hordinary name hname)
        exact ⟨hname, c, (seen_listed (hordinary name hname)).mpr ⟨hcase, hc⟩⟩
    · rw [casesIn_of_find hfind, List.filterMap_map]
      exact forall₂_filterMap fun name hname c hc =>
        ((seen_listed (hordinary name hname)).mp hc).2

/-- A directory has one list of cases. -/
theorem Found.unique {cases cases' : List Case} (h : Found w extension dir cases)
    (h' : Found w extension dir cases') : cases = cases' := by
  cases hleads : World.leadsTo .directory dir w with
  | false => rw [h.absent hleads, h'.absent hleads]
  | true =>
      obtain ⟨l, hfind⟩ := leadsTo_directory_iff.mp hleads
      obtain ⟨names, hsorted, hmem, hstand⟩ := h.present l hfind
      obtain ⟨names', hsorted', hmem', hstand'⟩ := h'.present l hfind
      -- A sorted list is determined by what it holds.
      obtain rfl : names = names' :=
        hsorted.eq_of_mem_iff hsorted' fun name => (hmem name).trans (hmem' name).symm
      refine List.right_unique_forall₂' (fun name c c' hc hc' => ?_) hstand hstand'
      obtain ⟨path, text⟩ := c
      obtain ⟨path', text'⟩ := c'
      obtain rfl : path = path' := hc.path.trans hc'.path.symm
      obtain rfl : text = text' := Option.some.inj (hc.name.symm.trans hc'.name)
      rfl

/-! ### Finding them -/

section Shows

variable {σ : Type} {host : Host σ} {view : σ → World} (hshows : host.Shows view) {s : σ}
include hshows

/-- However a directory is listed, its cases are found. -/
theorem finds_inDirectory (dir : Path) :
    Finds (fun s s' => (view s).Alike (view s')) s (inDirectory host dir extension)
      (casesIn (view s) extension dir) := by
  refine Finds.bind (finds_isDirectory hshows) ?_
  cases hleads : World.leadsTo .directory dir (view s) with
  | false =>
      rw [casesIn_of_absent hleads]
      exact (finds_tell hshows _).bind (.pure [])
  | true =>
      obtain ⟨l, hfind⟩ := leadsTo_directory_iff.mp hleads
      have hlisting := World.listing_eq_ok.mpr ⟨l, hfind, rfl⟩
      intro s₁ h
      obtain ⟨shown, s₂, hlist, hsame, h'⟩ := hshows.list dir s₁
      rw [h.files, h.directory, hlisting] at hsame
      cases shown with
      | error e => exact absurd hsame id
      | ok entries =>
          have hvisits : Finds (fun s s' => (view s).Alike (view s')) s (do
              let cases ← (sorted entries).filterMapM (visit host dir extension)
              host.tell (.directoryScanned dir cases.length)
              return cases) ((sorted entries).filterMap (seen (view s) dir extension)) :=
            (Finds.filterMapM fun entry _ => finds_visit hshows entry).bind
              ((finds_tell hshows _).bind (.pure _))
          obtain ⟨s₃, hrun, halike⟩ := hvisits s₂ (h.trans h')
          rw [casesIn_of_find hfind, ← sorted_arranged (view s).files l hsame]
          exact ⟨s₃, (bind_of_ok hlist _).trans hrun, halike⟩

theorem finds_inDirectories (dirs : List Path) :
    Finds (fun s s' => (view s).Alike (view s')) s (inDirectories host dirs extension)
      (dirs.map (casesIn (view s) extension)).flatten :=
  (Finds.mapM fun dir _ => finds_inDirectory hshows dir).bind (.pure _)

/-- The harness finds the cases of its two directories and takes those that the filter selects. -/
theorem finds_cases (config : Config) (selection : Option String) :
    Finds (fun s s' => (view s).Alike (view s')) s (Harness.cases host config selection)
      (selectCases selection ((config.corpus.sources config.mode).map
        (casesIn (view s) config.corpus.extension)).flatten) :=
  (finds_inDirectories hshows _).bind (.pure _)

end Shows

/-- A filter takes the cases whose names hold its text, in their order. -/
theorem selectCases_eq (selection : Option String) (cases : List Case) :
    selectCases selection cases = cases.filter fun c =>
      selection.all fun text => decide (text.toList <:+: c.name.toList) := by
  cases selection with
  | none => exact (List.filter_eq_self.mpr fun _ _ => rfl).symm
  | some text =>
      refine List.filter_congr fun c _ => ?_
      rw [Option.all_some, Bool.eq_iff_iff, decide_eq_true_iff]
      exact Bytes.contains_ofString text c.name

def ownDirectory (config : Config) : Path :=
  match config.mode with
  | .lexer => config.corpus.lexer
  | .parser => config.corpus.parser

/-- The cases of the directory of the mode are found and then those of the general one, and of these
the ones are taken whose names hold the text of the filter. -/
def Selects {σ : Type} (host : Host σ) (config : Config) (selection : Option String) (s : σ)
    (selected : List Case) (s' : σ) : Prop :=
  ∃ own general s₁,
    inDirectory host (ownDirectory config) config.corpus.extension s = .ok own s₁ ∧
    inDirectory host config.corpus.general config.corpus.extension s₁ = .ok general s' ∧
    selected = (own ++ general).filter fun c =>
      selection.all fun text => decide (text.toList <:+: c.name.toList)

/-- **Finding the cases.** In every tree there is one list of cases for each directory, and finding
the cases gives these lists, one after the other, whatever order the system lists entries in. The
harness finds those of the directory of its mode and of the general one, and takes the ones whose
names hold the text of the filter. -/
theorem discovery_exact {w : World} (hw : w.Sound) :
    (∀ (dirs : List Path) (extension : String), ∃ lists : List (List Case),
      List.Forall₂ (Found w extension) dirs lists ∧
      ∀ (starter : World.Starter) (filter : Log.Filter) (overflow : Overflow)
        (arrange : World → Path → List Listed → List Listed),
        (∀ w path entries, (arrange w path entries).Perm entries) →
        ∃ w', inDirectories ((World.hostOf starter filter overflow).arranged arrange) dirs
            extension w = .ok lists.flatten w' ∧ w.Alike w') ∧
    (∀ (config : Config) (selection : Option String), ∃ own general : List Case,
      Found w config.corpus.extension
        (match config.mode with
          | .lexer => config.corpus.lexer
          | .parser => config.corpus.parser) own ∧
      Found w config.corpus.extension config.corpus.general general ∧
      ∀ (starter : World.Starter) (filter : Log.Filter) (overflow : Overflow)
        (arrange : World → Path → List Listed → List Listed),
        (∀ w path entries, (arrange w path entries).Perm entries) →
        ∃ w', Harness.cases ((World.hostOf starter filter overflow).arranged arrange) config
          selection w = .ok ((own ++ general).filter fun c =>
              selection.all fun text => decide (text.toList <:+: c.name.toList)) w' ∧
            w.Alike w') := by
  constructor
  · intro dirs extension
    refine ⟨dirs.map (casesIn w extension), ?_, fun starter filter overflow arrange harrange => ?_⟩
    · exact List.forall₂_map_right_iff.mpr (List.forall₂_same.mpr fun dir _ =>
        found_casesIn hw extension dir)
    · exact finds_inDirectories (World.shows_arranged harrange) dirs w (.refl w)
  · intro config selection
    refine ⟨_, _, found_casesIn hw _ _, found_casesIn hw _ _,
      fun starter filter overflow arrange harrange => ?_⟩
    obtain ⟨w', hrun, halike⟩ :=
      finds_cases (World.shows_arranged harrange) config selection w (.refl w)
    refine ⟨w', hrun.trans ?_, halike⟩
    rw [selectCases_eq]
    cases config.mode <;> simp [Corpus.sources]

/-- A directory with a file without a name, one whose name is no text and one that starts with a
dot, a link to a file, a link to nothing and a directory with the extension of a file. -/
def mixedScene : World where
  files :=
    { nodes :=
        [([.ofString "cases"], .directory),
          ([.ofString "cases", .ofString ".cl"], .file 0 [] false),
          ([.ofString "cases", .ofString ".neg.cl"], .file 1 [] false),
          ([.ofString "cases", .ofString "a.bak.cl"], .link (.ofString "b.cl")),
          ([.ofString "cases", .ofString "b.cl"], .file 2 [] false),
          ([.ofString "cases", .ofString "dir.cl"], .directory),
          ([.ofString "cases", .ofString "gone.cl"], .link (.ofString "nowhere")),
          ([.ofString "cases", 0xFF :: Bytes.ofString ".cl"], .file 3 [] false)]
      nextIdentity := 4 }
  directory := []

def mixedCases : List Case :=
  [⟨.ofString "cases/.neg.cl", ""⟩, ⟨.ofString "cases/a.bak.cl", "a"⟩,
    ⟨.ofString "cases/b.cl", "b"⟩,
    ⟨⟨Bytes.ofString "cases/" ++ 0xFF :: Bytes.ofString ".cl"⟩, "\uFFFD"⟩]

theorem discovery_exact_mixed :
    mixedScene.Sound ∧ ∀ (starter : World.Starter) (filter : Log.Filter) (overflow : Overflow),
      ∃ w', inDirectories ((World.hostOf starter filter overflow).arranged fun _ _ => List.reverse)
        [.ofString "cases", .ofString "none", .ofString "cases"] "cl" mixedScene
          = .ok (mixedCases ++ mixedCases) w' := by
  have hsound : mixedScene.Sound := by decide
  have hseen : casesIn mixedScene "cl" (.ofString "cases") = mixedCases := by
    rw [casesIn_of_find (l := [.ofString "cases"]) (by rfl)]
    rw [List.mergeSort_of_pairwise (by decide)]
    decide
  have hnone : casesIn mixedScene "cl" (.ofString "none") = [] := casesIn_of_absent (by decide)
  refine ⟨hsound, fun starter filter overflow => ?_⟩
  obtain ⟨lists, hfound, hfind⟩ := (discovery_exact hsound).1
    [.ofString "cases", .ofString "none", .ofString "cases"] "cl"
  obtain ⟨cases, rest, hcases, hrest, rfl⟩ := List.forall₂_cons_left_iff.mp hfound
  obtain ⟨none', rest', hnone', hrest', rfl⟩ := List.forall₂_cons_left_iff.mp hrest
  obtain ⟨cases', rest'', hcases', hrest'', rfl⟩ := List.forall₂_cons_left_iff.mp hrest'
  obtain rfl := List.forall₂_nil_left_iff.mp hrest''
  rw [hcases.unique (found_casesIn hsound _ _), hnone'.unique (found_casesIn hsound _ _),
    hcases'.unique (found_casesIn hsound _ _), hseen, hnone] at hfind
  obtain ⟨w', hrun, -⟩ := hfind starter filter overflow (fun _ _ => List.reverse)
    fun _ _ entries => List.reverse_perm entries
  exact ⟨w', hrun⟩

end Discovery

end TwinRun
