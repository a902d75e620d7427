import TwinRun.Proofs.System.Store

/-!
Walks through a tree of files.

* `Files.walk_eq_ok`: all that a walk can do, name by name (`Files.Walks`); what is said of walks
  follows by going through these cases.
* `Files.resolve_reached`: what a path leads to in a well-formed tree is there, or is missing in a
  directory that is there.
* `Files.find_map`, `Files.find_mono`: a path that leads somewhere leads to the same place in a
  tree with changed files or more entries.
* `Files.find_fill`: a path that leads to a free place leads to what is put there.
* `Files.resolve_join`: an entry of a directory is reached through any path of the directory.
-/

namespace TwinRun.Files

variable {fs fs' : Files}

/-! ### Names of a path -/

/-- The names of a path, without the empty one that a slash at the end leaves. -/
def steps (path : Bytes) : List Bytes := (Bytes.splitOn Bytes.slash path).filter (· ≠ [])

theorem namesOf_eq (path : Bytes) :
    ∃ tail, (tail = [] ∨ tail = [[]]) ∧ namesOf path = steps path ++ tail := by
  unfold namesOf
  dsimp only
  split
  · exact ⟨[[]], .inr rfl, rfl⟩
  · exact ⟨[], .inl rfl, (List.append_nil _).symm⟩

/-- No name of a path holds a slash. -/
theorem slash_not_mem_of_mem_namesOf {path name : Bytes} (h : name ∈ namesOf path) :
    Bytes.slash ∉ name := by
  obtain ⟨tail, htail, hnames⟩ := namesOf_eq path
  rw [hnames] at h
  rcases List.mem_append.mp h with h | h
  · exact Bytes.not_mem_of_mem_splitOn (List.mem_of_mem_filter h)
  · rcases htail with rfl | rfl
    · cases h
    · rw [List.mem_singleton.mp h]
      exact List.not_mem_nil

/-- The names of the path of an entry are those of its directory and its own. -/
theorem namesOf_join {p : Path} (hp : p.bytes ≠ []) {a : Bytes} (ha : OrdinaryName a) :
    namesOf (p.join ⟨a⟩).bytes = steps p.bytes ++ [a] := by
  have hlast : (p.join ⟨a⟩).bytes.getLast? ≠ some Bytes.slash := by
    have h := Path.endsInSlash_join hp ha
    rwa [Path.endsInSlash, beq_eq_false_iff_ne] at h
  have hown : [a].filter (· ≠ []) = [a] := by simp [ha.ne_nil]
  unfold namesOf
  rw [if_neg fun h => hlast h.1]
  rcases Path.bytes_join hp ha with ⟨q, hq, hjoin⟩ | ⟨-, hjoin⟩
  · rw [hjoin, steps, hq, Bytes.splitOn_append_cons, Bytes.splitOn_append_cons,
      Bytes.splitOn_eq_singleton ha.slash_not_mem, List.filter_append, List.filter_append, hown]
    simp [Bytes.splitOn]
  · rw [hjoin, steps, Bytes.splitOn_append_cons, Bytes.splitOn_eq_singleton ha.slash_not_mem,
      List.filter_append, hown]

/-! ### One name -/

/-- A name that a walk looks up in a directory. -/
structure EntryName (name : Bytes) : Prop where
  not_skipped : ¬ (name = [] ∨ name = Path.currentName)
  ne_parent : name ≠ Path.parentName
  length_le : ¬ name.length > maxName

theorem EntryName.ordinary {name : Bytes} (h : EntryName name) (hslash : Bytes.slash ∉ name) :
    OrdinaryName name :=
  ⟨fun hnil => h.not_skipped (.inl hnil), fun hcur => h.not_skipped (.inr hcur), h.ne_parent,
    hslash⟩

theorem OrdinaryName.entryName {name : Bytes} (h : OrdinaryName name)
    (hlength : name.length ≤ maxName) : EntryName name :=
  ⟨fun hskip => hskip.elim h.ne_nil h.ne_current, h.ne_parent, Nat.not_lt.mpr hlength⟩

/-- A name leads from a directory to a directory. -/
inductive Leads (fs : Files) (l : Location) (name : Bytes) : Location → Prop
  | stay (h : name = [] ∨ name = Path.currentName) : Leads fs l name l
  | up (hskip : ¬ (name = [] ∨ name = Path.currentName)) (h : name = Path.parentName) :
      Leads fs l name l.dropLast
  | down (hname : EntryName name) (h : fs.get? (l ++ [name]) = some .directory) :
      Leads fs l name (l ++ [name])

theorem Leads.mono {l l' : Location} {name : Bytes} (hleads : fs.Leads l name l')
    (h : EntryName name → fs.get? (l ++ [name]) = some .directory →
      fs'.get? (l ++ [name]) = some .directory) : fs'.Leads l name l' := by
  cases hleads with
  | stay hskip => exact .stay hskip
  | up hskip hparent => exact .up hskip hparent
  | down hname hdirectory => exact .down hname (h hname hdirectory)

def linkStart (l : Location) (target : Bytes) : Location :=
  if target.head? = some Bytes.slash then [] else l

/-- How a walk along names that follows at most so many links ends well. -/
inductive Walks (fs : Files) (follow : Bool) : Nat → Location → List Bytes → Place → Prop
  | stop {links : Nat} {l : Location} : Walks fs follow links l [] (.found l .directory)
  | on {links : Nat} {l l' : Location} {name : Bytes} {rest : List Bytes} {place : Place}
      (h : fs.Leads l name l') (hrest : Walks fs follow links l' rest place) :
      Walks fs follow links l (name :: rest) place
  | free {links : Nat} {l : Location} {name : Bytes} {rest : List Bytes} (slash : Bool)
      (hname : EntryName name) (h : fs.get? (l ++ [name]) = none)
      (hend : rest = if slash then [[]] else []) :
      Walks fs follow links l (name :: rest) (.free (l ++ [name]) slash)
  | last {links : Nat} {l : Location} {name : Bytes} {n : FileNode} (hname : EntryName name)
      (h : fs.get? (l ++ [name]) = some n) (hdirectory : n ≠ .directory)
      (hlink : follow = true → ∀ target, n ≠ .link target) :
      Walks fs follow links l [name] (.found (l ++ [name]) n)
  | jump {links : Nat} {l : Location} {name target : Bytes} {rest : List Bytes} {place : Place}
      (hname : EntryName name) (h : fs.get? (l ++ [name]) = some (.link target))
      (hend : ¬ (rest = [] ∧ ¬ follow)) (htarget : target ≠ [])
      (hrest : Walks fs follow links (linkStart l target) (namesOf target ++ rest) place) :
      Walks fs follow (links + 1) l (name :: rest) place

section Walks

variable {follow : Bool} {l : Location} {name : Bytes} {rest : List Bytes}

theorem walk_eq_descend (fs : Files) (follow : Bool) (links : Nat) :
    ∃ jump, walk fs follow links = descend fs follow jump := by
  cases links <;> exact ⟨_, rfl⟩

theorem walk_leads {l' : Location} (h : fs.Leads l name l') (links : Nat) :
    walk fs follow links l (name :: rest) = walk fs follow links l' rest := by
  obtain ⟨jump, hwalk⟩ := walk_eq_descend fs follow links
  rw [hwalk, descend]
  cases h with
  | stay h => rw [if_pos h]
  | up hskip h => rw [if_neg hskip, if_pos h]
  | down hname h =>
      rw [if_neg hname.not_skipped, if_neg hname.ne_parent, if_neg hname.length_le]
      simp only [h]

theorem walk_jump {target : Bytes} (hname : EntryName name)
    (h : fs.get? (l ++ [name]) = some (.link target)) (hend : ¬ (rest = [] ∧ ¬ follow))
    (htarget : target ≠ []) (links : Nat) : walk fs follow (links + 1) l (name :: rest)
      = walk fs follow links (linkStart l target) (namesOf target ++ rest) := by
  rw [walk, descend, if_neg hname.not_skipped, if_neg hname.ne_parent, if_neg hname.length_le]
  simp only [h]
  rw [if_neg hend, if_neg htarget, linkStart]

theorem walk_free (hname : EntryName name) (h : fs.get? (l ++ [name]) = none) (slash : Bool)
    (links : Nat) : walk fs follow links l (name :: if slash then [[]] else [])
      = .ok (.free (l ++ [name]) slash) := by
  obtain ⟨jump, hwalk⟩ := walk_eq_descend fs follow links
  rw [hwalk, descend, if_neg hname.not_skipped, if_neg hname.ne_parent, if_neg hname.length_le]
  simp only [h]
  cases slash <;> rfl

theorem walk_last {n : FileNode} (hname : EntryName name) (h : fs.get? (l ++ [name]) = some n)
    (hlink : follow = true → ∀ target, n ≠ .link target) (links : Nat) :
    walk fs follow links l [name] = .ok (.found (l ++ [name]) n) := by
  obtain ⟨jump, hwalk⟩ := walk_eq_descend fs follow links
  rw [hwalk, descend, if_neg hname.not_skipped, if_neg hname.ne_parent, if_neg hname.length_le]
  simp only [h]
  cases n with
  | directory => rfl
  | link target => exact if_pos ⟨trivial, fun hfollow => hlink hfollow target rfl⟩
  | _ => rfl

/-- Between two links, a walk goes from name to name. -/
theorem walks_of_descend {jump : Location → List Bytes → Except SystemError Place} {links : Nat}
    (hjump : ∀ {l ns place}, jump l ns = .ok place →
      ∃ left, links = left + 1 ∧ fs.Walks follow left l ns place)
    {ns : List Bytes} {place : Place} (hwalk : descend fs follow jump l ns = .ok place) :
    fs.Walks follow links l ns place := by
  -- By the names that are left; each way `descend` can go on or end is one step of `Walks`, and
  -- only a link that is followed leaves the induction, through `jump`.
  induction ns generalizing l with
  | nil =>
      cases hwalk
      exact .stop
  | cons name rest ih =>
      rw [descend] at hwalk
      split at hwalk
      · next hskip => exact .on (.stay hskip) (ih hwalk)
      next hskip =>
      split at hwalk
      · next hparent => exact .on (.up hskip hparent) (ih hwalk)
      next hparent =>
      split at hwalk
      · cases hwalk
      next hlength =>
      -- The name is looked up from here on: nothing, a directory, a link or any other entry.
      have hname : EntryName name := ⟨hskip, hparent, hlength⟩
      dsimp only at hwalk
      split at hwalk
      · next hnone =>
          split at hwalk
          · next hend =>
              cases hwalk
              exact .free false hname hnone hend
          · split at hwalk
            · next hend =>
                cases hwalk
                exact .free true hname hnone hend
            · cases hwalk
      · next hdirectory => exact .on (.down hname hdirectory) (ih hwalk)
      · next target hlink =>
          split at hwalk
          · next hend =>
              obtain ⟨rfl, hfollow⟩ := hend
              cases hwalk
              exact .last hname hlink FileNode.noConfusion fun h => absurd h hfollow
          next hend =>
          split at hwalk
          · cases hwalk
          · next htarget =>
              obtain ⟨left, rfl, hrest⟩ := hjump hwalk
              exact .jump hname hlink hend htarget hrest
      · next n hdirectory hlink hnode =>
          split at hwalk
          · next hend =>
              subst hend
              cases hwalk
              exact .last hname hnode hdirectory fun _ => hlink
          · cases hwalk

/-- All that a walk can do. -/
theorem walk_eq_ok {links : Nat} {ns : List Bytes} {place : Place} :
    walk fs follow links l ns = .ok place ↔ fs.Walks follow links l ns place := by
  constructor
  · intro hwalk
    -- The links that may still be followed bound the jumps; with none left there is no jump.
    induction links generalizing l ns place with
    | zero => exact walks_of_descend (fun hjump => by cases hjump) hwalk
    | succ links ih => exact walks_of_descend (fun hjump => ⟨links, rfl, ih hjump⟩) hwalk
  · intro hwalk
    induction hwalk with
    | @stop links l => cases links <;> rfl
    | on hleads _ ih => rw [walk_leads hleads, ih]
    | free slash hname hnone hend => rw [hend, walk_free hname hnone]
    | last hname hn _ hlink => exact walk_last hname hn hlink _
    | jump hname hlink hend htarget _ ih => rw [walk_jump hname hlink hend htarget, ih]

end Walks

/-! ### Where a walk ends -/

/-- What a walk has found is there; what it has not found is missing in a directory. -/
def Reached (fs : Files) : Place → Prop
  | .found x n => fs.get? x = some n
  | .free x _ => ∃ y a, x = y ++ [a] ∧ fs.get? y = some .directory ∧ fs.get? x = none ∧
      OrdinaryName a

/-- The directory above a directory is one. -/
theorem WellFormed.get?_dropLast (h : fs.WellFormed) {x : Location}
    (hx : fs.get? x = some .directory) : fs.get? x.dropLast = some .directory := by
  rcases List.eq_nil_or_concat x with rfl | ⟨y, a, rfl⟩
  · exact hx
  · rw [List.concat_eq_append] at hx ⊢
    rw [List.dropLast_concat]
    exact h.parent ((h.mem_nodes (by simp)).mpr hx)

theorem Leads.directory (h : fs.WellFormed) {l l' : Location} {name : Bytes}
    (hleads : fs.Leads l name l') (hl : fs.get? l = some .directory) :
    fs.get? l' = some .directory := by
  cases hleads with
  | stay => exact hl
  | up => exact h.get?_dropLast hl
  | down _ hdirectory => exact hdirectory

theorem Walks.reached (h : fs.WellFormed) {follow : Bool} {links : Nat} {ns : List Bytes}
    {l : Location} {place : Place} (hwalk : fs.Walks follow links l ns place)
    (hl : fs.get? l = some .directory) (hns : ∀ a ∈ ns, Bytes.slash ∉ a) : fs.Reached place := by
  -- The walk is in a directory at every step, behind a link as well.
  induction hwalk with
  | stop => exact hl
  | on hleads _ ih => exact ih (hleads.directory h hl) (List.forall_mem_cons.mp hns).2
  | @free _ l name _ _ hname hnone _ =>
      exact ⟨l, name, rfl, hl, hnone, hname.ordinary (List.forall_mem_cons.mp hns).1⟩
  | last _ hn => exact hn
  | jump _ _ _ _ _ ih =>
      refine ih ?_ ?_
      · unfold linkStart
        split
        · rfl
        · exact hl
      · intro a ha
        rcases List.mem_append.mp ha with ha | ha
        · exact slash_not_mem_of_mem_namesOf ha
        · exact (List.forall_mem_cons.mp hns).2 a ha

def pathStart (d : Location) (p : Path) : Location := if p.isAbsolute then [] else d

/-- Where a path leads, spelled out. -/
theorem resolve_eq_ok {d : Location} {p : Path} {follow : Bool} {place : Place} :
    fs.resolve d p follow = .ok place ↔ checkPath p = .ok () ∧
      fs.Walks follow maxLinks (pathStart d p) (namesOf p.bytes) place := by
  rw [← walk_eq_ok, pathStart]
  unfold resolve
  cases checkPath p with
  | error e => exact iff_of_false (fun h => by cases h) (fun h => by cases h.1)
  | ok _ => exact ⟨fun h => ⟨rfl, h⟩, fun h => h.2⟩

/-- What a path has been found to lead to, spelled out. -/
theorem find_eq_ok {d : Location} {p : Path} {follow : Bool} {x : Location} {n : FileNode} :
    fs.find d p follow = .ok (x, n) ↔ fs.resolve d p follow = .ok (.found x n) := by
  unfold find
  cases fs.resolve d p follow with
  | error e => exact iff_of_false (fun h => by cases h) (fun h => by cases h)
  | ok place =>
      cases place with
      | found y m =>
          constructor <;> intro h <;> cases h <;> rfl
      | free y slash => exact iff_of_false (fun h => by cases h) (fun h => by cases h)

/-- What a path leads to is there, or is missing in a directory. -/
theorem resolve_reached (h : fs.WellFormed) {d : Location} (hd : fs.get? d = some .directory)
    {p : Path} {follow : Bool} {place : Place} (hresolve : fs.resolve d p follow = .ok place) :
    fs.Reached place := by
  obtain ⟨-, hwalk⟩ := resolve_eq_ok.mp hresolve
  refine hwalk.reached h ?_ fun a ha => slash_not_mem_of_mem_namesOf ha
  unfold pathStart
  split
  · rfl
  · exact hd

/-- What a path has been found to lead to is there. -/
theorem find_reached (h : fs.WellFormed) {d : Location} (hd : fs.get? d = some .directory)
    {p : Path} {follow : Bool} {x : Location} {n : FileNode}
    (hfind : fs.find d p follow = .ok (x, n)) : fs.get? x = some n :=
  resolve_reached h hd (find_eq_ok.mp hfind)

/-! ### More entries -/

/-- Everything that is in one tree is in another, too. -/
def Within (fs fs' : Files) : Prop := ∀ x n, fs.get? x = some n → fs'.get? x = some n

theorem Within.refl (fs : Files) : fs.Within fs := fun _ _ h => h

theorem Within.trans {fs'' : Files} (h : fs.Within fs') (h' : fs'.Within fs'') :
    fs.Within fs'' := fun x n hx => h' x n (h x n hx)

theorem erase_within (fs : Files) (l : Location) : (fs.erase l).Within fs := by
  intro x n hx
  by_cases hnil : x = []
  · rw [hnil] at hx ⊢
    exact hx
  · rw [get?_of_ne_nil hnil, erase, lookup_filter_key fun k => !l.isPrefixOf k] at hx
    rw [get?_of_ne_nil hnil]
    split at hx
    · exact hx
    · cases hx

/-- What is left where only the outside of a directory is left was there before. -/
theorem within_of_outside {l : Location} (h : ∀ x, fs'.get? x = fs.outside l x) :
    fs'.Within fs := by
  intro x n hx
  rw [h, outside] at hx
  split at hx
  · cases hx
  · exact hx

theorem within_put {x : Location} (hx : x ≠ []) (hfree : fs.get? x = none) (n : FileNode) :
    fs.Within (fs.put x n) := by
  intro y m hy
  rw [get?_put hx, if_neg, hy]
  rintro rfl
  rw [hfree] at hy
  cases hy

/-! ### Changed entries -/

/-- A change of entries that leaves directories and links as they are, and makes none. -/
structure Faithful (g : FileNode → FileNode) : Prop where
  directory : g .directory = .directory
  link : ∀ target, g (.link target) = .link target
  of_link : ∀ {n target}, g n = .link target → n = .link target

/-- Everything that is in one tree is in another, changed. -/
def WithinAs (g : FileNode → FileNode) (fs fs' : Files) : Prop :=
  ∀ x n, fs.get? x = some n → fs'.get? x = some (g n)

theorem faithful_id : Faithful id := ⟨rfl, fun _ => rfl, id⟩

theorem faithful_modified (k : Nat) (f : Bytes → Bytes) : Faithful (modified k f) := by
  refine ⟨rfl, fun _ => rfl, fun {n target} h => ?_⟩
  cases n with
  | file i c e =>
      rw [modified] at h
      split at h <;> cases h
  | _ => exact h

theorem withinAs_modify (fs : Files) (k : Nat) (f : Bytes → Bytes) :
    WithinAs (modified k f) fs (fs.modify k f) := fun x n hx => by
  rw [get?_modify, hx, Option.map_some]

section Changed

variable {g : FileNode → FileNode}

theorem Leads.map (hg : Faithful g) (h : WithinAs g fs fs') {l l' : Location} {name : Bytes}
    (hleads : fs.Leads l name l') : fs'.Leads l name l' :=
  hleads.mono fun _ hdirectory => (h _ _ hdirectory).trans (by rw [hg.directory])

theorem Walks.map (hg : Faithful g) (h : WithinAs g fs fs') {follow : Bool} {links : Nat}
    {ns : List Bytes} {l x : Location} {n : FileNode}
    (hwalk : fs.Walks follow links l ns (.found x n)) :
    walk fs' follow links l ns = .ok (.found x (g n)) := by
  generalize hplace : Place.found x n = place at hwalk
  induction hwalk with
  | stop =>
      cases hplace
      rw [hg.directory]
      exact walk_eq_ok.mpr .stop
  | on hleads _ ih => rw [walk_leads (hleads.map hg h), ih hplace]
  | free => cases hplace
  | last hname hn _ hlink =>
      cases hplace
      exact walk_last hname (h _ _ hn)
        (fun hfollow target heq => hlink hfollow target (hg.of_link heq)) _
  | jump hname hlink hend htarget _ ih =>
      rw [walk_jump hname ((h _ _ hlink).trans (by rw [hg.link])) hend htarget, ih hplace]

/-- A path that leads somewhere leads to the same place in a tree with changed entries. -/
theorem find_map (hg : Faithful g) (h : WithinAs g fs fs') {d : Location} {p : Path}
    {follow : Bool} {x : Location} {n : FileNode} (hfind : fs.find d p follow = .ok (x, n)) :
    fs'.find d p follow = .ok (x, g n) := by
  obtain ⟨hcheck, hwalk⟩ := resolve_eq_ok.mp (find_eq_ok.mp hfind)
  exact find_eq_ok.mpr (resolve_eq_ok.mpr ⟨hcheck, walk_eq_ok.mp (hwalk.map hg h)⟩)

end Changed

/-- A path that leads somewhere leads to the same place in a tree with more entries. -/
theorem find_mono (h : fs.Within fs') {d : Location} {p : Path} {follow : Bool} {x : Location}
    {n : FileNode} (hfind : fs.find d p follow = .ok (x, n)) :
    fs'.find d p follow = .ok (x, n) :=
  find_map faithful_id h hfind

/-- A path leads to the same place where the same entries are. -/
theorem find_congr {d : Location} {p : Path} {follow : Bool} {x : Location} {n : FileNode}
    (hfind : fs.find d p follow = .ok (x, n)) (h : ∀ y, fs'.get? y = fs.get? y) :
    fs'.find d p follow = .ok (x, n) :=
  find_mono (fun y _ hy => (h y).trans hy) hfind

/-! ### Filled places -/

section Filled

variable {x : Location} {n : FileNode}

theorem Walks.fill (h : fs.Within fs') (hx : fs'.get? x = some n)
    (hlink : ∀ target, n ≠ .link target) {follow : Bool} {links : Nat} {ns : List Bytes}
    {l : Location} (hwalk : fs.Walks follow links l ns (.free x false)) :
    walk fs' follow links l ns = .ok (.found x n) := by
  generalize hplace : Place.free x false = place at hwalk
  induction hwalk with
  | stop => cases hplace
  | on hleads _ ih => rw [walk_leads (hleads.map faithful_id h), ih hplace]
  | free _ hname _ hend =>
      cases hplace
      rw [hend]
      exact walk_last hname hx (fun _ => hlink) _
  | last => cases hplace
  | jump hname hjump hend htarget _ ih =>
      rw [walk_jump hname (h _ _ hjump) hend htarget, ih hplace]

/-- A path that leads to a free place leads to what is put there. -/
theorem find_fill (h : fs.Within fs') (hx : fs'.get? x = some n)
    (hlink : ∀ target, n ≠ .link target) {d : Location} {p : Path} {follow : Bool}
    (hresolve : fs.resolve d p follow = .ok (.free x false)) :
    fs'.find d p follow = .ok (x, n) := by
  obtain ⟨hcheck, hwalk⟩ := resolve_eq_ok.mp hresolve
  exact find_eq_ok.mpr (resolve_eq_ok.mpr ⟨hcheck, walk_eq_ok.mp (hwalk.fill h hx hlink)⟩)

end Filled

/-! ### Entries of a directory -/

/-- A slash at the end of a path leads nowhere else. -/
theorem Walks.tail_eq {follow : Bool} {links : Nat} {tail : List Bytes} {l x : Location}
    {n : FileNode} (htail : tail = [] ∨ tail = [[]])
    (hwalk : fs.Walks follow links l tail (.found x n)) : x = l := by
  rcases htail with rfl | rfl
  · cases hwalk
    rfl
  · have hwalk := walk_eq_ok.mpr hwalk
    rw [walk_leads (.stay (.inl rfl))] at hwalk
    cases walk_eq_ok.mp hwalk
    rfl

/-- The rest of a walk behind a directory is a walk from there, with some of the links. `tail` is
what a slash at the end of the path of the directory leaves. -/
theorem Walks.append {follow : Bool} {links : Nat} {tail rest ns : List Bytes} {l x : Location}
    (htail : tail = [] ∨ tail = [[]]) (hrest : rest ≠ [])
    (hwalk : fs.Walks true links l (ns ++ tail) (.found x .directory)) :
    ∃ left, walk fs follow links l (ns ++ rest) = walk fs follow left x rest := by
  -- By induction on the walk to the directory; `ns` is what is still to go.
  generalize hnames : ns ++ tail = names at hwalk
  generalize hplace : Place.found x .directory = place at hwalk
  induction hwalk generalizing ns with
  | stop =>
      obtain ⟨rfl, rfl⟩ := List.append_eq_nil_iff.mp hnames
      cases hplace
      exact ⟨_, rfl⟩
  | on hleads hon ih =>
      cases ns with
      | nil =>
          rw [List.nil_append] at hnames
          subst hnames hplace
          obtain rfl := (Walks.on hleads hon).tail_eq htail
          exact ⟨_, rfl⟩
      | cons name ns =>
          cases hnames
          rw [List.cons_append, walk_leads hleads]
          exact ih rfl hplace
  | free => cases hplace
  | last _ _ hdirectory =>
      cases hplace
      exact absurd rfl hdirectory
  | jump hname hlink hend htarget hon ih =>
      cases ns with
      | nil =>
          rw [List.nil_append] at hnames
          subst hnames hplace
          obtain rfl := (Walks.jump hname hlink hend htarget hon).tail_eq htail
          exact ⟨_, rfl⟩
      | cons name ns =>
          cases hnames
          have hbehind : ¬ (ns ++ rest = [] ∧ ¬ follow) := fun h =>
            hrest (List.append_eq_nil_iff.mp h.1).2
          rw [List.cons_append, walk_jump hname hlink hbehind htarget, ← List.append_assoc]
          exact ih (List.append_assoc _ _ _) hplace

/-- What an entry of a directory is found to be: a link only if it is not followed. -/
def entryPlace (fs : Files) (x : Location) : Place :=
  match fs.get? x with
  | some n => .found x n
  | none => .free x false

theorem walk_entry {follow : Bool} (links : Nat) {x : Location} {a : Bytes} (ha : OrdinaryName a)
    (hlength : a.length ≤ maxName)
    (hlink : follow = true → ∀ target, fs.get? (x ++ [a]) ≠ some (.link target)) :
    walk fs follow links x [a] = .ok (fs.entryPlace (x ++ [a])) := by
  have hname := OrdinaryName.entryName ha hlength
  rw [entryPlace]
  cases hn : fs.get? (x ++ [a]) with
  | none => exact walk_free hname hn false links
  | some n =>
      exact walk_last hname hn (fun hfollow target heq => hlink hfollow target (heq ▸ hn)) links

/-- A path that leads somewhere is not empty. -/
theorem bytes_ne_nil_of_find {d : Location} {p : Path} {follow : Bool} {x : Location} {n : FileNode}
    (hfind : fs.find d p follow = .ok (x, n)) : p.bytes ≠ [] := by
  intro hnil
  have hcheck := (resolve_eq_ok.mp (find_eq_ok.mp hfind)).1
  simp [checkPath, hnil, Bytes.hasNul] at hcheck

/-- Any path of a directory leads to its entries. -/
theorem resolve_join_eq_walk {d : Location} {p : Path} {x : Location}
    (hfind : fs.find d p true = .ok (x, .directory)) {a : Bytes} (ha : OrdinaryName a)
    (hcheck : checkPath (p.join ⟨a⟩) = .ok ()) (follow : Bool) :
    ∃ left, fs.resolve d (p.join ⟨a⟩) follow = walk fs follow left x [a] := by
  obtain ⟨-, hwalk⟩ := resolve_eq_ok.mp (find_eq_ok.mp hfind)
  have hp := bytes_ne_nil_of_find hfind
  obtain ⟨tail, htail, hnames⟩ := namesOf_eq p.bytes
  rw [hnames] at hwalk
  rw [resolve, hcheck, Path.isAbsolute_join hp ha, namesOf_join hp ha]
  exact hwalk.append htail (List.cons_ne_nil a [])

/-- Whether a path can be made of a directory's path and a name. -/
def Fits (p : Path) (a : Bytes) : Prop := checkPath (p.join ⟨a⟩) = .ok () ∧ a.length ≤ maxName

/-- An entry of a directory is found through any path of the directory. -/
theorem resolve_join {d : Location} {p : Path} {x : Location}
    (hfind : fs.find d p true = .ok (x, .directory)) {a : Bytes} (ha : OrdinaryName a)
    (hfits : Fits p a) {follow : Bool}
    (hlink : follow = true → ∀ target, fs.get? (x ++ [a]) ≠ some (.link target)) :
    fs.resolve d (p.join ⟨a⟩) follow = .ok (fs.entryPlace (x ++ [a])) := by
  obtain ⟨left, hleft⟩ := resolve_join_eq_walk hfind ha hfits.1 follow
  rw [hleft, walk_entry left ha hfits.2 hlink]

/-- A path of an entry that leads anywhere is short enough. -/
theorem fits_of_resolve {d : Location} {p : Path} {x : Location}
    (hfind : fs.find d p true = .ok (x, .directory)) {a : Bytes} (ha : OrdinaryName a)
    {follow : Bool} {place : Place} (h : fs.resolve d (p.join ⟨a⟩) follow = .ok place) :
    Fits p a := by
  obtain ⟨hcheck, -⟩ := resolve_eq_ok.mp h
  refine ⟨hcheck, Nat.not_lt.mp fun hlong => ?_⟩
  obtain ⟨left, hleft⟩ := resolve_join_eq_walk hfind ha hcheck follow
  obtain ⟨jump, hjump⟩ := walk_eq_descend fs follow left
  rw [hleft, hjump, descend, if_neg fun h => h.elim ha.ne_nil ha.ne_current, if_neg ha.ne_parent,
    if_pos hlong] at h
  cases h

/-- A path of an entry that is found leads to the entry. -/
theorem find_join_eq_ok {d : Location} {p : Path} {x : Location}
    (hfind : fs.find d p true = .ok (x, .directory)) {a : Bytes} (ha : OrdinaryName a)
    {y : Location} {n : FileNode} (h : fs.find d (p.join ⟨a⟩) false = .ok (y, n)) :
    y = x ++ [a] ∧ fs.get? (x ++ [a]) = some n := by
  have hresolve := find_eq_ok.mp h
  rw [resolve_join hfind ha (fits_of_resolve hfind ha hresolve)
    (fun hfollow => absurd hfollow Bool.false_ne_true)] at hresolve
  cases hn : fs.get? (x ++ [a]) with
  | none => rw [entryPlace, hn] at hresolve; cases hresolve
  | some m =>
      rw [entryPlace, hn] at hresolve
      cases hresolve
      exact ⟨rfl, rfl⟩

end TwinRun.Files
