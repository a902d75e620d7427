import Mathlib.Data.List.DropRight
import TwinRun.Proofs.System.Walking
import TwinRun.Proofs.System.World

/-!
Making directories.

* `Files.find_made`: the path of a directory that has been made leads to it.
* `Files.Builds`: between two trees nothing but directories has been made, and to each of them one
  of some paths leads.
* `World.grows_makeDirectories`: making a directory with those above it does no more than that,
  whether it succeeds or fails.
* `World.makeDirectories_of_find`: where the directory is already, nothing is made.
-/

namespace TwinRun

namespace Files

variable {fs fs' fs'' : Files} {d x : Location} {p : Path}

/-! ### Slashes at the end -/

theorem steps_append_slashes {tail : Bytes} (htail : ∀ b ∈ tail, b = Bytes.slash) (body : Bytes) :
    steps (body ++ tail) = steps body := by
  induction tail generalizing body with
  | nil => rw [List.append_nil]
  | cons b tail ih =>
      obtain ⟨rfl, hrest⟩ := List.forall_mem_cons.mp htail
      have hnone : steps tail = [] := ih hrest []
      rw [steps] at hnone
      rw [steps, Bytes.splitOn_append_cons, List.filter_append, hnone, List.append_nil, steps]

/-- A path without the slashes at its end has the same names. -/
theorem withoutSlash_spec (p : Path) : ∃ tail, p.bytes = (withoutSlash p).bytes ++ tail ∧
    (p.bytes ≠ [] → (withoutSlash p).bytes ≠ []) ∧
    namesOf (withoutSlash p).bytes = steps p.bytes := by
  set body := p.bytes.rdropWhile (· = Bytes.slash) with hbody
  have hwithout : withoutSlash p = if body.isEmpty then p else ⟨body⟩ := rfl
  by_cases hempty : body = []
  · rw [hwithout, if_pos (List.isEmpty_iff.mpr hempty)]
    have hslashes : ∀ b ∈ p.bytes, b = Bytes.slash := by
      simpa using List.rdropWhile_eq_nil_iff.mp hempty
    have hnone : steps p.bytes = [] := steps_append_slashes hslashes []
    refine ⟨[], by simp, id, ?_⟩
    unfold namesOf
    exact if_neg fun h => h.2 hnone
  · rw [hwithout, if_neg (by simpa using hempty)]
    have hsplit : p.bytes = body ++ p.bytes.rtakeWhile (· = Bytes.slash) :=
      (List.rdropWhile_append_rtakeWhile ..).symm
    refine ⟨_, hsplit, fun _ => hempty, ?_⟩
    have hlast : body.getLast? ≠ some Bytes.slash := by
      rw [List.getLast?_eq_getLast_of_ne_nil hempty]
      simpa using List.rdropWhile_last_not _ _ hempty
    have htail : ∀ b ∈ p.bytes.rtakeWhile (· = Bytes.slash), b = Bytes.slash := by
      intro b hb
      simpa using List.mem_rtakeWhile_imp hb
    have hsame : steps p.bytes = steps body :=
      (congrArg steps hsplit).trans (steps_append_slashes htail body)
    unfold namesOf
    rw [hsame]
    exact if_neg fun h => hlast h.1

theorem pathStart_withoutSlash (d : Location) (p : Path) :
    pathStart d (withoutSlash p) = pathStart d p := by
  obtain ⟨tail, hsplit, hne, -⟩ := withoutSlash_spec p
  have hsame : (withoutSlash p).isAbsolute = p.isAbsolute := by
    unfold Path.isAbsolute
    cases hbytes : (withoutSlash p).bytes with
    | nil =>
        have hnil : p.bytes = [] := not_not.mp fun h => hne h hbytes
        rw [hnil]
    | cons b bytes => rw [hsplit, hbytes, List.cons_append, List.head?_cons, List.head?_cons]
  rw [pathStart, pathStart, hsame]

theorem checkPath_eq_ok : checkPath p = .ok () ↔
    p.bytes.hasNul = false ∧ p.bytes ≠ [] ∧ p.bytes.length < maxPath := by
  unfold checkPath
  cases p.bytes.hasNul <;> cases p.bytes <;> simp

theorem checkPath_withoutSlash (h : checkPath p = .ok ()) :
    checkPath (withoutSlash p) = .ok () := by
  obtain ⟨tail, hsplit, hne, -⟩ := withoutSlash_spec p
  obtain ⟨hnul, hbytes, hlength⟩ := checkPath_eq_ok.mp h
  refine checkPath_eq_ok.mpr ⟨?_, hne hbytes, ?_⟩
  · rw [hsplit, Bytes.hasNul, List.any_append, Bool.or_eq_false_iff] at hnul
    exact hnul.1
  · rw [hsplit, List.length_append] at hlength
    exact Nat.lt_of_le_of_lt (Nat.le_add_right _ _) hlength

/-- Where a path without the slashes at its end leads, links at the end not followed. -/
theorem resolve_withoutSlash (hcheck : checkPath p = .ok ()) {place : Place} :
    fs.resolve d (withoutSlash p) false = .ok place ↔
      fs.Walks false maxLinks (pathStart d p) (steps p.bytes) place := by
  obtain ⟨tail, -, -, hnames⟩ := withoutSlash_spec p
  rw [resolve_eq_ok, pathStart_withoutSlash, hnames]
  exact and_iff_right (checkPath_withoutSlash hcheck)

/-! ### One directory -/

/-- What it takes to make a directory, and what is made. -/
theorem makeDirectory_eq_ok : fs.makeDirectory d p = .ok fs' ↔ checkPath p = .ok () ∧
    ∃ x slash, fs.resolve d (withoutSlash p) false = .ok (.free x slash) ∧
      fs' = fs.put x .directory := by
  unfold makeDirectory
  cases checkPath p with
  | error e => exact iff_of_false (fun h => by cases h) (fun h => by cases h.1)
  | ok _ =>
      cases fs.resolve d (withoutSlash p) false with
      | error e => exact iff_of_false (fun h => by cases h) (fun ⟨_, _, _, h, _⟩ => by cases h)
      | ok place =>
          cases place with
          | found x n =>
              exact iff_of_false (fun h => by cases h) (fun ⟨_, _, _, h, _⟩ => by cases h)
          | free x slash =>
              constructor
              · rintro ⟨⟩
                exact ⟨rfl, x, slash, rfl, rfl⟩
              · rintro ⟨-, _, _, ⟨⟩, rfl⟩
                rfl

/-- Empty names lead nowhere else. -/
theorem walks_of_blank {follow : Bool} {links : Nat} {ns : List Bytes} (hns : ∀ a ∈ ns, a = []) :
    fs.Walks follow links x ns (.found x .directory) := by
  induction ns with
  | nil => exact .stop
  | cons a ns ih =>
      obtain ⟨rfl, hrest⟩ := List.forall_mem_cons.mp hns
      exact .on (.stay (.inl rfl)) (ih hrest)

/-- A walk to a free place becomes one to the directory that is made there. A slash at the end is no
matter then. -/
theorem Walks.made (h : fs.Within fs') (hx : fs'.get? x = some .directory) {slash : Bool}
    {tail : List Bytes} (htail : tail = [] ∨ tail = [[]]) {links : Nat} {ns : List Bytes}
    {l : Location} (hwalk : fs.Walks false links l ns (.free x slash)) :
    fs'.Walks true links l (ns ++ tail) (.found x .directory) := by
  generalize hplace : Place.free x slash = place at hwalk
  induction hwalk with
  | stop => cases hplace
  | on hleads _ ih => exact .on (hleads.map faithful_id h) (ih hplace)
  | free slash hname _ hend =>
      cases hplace
      -- Only the empty names of slashes are left.
      refine .on (.down hname hx) (walks_of_blank ?_)
      rw [hend]
      rcases htail with rfl | rfl <;> cases slash <;> simp
  | last => cases hplace
  | @jump _ _ _ _ rest _ hname hlink hend htarget _ ih =>
      have hbehind : ¬ (rest ++ tail = [] ∧ ¬ true = true) := fun h => h.2 rfl
      refine .jump hname (h _ _ hlink) hbehind htarget ?_
      exact List.append_assoc (namesOf _) rest tail ▸ ih hplace

/-- The path of a directory that has been made leads to it. -/
theorem find_made (h : fs.Within fs') (hx : fs'.get? x = some .directory)
    (hcheck : checkPath p = .ok ()) {slash : Bool}
    (hfree : fs.resolve d (withoutSlash p) false = .ok (.free x slash)) :
    fs'.find d p true = .ok (x, .directory) := by
  obtain ⟨tail, htail, hnames⟩ := namesOf_eq p.bytes
  have hwalk := (resolve_withoutSlash hcheck).mp hfree
  rw [find_eq_ok, resolve_eq_ok, hnames]
  exact ⟨hcheck, hwalk.made h hx htail⟩

/-- Before the slashes at the end of a path of a directory there is something, too: the directory
or a link. -/
theorem Walks.before_tail {tail : List Bytes} (htail : tail = [] ∨ tail = [[]]) {links : Nat}
    {ns : List Bytes} {l : Location}
    (hwalk : fs.Walks true links l (ns ++ tail) (.found x .directory)) :
    ∃ y n, fs.Walks false links l ns (.found y n) := by
  generalize hnames : ns ++ tail = names at hwalk
  generalize hplace : Place.found x .directory = place at hwalk
  induction hwalk generalizing ns with
  | stop =>
      obtain ⟨rfl, rfl⟩ := List.append_eq_nil_iff.mp hnames
      exact ⟨_, _, .stop⟩
  | on hleads _ ih =>
      cases ns with
      | nil => exact ⟨_, _, .stop⟩
      | cons name ns =>
          cases hnames
          obtain ⟨y, n, hbefore⟩ := ih rfl hplace
          exact ⟨y, n, .on hleads hbefore⟩
  | free => cases hplace
  | last _ _ hdirectory =>
      cases hplace
      exact absurd rfl hdirectory
  | jump hname hlink _ htarget _ ih =>
      cases ns with
      | nil => exact ⟨_, _, .stop⟩
      | cons name ns =>
          cases hnames
          by_cases hns : ns = []
          · -- A link at the end is followed only if there is a slash behind it.
            subst hns
            exact ⟨_, _, .last hname hlink FileNode.noConfusion fun h => by cases h⟩
          · obtain ⟨y, n, hbefore⟩ := ih (List.append_assoc _ _ _) hplace
            exact ⟨y, n, .jump hname hlink (fun h => hns h.1) htarget hbefore⟩

/-- A directory that is there already is not made. -/
theorem makeDirectory_of_find (hfind : fs.find d p true = .ok (x, .directory)) :
    fs.makeDirectory d p = .error .alreadyExists := by
  obtain ⟨tail, htail, hnames⟩ := namesOf_eq p.bytes
  obtain ⟨hcheck, hwalk⟩ := resolve_eq_ok.mp (find_eq_ok.mp hfind)
  rw [hnames] at hwalk
  obtain ⟨y, n, hbefore⟩ := hwalk.before_tail htail
  rw [makeDirectory, hcheck, (resolve_withoutSlash hcheck).mpr hbefore]
  rfl

/-! ### Nothing but directories -/

/-- A place that was missing is now a directory that one of the paths leads to. -/
structure Built (d : Location) (paths : List Path) (fs fs' : Files) (x : Location) : Prop where
  missing : fs.get? x = none
  made : fs'.get? x = some .directory
  leads : ∃ p ∈ paths, fs'.find d p true = .ok (x, .directory)

/-- Nothing has been changed, and nothing but directories that one of the paths leads to has been
made. -/
def Builds (d : Location) (paths : List Path) (fs fs' : Files) : Prop :=
  ∀ x, fs'.get? x = fs.get? x ∨ Built d paths fs fs' x

variable {paths : List Path}

theorem Builds.refl (d : Location) (paths : List Path) (fs : Files) : Builds d paths fs fs :=
  fun _ => .inl rfl

theorem Builds.within (h : Builds d paths fs fs') : fs.Within fs' := by
  intro x n hx
  rcases h x with hsame | hbuilt
  · rw [hsame, hx]
  · rw [hbuilt.missing] at hx
    cases hx

theorem Builds.trans (h : Builds d paths fs fs') (h' : Builds d paths fs' fs'') :
    Builds d paths fs fs'' := by
  intro x
  -- An entry is looked at from the end: what the second step made, the first had left missing.
  rcases h' x with hsame' | hbuilt'
  · rcases h x with hsame | hbuilt
    · exact .inl (hsame'.trans hsame)
    · obtain ⟨p, hp, hfind⟩ := hbuilt.leads
      exact .inr ⟨hbuilt.missing, hsame'.trans hbuilt.made, p, hp, find_mono h'.within hfind⟩
  · rcases h x with hsame | hbuilt
    · exact .inr ⟨hsame ▸ hbuilt'.missing, hbuilt'.made, hbuilt'.leads⟩
    · have hmissing := hbuilt'.missing
      rw [hbuilt.made] at hmissing
      cases hmissing

/-- A new directory keeps the tree well-formed, and all else stays. -/
theorem makeDirectory_spec (h : fs.WellFormed) (hd : fs.get? d = some .directory) (hp : p ∈ paths)
    (hmake : fs.makeDirectory d p = .ok fs') : fs'.WellFormed ∧ Builds d paths fs fs' := by
  obtain ⟨hcheck, x, slash, hfree, rfl⟩ := makeDirectory_eq_ok.mp hmake
  obtain ⟨y, a, rfl, hdir, hmissing, ha⟩ := resolve_reached h hd hfree
  have hne : y ++ [a] ≠ [] := by simp
  have hget : ∀ z, (fs.put (y ++ [a]) .directory).get? z
      = if z = y ++ [a] then some .directory else fs.get? z := get?_put hne .directory
  have hself : (fs.put (y ++ [a]) .directory).get? (y ++ [a]) = some .directory := by
    rw [hget, if_pos rfl]
  have hwithin := within_put hne hmissing .directory
  constructor
  · refine h.insert hdir hmissing ha (nodes_put_of_free hne hmissing _)
      (Nat.le_of_eq (nextIdentity_put fs _ _).symm) fun k c e heq => by cases heq
  · intro x
    by_cases hx : x = y ++ [a]
    · subst hx
      exact .inr ⟨hmissing, hself, p, hp, find_made hwithin hself hcheck hfree⟩
    · exact .inl (by rw [hget, if_neg hx])

end Files

/-! ### The directories above -/

namespace World

variable {starter : Starter} {filter : Log.Filter} {overflow : Overflow} {w : World}

/-- From a sound world, nothing but directories that one of the paths leads to is made. -/
def Grows (paths : List Path) (w w' : World) : Prop :=
  w.Sound → w'.Sound ∧ w'.directory = w.directory ∧ w'.environment = w.environment ∧
    Files.Builds w.directory paths w.files w'.files

variable {paths : List Path}

theorem Grows.refl (paths : List Path) (w : World) : Grows paths w w := fun h =>
  ⟨h, rfl, rfl, .refl _ _ _⟩

theorem Grows.trans {w' w'' : World} (h : Grows paths w w') (h' : Grows paths w' w'') :
    Grows paths w w'' := by
  intro hsound
  obtain ⟨hsound', hdirectory, henvironment, hbuilds⟩ := h hsound
  obtain ⟨hsound'', hdirectory', henvironment', hbuilds'⟩ := h' hsound'
  rw [hdirectory] at hbuilds'
  exact ⟨hsound'', hdirectory'.trans hdirectory, henvironment'.trans henvironment,
    hbuilds.trans hbuilds'⟩

theorem hostOf_makeDirectory (p : Path) : (hostOf starter filter overflow).makeDirectory p
    = change fun fs d => (·, ()) <$> fs.makeDirectory d p := rfl

theorem grows_makeDirectory {p : Path} (hp : p ∈ paths) :
    Moves (Grows paths) ((hostOf starter filter overflow).makeDirectory p) := by
  intro w hsound
  cases hmake : (hostOf starter filter overflow).makeDirectory p w with
  | ok _ w' =>
      rw [hostOf_makeDirectory] at hmake
      obtain ⟨files, hfiles, rfl⟩ := change_unit_eq_ok.mp hmake
      obtain ⟨hwf, hbuilds⟩ := Files.makeDirectory_spec hsound.files hsound.directory hp hfiles
      exact ⟨⟨hwf, hbuilds.within _ _ hsound.directory⟩, rfl, rfl, hbuilds⟩
  | error e w' =>
      rw [hostOf_makeDirectory] at hmake
      obtain rfl := change_eq_error hmake
      exact Grows.refl paths _ hsound

/-- Making a directory with those above it makes no other directories, whether it succeeds or
fails. -/
theorem grows_makeDirectories (paths : List Path) :
    Moves (Grows paths) ((hostOf starter filter overflow).makeDirectories paths) :=
  .makeDirectories (R := Grows paths) (Grows.refl paths) Grows.trans fun _ hp =>
    grows_makeDirectory hp

/-- Where the directory is already, nothing is made. -/
theorem makeDirectories_of_find {p : Path} {l : Location} (above : List Path)
    (hfind : w.files.find w.directory p true = .ok (l, .directory)) :
    (hostOf starter filter overflow).makeDirectories (p :: above) w = .ok () w := by
  have hthere : (hostOf starter filter overflow).isDirectory p w = true := by
    change leadsTo .directory p w = true
    rw [leadsTo, hfind]
    rfl
  rw [Host.makeDirectories, if_neg (by simpa using Files.bytes_ne_nil_of_find hfind)]
  -- The attempt fails, and the directory found there makes up for it.
  refine tryCatch_eq_ok.mpr (.inr ⟨.alreadyExists, w, ?_, ?_⟩)
  · rw [hostOf_makeDirectory, change, Files.makeDirectory_of_find hfind]
    rfl
  · rw [if_neg (by decide)]
    refine bind_eq_ok.mpr ⟨w, w, rfl, ?_⟩
    rw [hthere]
    rfl

end World

end TwinRun
