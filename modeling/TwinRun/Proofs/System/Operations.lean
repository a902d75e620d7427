import TwinRun.Proofs.System.Walking

/-!
Operations on the entries of a directory.

The directory is reached through a path `p`, its entries through `p.join ⟨a⟩`.

* `Files.create_join`: a new or emptied file is there, and its handle writes at its end.
* `Files.write_spec`: what is written is added to the file and to nothing else.
* `Files.read_join`: what is read is what the file holds.

`Files.Reaching` is for a file that is only known by a path that leads to it.
-/

namespace TwinRun.Files

variable {fs fs' : Files} {d x : Location} {p : Path} {a : Bytes}

/-- A place holds a file with this content, and no other place has this file. -/
def Holds (fs : Files) (x : Location) (content : Bytes) : Prop :=
  ∃ k e, fs.get? x = some (.file k content e) ∧ fs.Sole x k

/-- The file in a place has this content, no other place has this file, and the handle writes at
its end. -/
def Writing (fs : Files) (x : Location) (h : Handle) (content : Bytes) : Prop :=
  ∃ k e, fs.get? x = some (.file k content e) ∧ fs.Sole x k ∧
    fs.opened.lookup h = some { target := .file k, place := content.length, writes := true }

theorem Holds.ne_link {content : Bytes} (h : fs.Holds x content) (target : Bytes) :
    fs.get? x ≠ some (.link target) := by
  obtain ⟨k, e, hx, -⟩ := h
  intro hlink
  rw [hx] at hlink
  cases hlink

theorem Writing.holds {h : Handle} {content : Bytes} (hw : fs.Writing x h content) :
    fs.Holds x content := by
  obtain ⟨k, e, hx, hsole, -⟩ := hw
  exact ⟨k, e, hx, hsole⟩

/-- A file that another one is put beside is still there. -/
theorem Holds.of_eq {y : Location} {content content' : Bytes} (h : fs.Holds x content)
    (hheld : fs'.Holds y content') (hne : x ≠ y) (hsame : ∀ z ≠ y, fs'.get? z = fs.get? z) :
    fs'.Holds x content := by
  obtain ⟨k, e, hx, hsole⟩ := h
  obtain ⟨k', e', hy, hsole'⟩ := hheld
  have hx' := (hsame x hne).trans hx
  refine ⟨k, e, hx', fun z c e'' hz => ?_⟩
  by_cases hzy : z = y
  · rw [hzy, hy] at hz
    cases hz
    exact absurd (hsole' x content e hx') hne
  · exact hsole z c e'' ((hsame z hzy).symm.trans hz)

/-! ### Making files -/

theorem get?_addFile (fs : Files) {x : Location} (hx : x ≠ []) (content : Bytes) (executable : Bool)
    (y : Location) :
    (fs.addFile x content executable).1.get? y
      = if y = x then some (.file fs.nextIdentity content executable) else fs.get? y :=
  get?_put hx _ y

/-- A new file in a directory keeps the tree well-formed. -/
theorem WellFormed.addFile (h : fs.WellFormed) (hdir : fs.get? x = some .directory)
    (hfree : fs.get? (x ++ [a]) = none) (ha : OrdinaryName a) (content : Bytes)
    (executable : Bool) : (fs.addFile (x ++ [a]) content executable).1.WellFormed := by
  refine h.insert hdir hfree ha (nodes_put_of_free (by simp) hfree _) (Nat.le_succ _) ?_
  intro k c e hn
  cases hn
  exact Nat.lt_succ_self _

/-- A new file is in one place. -/
theorem WellFormed.sole_addFile (h : fs.WellFormed) (hx : x ≠ []) (content : Bytes)
    (executable : Bool) : (fs.addFile x content executable).1.Sole x fs.nextIdentity := by
  intro y c e hy
  rw [get?_addFile fs hx] at hy
  split at hy
  · assumption
  · have hmem := (h.mem_nodes (WellFormed.ne_nil_of_file hy)).mpr hy
    exact absurd (h.identity_lt hmem) (Nat.lt_irrefl _)

/-- A handle for an empty file writes at its end. -/
theorem writing_attach {k : Nat} {e : Bool} (hx : fs.get? x = some (.file k [] e))
    (hsole : fs.Sole x k) : (fs.attach { target := .file k, writes := true }).1.Writing x
      (fs.attach { target := .file k, writes := true }).2 [] :=
  ⟨k, e, hx, hsole, List.lookup_cons_self⟩

/-- An entry that is missing or a file becomes an empty file. -/
theorem create_join (h : fs.WellFormed) (hdir : fs.get? x = some .directory)
    (hfind : fs.find d p true = .ok (x, .directory)) (ha : OrdinaryName a) (hfits : Fits p a)
    (hentry : fs.get? (x ++ [a]) = none ∨ ∃ content, fs.Holds (x ++ [a]) content) :
    ∃ fs' handle, fs.create d (p.join ⟨a⟩) = .ok (fs', handle) ∧ fs'.WellFormed ∧
      fs'.Writing (x ++ [a]) handle [] ∧ ∀ y ≠ x ++ [a], fs'.get? y = fs.get? y := by
  have hne : x ++ [a] ≠ [] := by simp
  have hp := bytes_ne_nil_of_find hfind
  have hlink : true = true → ∀ target, fs.get? (x ++ [a]) ≠ some (.link target) := by
    intro _ target
    rcases hentry with hnone | ⟨content, hheld⟩
    · rw [hnone]
      exact (Option.some_ne_none _).symm
    · exact hheld.ne_link target
  have hresolve := resolve_join hfind ha hfits hlink
  unfold create
  rw [if_neg (by rw [Path.endsInSlash_join hp ha]; exact Bool.false_ne_true)]
  rcases hentry with hnone | ⟨content, k, e, hfile, hsole⟩
  · rw [hresolve, entryPlace, hnone]
    have hget := get?_addFile fs hne [] false
    refine ⟨_, _, rfl, (h.addFile hdir hnone ha [] false).attach _,
      writing_attach ((hget _).trans (if_pos rfl)) (h.sole_addFile hne [] false),
      fun y hy => (hget y).trans (if_neg hy)⟩
  · rw [hresolve, entryPlace, hfile]
    exact ⟨_, _, rfl, (h.modify k _).attach _,
      writing_attach (get?_modify_self hfile _) (hsole.modify k _),
      fun y hy => get?_modify_of_ne hsole hy _⟩

/-- The path of a file that can be made is short enough. -/
theorem fits_of_create (hfind : fs.find d p true = .ok (x, .directory)) (ha : OrdinaryName a)
    {r : Files × Handle} (hcreate : fs.create d (p.join ⟨a⟩) = .ok r) : Fits p a := by
  have hp := bytes_ne_nil_of_find hfind
  unfold create at hcreate
  rw [if_neg (by rw [Path.endsInSlash_join hp ha]; exact Bool.false_ne_true)] at hcreate
  cases hresolve : fs.resolve d (p.join ⟨a⟩) true with
  | error e => rw [hresolve] at hcreate; cases hcreate
  | ok place => exact fits_of_resolve hfind ha hresolve

/-! ### Writing -/

/-- Writing at the end of a content adds to it. -/
theorem overwrite_end (content more : Bytes) :
    overwrite content content.length more = content ++ more := by
  simp [overwrite]

/-- What is written through the handle of a file is added to the file and to nothing else. -/
theorem write_spec (hwf : fs.WellFormed) {h : Handle} {content : Bytes}
    (hw : fs.Writing x h content) (more : Bytes) :
    ∃ fs', fs.write h more = .ok fs' ∧ fs'.WellFormed ∧ fs'.Writing x h (content ++ more) ∧
      ∀ y ≠ x, fs'.get? y = fs.get? y := by
  obtain ⟨k, e, hx, hsole, hopen⟩ := hw
  unfold write
  rw [hopen]
  by_cases hmore : more.isEmpty = true
  · obtain rfl := List.isEmpty_iff.mp hmore
    rw [List.append_nil]
    exact ⟨fs, rfl, hwf, ⟨k, e, hx, hsole, hopen⟩, fun _ _ => rfl⟩
  · dsimp only
    rw [if_neg (by simp), if_neg hmore]
    refine ⟨_, rfl, (hwf.modify k _).moveTo h _, ⟨k, e, ?_, hsole.modify k _, ?_⟩, ?_⟩
    · rw [get?_moveTo, get?_modify_self hx, hwf.content?_eq hx hsole]
      simp [overwrite_end]
    · refine (lookup_moveTo (fs.modify k _) hopen _).trans ?_
      simp
    · intro y hy
      rw [get?_moveTo, get?_modify_of_ne hsole hy]

/-! ### Files reached by their paths -/

/-- A path leads to a file with this content, and the handle writes at its end. The file may be in
other places, too. -/
def Reaching (fs : Files) (d : Location) (p : Path) (h : Handle) (content : Bytes) : Prop :=
  ∃ x k e, fs.find d p true = .ok (x, .file k content e) ∧ fs.content? k = some content ∧
    fs.opened.lookup h = some { target := .file k, place := content.length, writes := true }

/-- What a path is made to lead to is an empty file, whatever it led to before; but a device stays
a device. -/
theorem reaching_of_create (h : fs.WellFormed) (hd : fs.get? d = some .directory) {handle : Handle}
    (hcreate : fs.create d p = .ok (fs', handle))
    (hdevice : ∀ x device, fs.find d p true ≠ .ok (x, .device device)) :
    fs'.Reaching d p handle [] := by
  unfold create at hcreate
  split at hcreate
  · cases hresolve : fs.resolve d (withoutSlash p) false with
    | ok _ | error _ => rw [hresolve] at hcreate; cases hcreate
  cases hresolve : fs.resolve d p true with
  | error _ => rw [hresolve] at hcreate; cases hcreate
  | ok place =>
      rw [hresolve] at hcreate
      have hreached := resolve_reached h hd hresolve
      cases place with
      | found x n =>
          have hfind := find_eq_ok.mpr hresolve
          cases n with
          | file k c e =>
              cases hcreate
              have hchanged := find_map (faithful_modified k fun _ => [])
                (withinAs_modify fs k fun _ => []) hfind
              rw [modified, if_pos rfl] at hchanged
              obtain ⟨c', hc'⟩ := Option.isSome_iff_exists.mp (h.isSome_content? hreached)
              refine ⟨x, k, e, find_congr hchanged fun _ => rfl, ?_, List.lookup_cons_self⟩
              exact (content?_modify fs k _).trans (by rw [hc', Option.map_some])
          | device device => exact absurd hfind (hdevice x device)
          | _ => cases hcreate
      | free x slash =>
          cases slash with
          | true => cases hcreate
          | false =>
              cases hcreate
              obtain ⟨y, a, rfl, hdir, hfree, ha⟩ := hreached
              have hne : y ++ [a] ≠ [] := by simp
              have hget := get?_addFile fs hne [] false
              have hself := (hget _).trans (if_pos rfl)
              have hwithin : fs.Within (fs.addFile (y ++ [a]) [] false).1 :=
                within_put hne hfree (.file fs.nextIdentity [] false)
              refine ⟨y ++ [a], fs.nextIdentity, false,
                find_congr (find_fill hwithin hself (fun _ h => by cases h) hresolve) fun _ => rfl,
                ?_, List.lookup_cons_self⟩
              exact (h.addFile hdir hfree ha [] false).content?_eq hself
                (h.sole_addFile hne [] false)

/-- What is written through the handle is added to the file. -/
theorem Reaching.write {h : Handle} {content : Bytes} (hr : fs.Reaching d p h content)
    (more : Bytes) :
    ∃ fs', fs.write h more = .ok fs' ∧ fs'.Reaching d p h (content ++ more) := by
  obtain ⟨x, k, e, hfind, hcontent, hopen⟩ := hr
  unfold Files.write
  rw [hopen]
  by_cases hmore : more.isEmpty = true
  · obtain rfl := List.isEmpty_iff.mp hmore
    rw [List.append_nil]
    exact ⟨fs, rfl, x, k, e, hfind, hcontent, hopen⟩
  · dsimp only
    rw [if_neg (by simp), if_neg hmore]
    set f : Bytes → Bytes := fun c => overwrite c content.length more with hf
    have hadded : f content = content ++ more := overwrite_end content more
    have hchanged := find_map (faithful_modified k f) (withinAs_modify fs k f) hfind
    rw [modified, if_pos rfl, hadded] at hchanged
    refine ⟨_, rfl, x, k, e, find_congr hchanged fun _ => rfl, ?_, ?_⟩
    · exact (content?_modify fs k f).trans (by rw [hcontent, Option.map_some, hadded])
    · refine (lookup_moveTo (fs.modify k f) hopen _).trans ?_
      simp

/-- The file is read back by the path. -/
theorem Reaching.read {h : Handle} {content : Bytes} (hr : fs.Reaching d p h content) :
    fs.read d p = .ok content := by
  obtain ⟨x, k, e, hfind, -, -⟩ := hr
  rw [Files.read, hfind]
  rfl

/-- What a file holds is read back. -/
theorem read_join (hfind : fs.find d p true = .ok (x, .directory)) (ha : OrdinaryName a)
    (hfits : Fits p a) {content : Bytes} (hx : fs.Holds (x ++ [a]) content) :
    fs.read d (p.join ⟨a⟩) = .ok content := by
  have hresolve := resolve_join hfind ha hfits fun _ : true = true => hx.ne_link
  obtain ⟨k, e, hfile, -⟩ := hx
  rw [entryPlace, hfile] at hresolve
  rw [read, find, hresolve]
  rfl

end TwinRun.Files
