import TwinRun.Proofs.System.Host
import TwinRun.Proofs.System.Store
import TwinRun.System.World

/-!
Operations of the world.

An operation that looks leaves the world as it is, one that changes the files changes nothing else,
and telling about events only shows on the console.
-/

namespace TwinRun.World

theorem change_eq_ok {α : Type} {f : Files → Location → Except SystemError (Files × α)}
    {w w' : World} {a : α} : change f w = .ok a w' ↔
      ∃ files, f w.files w.directory = .ok (files, a) ∧ w' = { w with files } := by
  rw [change]
  cases f w.files w.directory with
  | error e => simp
  | ok r =>
      obtain ⟨files, b⟩ := r
      constructor
      · intro h
        cases h
        exact ⟨files, rfl, rfl⟩
      · rintro ⟨files', hf, rfl⟩
        cases hf
        rfl

/-- A change of the files that gives nothing. -/
theorem change_unit_eq_ok {f : Files → Location → Except SystemError Files} {w w' : World} :
    change (fun fs d => (·, ()) <$> f fs d) w = .ok () w' ↔
      ∃ files, f w.files w.directory = .ok files ∧ w' = { w with files } := by
  rw [change_eq_ok]
  cases f w.files w.directory with
  | error e => exact iff_of_false (fun ⟨_, h, _⟩ => by cases h) (fun ⟨_, h, _⟩ => by cases h)
  | ok fs' =>
      constructor
      · rintro ⟨files, h, rfl⟩
        cases h
        exact ⟨fs', rfl, rfl⟩
      · rintro ⟨files, h, rfl⟩
        cases h
        exact ⟨fs', rfl, rfl⟩

/-- A change that fails changes nothing. -/
theorem change_eq_error {α : Type} {f : Files → Location → Except SystemError (Files × α)}
    {w w' : World} {e : SystemError} (h : change f w = .error e w') : w' = w := by
  rw [change] at h
  split at h <;> cases h
  rfl

theorem look_eq_ok {α : Type} {f : Files → Location → Except SystemError α} {w w' : World} {a : α} :
    look f w = .ok a w' ↔ f w.files w.directory = .ok a ∧ w' = w := by
  rw [look]
  cases f w.files w.directory with
  | error e => simp
  | ok b => simp [eq_comm]

/-- A well-formed tree with the current directory in it. -/
structure Sound (w : World) : Prop where
  files : w.files.WellFormed
  directory : w.files.get? w.directory = some .directory

instance (w : World) : Decidable w.Sound :=
  decidable_of_iff (w.files.WellFormed ∧ w.files.get? w.directory = some .directory)
    ⟨fun ⟨h, h'⟩ => ⟨h, h'⟩, fun h => ⟨h.files, h.directory⟩⟩

variable {starter : Starter} {filter : Log.Filter} {overflow : Overflow}

/-- Worlds that differ at most in what the console shows. -/
structure Alike (w w' : World) : Prop where
  files : w'.files = w.files
  directory : w'.directory = w.directory
  environment : w'.environment = w.environment

theorem Alike.refl (w : World) : w.Alike w := ⟨rfl, rfl, rfl⟩

theorem Alike.trans {w w' w'' : World} (h : w.Alike w') (h' : w'.Alike w'') : w.Alike w'' :=
  ⟨h'.files.trans h.files, h'.directory.trans h.directory, h'.environment.trans h.environment⟩

/-- Telling about an event leaves everything but the console alone. -/
theorem alike_note (starter : Starter) (filter : Log.Filter) (overflow : Overflow) (e : Log.Event)
    (w : World) :
    w.Alike ((hostOf starter filter overflow).note e w) := by
  change w.Alike (if _ then _ else _)
  split
  · exact ⟨rfl, rfl, rfl⟩
  · exact .refl w

/-- A stage that is started has changed the files, but its output is still to come. -/
theorem start_of_ok (filter : Log.Filter) (overflow : Overflow) {launch : Launch} {w : World}
    {b : Behaviour} (h : starter launch w = .ok b) :
    (hostOf starter filter overflow).start launch w
      = .ok (childOf launch b) { w with files := b.files } := by
  change start starter launch w = _
  rw [start, h]

theorem start_of_error (filter : Log.Filter) (overflow : Overflow) {launch : Launch} {w : World}
    {e : SystemError} (h : starter launch w = .error e) :
    (hostOf starter filter overflow).start launch w = .error e w := by
  change start starter launch w = _
  rw [start, h]

/-- A file is made or emptied. -/
theorem create_of_ok {p : Path} {h : Handle} {w : World} {files : Files}
    (hcreate : w.files.create w.directory p = .ok (files, h)) :
    (hostOf starter filter overflow).create p w = .ok h { w with files } := by
  have hchange : (hostOf starter filter overflow).create p = change fun fs d => fs.create d p := rfl
  rw [hchange, change_eq_ok]
  exact ⟨files, hcreate, rfl⟩

theorem read_of_ok {p : Path} {w : World} {content : Bytes}
    (hread : w.files.read w.directory p = .ok content) :
    (hostOf starter filter overflow).read p w = .ok content w := by
  have hlook : (hostOf starter filter overflow).read p = look fun fs d => fs.read d p := rfl
  rw [hlook, look_eq_ok]
  exact ⟨hread, rfl⟩

/-- Bytes are written to the files. -/
theorem write_of_ok {h : Handle} {more : Bytes} {w : World} {files : Files}
    (hwrite : w.files.write h more = .ok files) :
    (hostOf starter filter overflow).write h more w = .ok () { w with files } := by
  have hchange : (hostOf starter filter overflow).write h more
      = change fun fs _ => (·, ()) <$> fs.write h more := rfl
  rw [hchange, change_unit_eq_ok]
  exact ⟨files, hwrite, rfl⟩

/-! ### Looking -/

theorem attempt_look {α : Type} (f : Files → Location → Except SystemError α) (w : World) :
    Operation.attempt (look f) w = .ok (f w.files w.directory) w := by
  rw [Operation.attempt, look]
  cases f w.files w.directory <;> rfl

theorem looks_attempt_look {α : Type} (f : Files → Location → Except SystemError α) :
    Looks Alike (Operation.attempt (look f)) fun _ => True :=
  fun w => ⟨_, w, attempt_look f w, .refl w, trivial⟩

/-- What a listing was taken from. -/
theorem listing_eq_ok {fs : Files} {d : Location} {p : Path} {entries : List Listed} :
    listing fs d p = .ok entries ↔
      ∃ l, fs.find d p true = .ok (l, .directory) ∧ entries = (fs.names l).map (listed fs l) := by
  unfold listing
  cases hfind : fs.find d p true with
  | error e => simp [bind, Except.bind]
  | ok r =>
      obtain ⟨l, n⟩ := r
      cases n <;> simp [bind, Except.bind, pure, Except.pure, throw, throwThe, MonadExceptOf.throw,
        eq_comm]

/-- Looking at the world leaves everything but the console alone. -/
theorem quiet_hostOf (starter : Starter) (filter : Log.Filter) (overflow : Overflow) :
    (hostOf starter filter overflow).Quiet Alike where
  refl := .refl
  trans := .trans
  note := alike_note starter filter overflow
  inspect follow p := looks_attempt_look fun fs d => inspection fs d follow p
  list p := looks_attempt_look fun fs d => listing fs d p

end TwinRun.World
