import TwinRun.Proofs.Scratch
import TwinRun.Proofs.System.Passing

/-!
What cleaning the scratch directory leaves as it is.

`l` is the directory that the scratch path leads to once it has been made.

* `Scratch.Cleaned`: below `l` nothing is left, outside it nothing has changed but that missing
  directories on the way have been made.
* `Scratch.prepare_cleans`: every preparation that succeeds does this, and one that fails because
  the directory cannot be made has removed nothing.

A path may lead to `l` through an entry of `l`, which is removed like the others. Then it does not
lead to `l` any more, and another preparation makes something else (`Scratch.prepare_ownEntry`).
-/

namespace TwinRun.Scratch

variable {starter : World.Starter} {filter : Log.Filter} {overflow : Overflow} {w w' : World}
  {p : Path} {l : Location}

/-! ### Another preparation -/

/-- Where the path leads to an empty directory, preparing it changes nothing. -/
theorem prepare_of_empty (hwf : w.files.WellFormed)
    (hfind : w.files.find w.directory p true = .ok (l, .directory))
    (hempty : ∀ x, x ≠ [] → w.files.get? (l ++ x) = none) :
    ∃ w', prepare (World.hostOf starter filter overflow) p w = .ok () w' ∧ w.Alike w' := by
  have hnames : w.files.names l = [] := by
    refine List.eq_nil_iff_forall_not_mem.mpr fun a ha => ?_
    obtain ⟨n, hn⟩ := Files.mem_names.mp ha
    have hentry := (hwf.mem_nodes (by simp)).mp hn
    rw [hempty [a] (by simp)] at hentry
    cases hentry
  have hmake : (World.hostOf starter filter overflow).makeDirectories (p :: p.ancestors) w
      = .ok () w :=
    World.makeDirectories_of_find p.ancestors hfind
  have hlist : (World.hostOf starter filter overflow).list p w = .ok [] w := by
    change World.look (fun fs d => World.listing fs d p) w = .ok [] w
    exact World.look_eq_ok.mpr ⟨World.listing_eq_ok.mpr ⟨l, hfind, by rw [hnames]; rfl⟩, rfl⟩
  refine ⟨(World.hostOf starter filter overflow).note (.scratchCleared p 0) w, ?_,
    World.alike_note starter filter overflow _ w⟩
  exact (Operation.orFault_bind_of_ok hmake _).trans
    (Operation.orFault_bind_of_ok hlist _)

/-! ### Frames -/

/-- What cleaning the directory at `l` has done. -/
structure Cleaned (host : Host World) (p : Path) (w : World) (l : Location) (w' : World) :
    Prop where
  /-- First only the directory and those above it have been made, where they were missing. -/
  builds : Files.Builds w.directory (p :: p.ancestors) w.files (made host p w).files
  leads : (made host p w).files.find w.directory p true = .ok (l, .directory)
  /-- It is a directory without entries now, -/
  directory : w'.files.get? l = some .directory
  empty : ∀ x, x ≠ [] → w'.files.get? (l ++ x) = none
  /-- and outside it everything is as before. -/
  outside : w'.files.outside l = (made host p w).files.outside l
  /-- Links in it are gone, and where they led, everything outside it is as before. -/
  links : ∀ x target, x ≠ [] → (made host p w).files.get? (l ++ x) = some (.link target) →
    w'.files.get? (l ++ x) = none ∧
      ∀ y n, (made host p w).files.find (l ++ x).dropLast ⟨target⟩ true = .ok (y, n) →
        ∀ z, ¬ (l <+: y ++ z ∧ y ++ z ≠ l) →
          w'.files.get? (y ++ z) = (made host p w).files.get? (y ++ z)
  current : w'.directory = w.directory
  environment : w'.environment = w.environment
  /-- The path still leads to the directory unless it led there through one of its entries, -/
  stays : w'.files.find w'.directory p true = .ok (l, .directory) ↔
    ∀ x, x ≠ [] → ¬ (made host p w).files.Passes w.directory p (l ++ x)
  /-- and then another preparation changes nothing. -/
  again : w'.files.find w'.directory p true = .ok (l, .directory) →
    ∃ w'', prepare host p w' = .ok () w'' ∧ w'.Alike w''

/-- **Cleaning.** A preparation that succeeds empties the directory that the path leads to and
touches nothing else; one that fails because the directory cannot be made has removed nothing. -/
theorem prepare_cleans (hsound : w.Sound) (p : Path) :
    (∀ w', prepare (World.hostOf starter filter overflow) p w = .ok () w' →
      ∃ l, Cleaned (World.hostOf starter filter overflow) p w l w') ∧
    ∀ cause w', prepare (World.hostOf starter filter overflow) p w
        = .error (.scratch p .create cause) w' →
      Files.Builds w.directory (p :: p.ancestors) w.files w'.files := by
  obtain ⟨hsound₁, hdirectory₁, -, hbuilds⟩ := grows_made starter filter p w hsound
  constructor
  · intro w' h
    obtain ⟨l, hleads, hwf, hdirectory, henvironment, hget⟩ := prepare_eq_ok hsound h
    have hempty : ∀ x, x ≠ [] → w'.files.get? (l ++ x) = none := by
      intro x hx
      rw [hget, Files.outside_append hx]
    refine ⟨l, hbuilds, hleads, ?_, hempty, Files.outside_eq hget, ?_, hdirectory, henvironment,
      ?_, fun hfind => prepare_of_empty hwf hfind hempty⟩
    · rw [hget, Files.outside_self]
      exact Files.find_reached hsound₁.files hsound₁.directory (hdirectory₁ ▸ hleads)
    · intro x target hx _
      refine ⟨hempty x hx, fun y n _ z hz => ?_⟩
      rw [hget, Files.outside, if_neg hz]
    · rw [hdirectory]
      exact Files.find_outside_iff hleads hget
  · intro cause w' h
    obtain rfl := (prepare_eq_error.mp h).eq_made
    exact hbuilds

/-! ### A directory behind a link, and one that cannot be made -/

/-- A system on which no program is found. -/
def bareHost : Host World := World.hostOf (fun _ _ => .error .notFound) .silent

/-- The scratch directory is reached through a link, and links in it lead out of it, to the root and
back to it. -/
def linkedScene : World where
  files :=
    { nodes :=
        [([.ofString "keep"], .directory),
          ([.ofString "keep", .ofString "a"], .file 0 (.ofString "1") false),
          ([.ofString "store"], .directory),
          ([.ofString "store", .ofString "temp"], .directory),
          ([.ofString "store", .ofString "temp", .ofString "old"], .directory),
          ([.ofString "store", .ofString "temp", .ofString "old", .ofString "a_my.out"],
            .file 1 [] false),
          ([.ofString "store", .ofString "temp", .ofString "old", .ofString "up"],
            .link (.ofString "../../../keep")),
          ([.ofString "store", .ofString "temp", .ofString "root"], .link (.ofString "/")),
          ([.ofString "store", .ofString "temp", .ofString "self"], .link (.ofString ".")),
          ([.ofString "work"], .link (.ofString "store"))]
      nextIdentity := 2 }
  directory := []

def linkedCleared : World :=
  { linkedScene with
    files := { linkedScene.files with
      nodes := linkedScene.files.nodes.take 4 ++ linkedScene.files.nodes.drop 9 } }

/-- The scene with a directory that has been made on the way to a file. -/
def linkedExtended : World :=
  { linkedScene with
    files := { linkedScene.files with
      nodes := linkedScene.files.nodes ++ [([.ofString "new"], .directory)] } }

theorem prepare_cleans_linked :
    linkedScene.Sound ∧
      prepare bareHost (.ofString "work/temp") linkedScene = .ok () linkedCleared ∧
      Cleaned bareHost (.ofString "work/temp") linkedScene [.ofString "store", .ofString "temp"]
        linkedCleared ∧
      prepare bareHost (.ofString "new/../keep/a") linkedScene
        = .error (.scratch (.ofString "new/../keep/a") .create .alreadyExists) linkedExtended ∧
      Files.Builds [] (.ofString "new/../keep/a" :: Path.ancestors (.ofString "new/../keep/a"))
        linkedScene.files linkedExtended.files := by
  have hsound : linkedScene.Sound := by decide
  have hprepare : prepare bareHost (.ofString "work/temp") linkedScene = .ok () linkedCleared := by
    rfl
  have hleads : (made bareHost (.ofString "work/temp") linkedScene).files.find []
      (.ofString "work/temp") true = .ok ([.ofString "store", .ofString "temp"], .directory) := by
    rfl
  obtain ⟨l, hcleaned⟩ := (prepare_cleans hsound (.ofString "work/temp")).1 _ hprepare
  cases hleads.symm.trans hcleaned.leads
  have hfail : prepare bareHost (.ofString "new/../keep/a") linkedScene
      = .error (.scratch (.ofString "new/../keep/a") .create .alreadyExists) linkedExtended := by
    rfl
  have hbuilds := (prepare_cleans hsound (.ofString "new/../keep/a")).2 _ _ hfail
  exact ⟨hsound, hprepare, hcleaned, hfail, hbuilds⟩

/-! ### A path through an entry of its directory -/

/-- The directory `temp` holds a link to itself. -/
def ownEntryScene : World where
  files :=
    { nodes :=
        [([.ofString "temp"], .directory),
          ([.ofString "temp", .ofString "loop"], .link (.ofString "."))]
      nextIdentity := 0 }
  directory := []

/-- The link is an entry of the directory that it leads to, so it is removed. -/
def ownEntryCleared : World :=
  { ownEntryScene with
    files := { ownEntryScene.files with nodes := ownEntryScene.files.nodes.take 1 } }

/-- Its path is free then, and a directory is made there. -/
def ownEntryAgain : World :=
  { ownEntryScene with
    files := { ownEntryScene.files with
      nodes := [([.ofString "temp"], .directory),
        ([.ofString "temp", .ofString "loop"], .directory)] } }

/-- Preparing the directory succeeds, but its path leads nowhere then, and preparing it again
changes the tree. -/
theorem prepare_ownEntry :
    ownEntryScene.Sound ∧
      prepare bareHost (.ofString "temp/loop") ownEntryScene = .ok () ownEntryCleared ∧
      ownEntryCleared.files.find ownEntryCleared.directory (.ofString "temp/loop") true
        = .error .notFound ∧
      prepare bareHost (.ofString "temp/loop") ownEntryCleared = .ok () ownEntryAgain ∧
      ownEntryAgain.files.get? [.ofString "temp", .ofString "loop"]
        ≠ ownEntryCleared.files.get? [.ofString "temp", .ofString "loop"] := by
  refine ⟨by decide, rfl, by decide, rfl, by decide⟩

end TwinRun.Scratch
