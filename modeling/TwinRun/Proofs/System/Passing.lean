import TwinRun.Proofs.System.Walking

/-!
The places that a path leads through.

A walk looks up the entries of one directory after the other. Links on the way are followed, and so
is one at the end, and what is looked up behind them is on the way, too.

* `Files.find_of_agree`: a path leads to the same place in every tree in which the places on its way
  are the same.
* `Files.exists_of_passes`: where a path leads somewhere after entries have been removed, nothing
  that was on its way has been removed.
* `Files.find_outside_iff`: without the entries of its directory, a path still leads to the directory
  exactly if it goes through none of them.
-/

namespace TwinRun.Files

variable {fs fs' : Files}

/-- A walk along names that follows at most so many links looks up a place. -/
inductive Visits (fs : Files) : Nat → Location → List Bytes → Location → Prop
  | here {links : Nat} {l : Location} {name : Bytes} {rest : List Bytes} (hname : EntryName name) :
      Visits fs links l (name :: rest) (l ++ [name])
  | on {links : Nat} {l l' x : Location} {name : Bytes} {rest : List Bytes}
      (h : fs.Leads l name l') (hrest : Visits fs links l' rest x) :
      Visits fs links l (name :: rest) x
  | jump {links : Nat} {l x : Location} {name target : Bytes} {rest : List Bytes}
      (hname : EntryName name) (h : fs.get? (l ++ [name]) = some (.link target))
      (htarget : target ≠ [])
      (hrest : Visits fs links (linkStart l target) (namesOf target ++ rest) x) :
      Visits fs (links + 1) l (name :: rest) x

/-- A path leads through a place. -/
def Passes (fs : Files) (d : Location) (p : Path) (x : Location) : Prop :=
  fs.Visits maxLinks (pathStart d p) (namesOf p.bytes) x

/-! ### The same places -/

theorem Walks.of_agree {links : Nat} {l : Location} {ns : List Bytes} {place : Place}
    (hwalk : fs.Walks true links l ns place)
    (h : ∀ x, fs.Visits links l ns x → fs'.get? x = fs.get? x) :
    fs'.Walks true links l ns place := by
  -- A walk looks at the entries it visits and at no others, step by step.
  induction hwalk with
  | stop => exact .stop
  | on hleads _ ih =>
      exact .on (hleads.mono fun hname hdirectory => (h _ (.here hname)).trans hdirectory)
        (ih fun x hx => h x (.on hleads hx))
  | free slash hname hnone hend => exact .free slash hname ((h _ (.here hname)).trans hnone) hend
  | last hname hn hdirectory hlink =>
      exact .last hname ((h _ (.here hname)).trans hn) hdirectory hlink
  | jump hname hlink hend htarget _ ih =>
      exact .jump hname ((h _ (.here hname)).trans hlink) hend htarget
        (ih fun x hx => h x (.jump hname hlink htarget hx))

/-- A path leads to the same place where the places on its way are the same. -/
theorem find_of_agree {d x : Location} {p : Path} {n : FileNode}
    (hfind : fs.find d p true = .ok (x, n))
    (h : ∀ y, fs.Passes d p y → fs'.get? y = fs.get? y) : fs'.find d p true = .ok (x, n) := by
  obtain ⟨hcheck, hwalk⟩ := resolve_eq_ok.mp (find_eq_ok.mp hfind)
  exact find_eq_ok.mpr (resolve_eq_ok.mpr ⟨hcheck, hwalk.of_agree h⟩)

/-! ### Removed places -/

theorem Leads.unique {l l₁ l₂ : Location} {name : Bytes} (h₁ : fs.Leads l name l₁)
    (h₂ : fs.Leads l name l₂) : l₁ = l₂ := by
  cases h₁ with
  | stay hskip =>
      cases h₂ with
      | stay => rfl
      | up hskip' => exact absurd hskip hskip'
      | down hname => exact absurd hskip hname.not_skipped
  | up hskip hparent =>
      cases h₂ with
      | stay hskip' => exact absurd hskip' hskip
      | up => rfl
      | down hname => exact absurd hparent hname.ne_parent
  | down hname =>
      cases h₂ with
      | stay hskip => exact absurd hskip hname.not_skipped
      | up _ hparent => exact absurd hparent hname.ne_parent
      | down => rfl

/-- A name of an entry leads to the entry, which is a directory. -/
theorem Leads.get?_entry {l l' : Location} {name : Bytes} (h : fs.Leads l name l')
    (hname : EntryName name) : fs.get? (l ++ [name]) = some .directory := by
  cases h with
  | stay hskip => exact absurd hskip hname.not_skipped
  | up _ hparent => exact absurd hparent hname.ne_parent
  | down _ hdirectory => exact hdirectory

theorem Walks.exists_of_visits (hwithin : fs'.Within fs) {links : Nat} {l x y : Location}
    {ns : List Bytes} {n : FileNode} (hwalk : fs'.Walks true links l ns (.found x n))
    (hvisits : fs.Visits links l ns y) : ∃ m, fs'.get? y = some m := by
  -- Everything that the walk finds is in the larger tree, too, so there it goes the same way.
  generalize hplace : Place.found x n = place at hwalk
  induction hwalk with
  | stop => cases hvisits
  | on hleads _ ih =>
      cases hvisits with
      | here hname => exact ⟨_, hleads.get?_entry hname⟩
      | on hleads' hrest =>
          obtain rfl := (hleads.map faithful_id hwithin).unique hleads'
          exact ih hrest hplace
      | jump hname hlink _ _ =>
          rw [hwithin _ _ (hleads.get?_entry hname)] at hlink
          cases hlink
  | free => cases hplace
  | last hname hn hdirectory hlink =>
      cases hvisits with
      | here => exact ⟨_, hn⟩
      | on _ hrest => cases hrest
      | jump _ hlink' _ _ =>
          rw [hwithin _ _ hn] at hlink'
          exact absurd (Option.some.inj hlink') (hlink rfl _)
  | jump hname hlink _ _ _ ih =>
      cases hvisits with
      | here => exact ⟨_, hlink⟩
      | on hleads _ =>
          have hdirectory := hleads.get?_entry hname
          rw [hwithin _ _ hlink] at hdirectory
          cases hdirectory
      | jump _ hlink' _ hrest =>
          rw [hwithin _ _ hlink] at hlink'
          cases hlink'
          exact ih hrest hplace

/-- Where a path still leads somewhere, everything that was on its way is still there. -/
theorem exists_of_passes (hwithin : fs'.Within fs) {d x y : Location} {p : Path} {n : FileNode}
    (hfind : fs'.find d p true = .ok (x, n)) (hpasses : fs.Passes d p y) :
    ∃ m, fs'.get? y = some m := by
  obtain ⟨-, hwalk⟩ := resolve_eq_ok.mp (find_eq_ok.mp hfind)
  exact hwalk.exists_of_visits hwithin hpasses

/-- A path of a directory leads to it without its entries, too, unless it goes through one. -/
theorem find_outside_iff {d l : Location} {p : Path}
    (hfind : fs.find d p true = .ok (l, .directory))
    (h : ∀ x, fs'.get? x = fs.outside l x) : fs'.find d p true = .ok (l, .directory) ↔
      ∀ x, x ≠ [] → ¬ fs.Passes d p (l ++ x) := by
  constructor
  · intro hfind' x hx hpasses
    -- An entry on the way would still be there.
    obtain ⟨n, hn⟩ := exists_of_passes (within_of_outside h) hfind' hpasses
    rw [h, outside_append hx] at hn
    cases hn
  · intro hnone
    refine find_of_agree hfind fun y hy => ?_
    rw [h, outside, if_neg]
    rintro ⟨⟨x, rfl⟩, hne⟩
    exact hnone x (fun hx => hne (by simp [hx])) hy

end TwinRun.Files
