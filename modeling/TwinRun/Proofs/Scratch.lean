import TwinRun.Proofs.System.Making
import TwinRun.Proofs.System.Operations
import TwinRun.Scratch

/-!
Preparing the scratch directory.

* `Scratch.removeEntries_spec`: what is removed, where the path may lead nowhere in the end.
* `Scratch.prepare_eq_ok`: all that a preparation has done when it has succeeded.
* `Scratch.prepare_spec`: when the directory has been prepared, nothing is left in it, at any depth.
* `Scratch.Breaks`: on any system, a preparation fails exactly where the directory cannot be made or
  listed, or where one of its entries cannot be told or removed.
-/

namespace TwinRun

/-! ### Removing entries -/

namespace Files

variable {fs fs' : Files} {d : Location} {p : Path}

/-- What a removed tree was. -/
theorem removeTree_eq_ok (h : fs.removeTree d p = .ok fs') :
    ∃ x, fs.find d p false = .ok (x, .directory) ∧ fs' = fs.erase x := by
  unfold removeTree at h
  cases hfind : fs.find d p false with
  | error e => rw [hfind] at h; cases h
  | ok r =>
      obtain ⟨x, n⟩ := r
      rw [hfind] at h
      cases n <;> cases h
      exact ⟨x, rfl, rfl⟩

/-- What a removed file was. -/
theorem removeFile_eq_ok (h : fs.removeFile d p = .ok fs') :
    ∃ x n, fs.find d p false = .ok (x, n) ∧ fs' = fs.erase x := by
  unfold removeFile at h
  cases hfind : fs.find d p false with
  | error e => rw [hfind] at h; cases h
  | ok r =>
      obtain ⟨x, n⟩ := r
      rw [hfind] at h
      cases n <;> cases h <;> exact ⟨x, _, rfl, rfl⟩

end Files

namespace World

variable {starter : Starter} {filter : Log.Filter} {overflow : Overflow} {w w' : World} {p : Path}

theorem removeTree_eq_ok (h : removeTree p w = .ok () w') :
    ∃ x n, w.files.find w.directory p false = .ok (x, n) ∧
      w' = { w with files := w.files.erase x } := by
  unfold removeTree at h
  split at h <;> cases h
  next hremove _ =>
  obtain ⟨x, hfind, rfl⟩ := Files.removeTree_eq_ok hremove
  exact ⟨x, _, hfind, rfl⟩

theorem removeFile_eq_ok (h : (hostOf starter filter overflow).removeFile p w = .ok () w') :
    ∃ x n, w.files.find w.directory p false = .ok (x, n) ∧
      w' = { w with files := w.files.erase x } := by
  have hchange : (hostOf starter filter overflow).removeFile p
      = change fun fs d => (·, ()) <$> fs.removeFile d p := rfl
  rw [hchange] at h
  obtain ⟨files, hremove, rfl⟩ := change_unit_eq_ok.mp h
  obtain ⟨x, n, hfind, rfl⟩ := Files.removeFile_eq_ok hremove
  exact ⟨x, n, hfind, rfl⟩

end World

namespace Scratch

variable {starter : World.Starter} {filter : Log.Filter} {overflow : Overflow} {w w' : World}
  {p : Path} {l : Location}

/-- Removing an entry removes what its path leads to, links not followed, and nothing else. -/
theorem removeEntry_eq_ok {kind : Except SystemError EntryKind}
    (h : removeEntry (World.hostOf starter filter overflow) p kind w = .ok () w') :
    ∃ x n, w.files.find w.directory p false = .ok (x, n) ∧
      w' = { w with files := w.files.erase x } := by
  cases kind with
  | error e => cases h
  | ok kind =>
      have hremove := Operation.orFault_eq_ok.mp h
      split at hremove
      · exact World.removeTree_eq_ok hremove
      · exact World.removeFile_eq_ok hremove

/-- The entries that have been removed are gone with everything below them, and nothing else is.
The path may go through an entry that has been removed before, so its directory is what it led to in
a tree `fs` with more entries. A path that still leads somewhere leads where it led there. -/
theorem removeEntries_spec {entries : List Listed} {fs : Files}
    (hnames : ∀ entry ∈ entries, OrdinaryName entry.name) (hwf : w.files.WellFormed)
    (hwithin : w.files.Within fs) (hfind : fs.find w.directory p true = .ok (l, .directory))
    (h : (entries.forM fun entry =>
      removeEntry (World.hostOf starter filter overflow) (p.join ⟨entry.name⟩) entry.kind) w
        = .ok () w') :
    w'.files.WellFormed ∧ w'.directory = w.directory ∧ w'.environment = w.environment ∧
      ∀ x, w'.files.get? x
        = if ∃ entry ∈ entries, l ++ [entry.name] <+: x then none else w.files.get? x := by
  -- By the entries that are left, with `fs` as it is: the tree shrinks, and stays within `fs`.
  induction entries generalizing w with
  | nil =>
      cases h
      exact ⟨hwf, rfl, rfl, by simp⟩
  | cons a entries ih =>
      obtain ⟨ha, hnames⟩ := List.forall_mem_cons.mp hnames
      change (removeEntry _ _ _ >>= fun _ => entries.forM _) w = _ at h
      obtain ⟨_, w₁, hentry, hrest⟩ := bind_eq_ok.mp h
      obtain ⟨x, n, hx, rfl⟩ := removeEntry_eq_ok hentry
      obtain ⟨rfl, -⟩ := Files.find_join_eq_ok hfind ha (Files.find_mono hwithin hx)
      have hbefore := (Files.erase_within w.files (l ++ [a.name])).trans hwithin
      obtain ⟨hwf', hdirectory, henvironment, hget⟩ :=
        ih (w := { w with files := w.files.erase (l ++ [a.name]) }) hnames (hwf.erase _) hbefore
          hfind hrest
      refine ⟨hwf', hdirectory, henvironment, fun y => ?_⟩
      rw [hget y, Files.get?_erase (by simp)]
      by_cases hy : ∃ b ∈ entries, l ++ [b.name] <+: y
      · obtain ⟨b, hb, hprefix⟩ := hy
        rw [if_pos ⟨b, hb, hprefix⟩, if_pos ⟨b, List.mem_cons_of_mem a hb, hprefix⟩]
      · rw [if_neg hy]
        by_cases hprefix : l ++ [a.name] <+: y
        · rw [if_pos hprefix, if_pos ⟨a, List.mem_cons_self, hprefix⟩]
        · rw [if_neg hprefix, if_neg]
          rintro ⟨b, hb, hbprefix⟩
          rcases List.mem_cons.mp hb with rfl | hb
          · exact hprefix hbprefix
          · exact hy ⟨b, hb, hbprefix⟩

/-- When all entries of a directory have been removed, what is left is what was outside it. -/
theorem get?_of_names_removed {fs fs' : Files} (hwf : fs.WellFormed)
    (hget : ∀ x, fs'.get? x = if ∃ a ∈ fs.names l, l ++ [a] <+: x then none else fs.get? x)
    (x : Location) : fs'.get? x = fs.outside l x := by
  rw [hget]
  by_cases hlisted : ∃ a ∈ fs.names l, l ++ [a] <+: x
  · rw [if_pos hlisted]
    obtain ⟨a, -, y, rfl⟩ := hlisted
    rw [← List.append_cons, Files.outside_append (List.cons_ne_nil a y)]
  · rw [if_neg hlisted, Files.outside]
    split
    · next hbelow =>
        obtain ⟨⟨y, rfl⟩, hne⟩ := hbelow
        obtain ⟨a, y, rfl⟩ := List.exists_cons_of_ne_nil (fun h : y = [] => hne (by simp [h]))
        rw [List.append_cons]
        refine hwf.get?_append_of_none ?_ y
        cases hn : fs.get? (l ++ [a]) with
        | none => rfl
        | some n =>
            have hname := Files.mem_names.mpr ⟨n, (hwf.mem_nodes (by simp)).mpr hn⟩
            exact absurd ⟨a, hname, y, (List.append_cons l a y).symm⟩ hlisted
    · rfl

/-- The state once the directory and those above it have been made, or as far as they could be. -/
def made {σ : Type} (host : Host σ) (p : Path) (s : σ) : σ :=
  endState (host.makeDirectories (p :: p.ancestors) s)

theorem grows_made (starter : World.Starter) (filter : Log.Filter) (p : Path) (w : World) :
    World.Grows (p :: p.ancestors) w (made (World.hostOf starter filter overflow) p w) :=
  World.grows_makeDirectories (p :: p.ancestors) w

/-- When the directory has been prepared, it has been made, or was there, and nothing is gone but
what was below it. -/
theorem prepare_eq_ok (hsound : w.Sound)
    (h : prepare (World.hostOf starter filter overflow) p w = .ok () w') :
    ∃ l, (made (World.hostOf starter filter overflow) p w).files.find w.directory p true
        = .ok (l, .directory) ∧
      w'.files.WellFormed ∧ w'.directory = w.directory ∧ w'.environment = w.environment ∧
      ∀ x, w'.files.get? x
        = (made (World.hostOf starter filter overflow) p w).files.outside l x := by
  obtain ⟨_, w₁, hmake, h₁⟩ := bind_eq_ok.mp h
  rw [Operation.orFault_eq_ok] at hmake
  obtain ⟨hsound₁, hdirectory₁, henvironment₁, -⟩ := grows_made starter filter p w hsound
  rw [made, hmake, endState] at *
  obtain ⟨entries, w₂, hlist, h₂⟩ := bind_eq_ok.mp h₁
  have hlook : (World.hostOf starter filter overflow).list p
      = World.look fun fs d => World.listing fs d p := rfl
  rw [Operation.orFault_eq_ok, hlook] at hlist
  obtain ⟨hlist, rfl⟩ := World.look_eq_ok.mp hlist
  obtain ⟨l, hfind, rfl⟩ := World.listing_eq_ok.mp hlist
  obtain ⟨_, w₃, hremove, hnote⟩ := bind_eq_ok.mp h₂
  cases hnote
  have halike := World.alike_note starter filter overflow
    (.scratchCleared p ((w₂.files.names l).map (World.listed w₂.files l)).length) w₃
  have hwf := hsound₁.files
  have hnames : ∀ a ∈ w₂.files.names l, OrdinaryName a := by
    intro a ha
    obtain ⟨n, hn⟩ := Files.mem_names.mp ha
    exact hwf.ordinary hn a (by simp)
  obtain ⟨hwf', hdirectory, henvironment, hget⟩ :=
    removeEntries_spec (List.forall_mem_map.mpr hnames) hwf (.refl _) hfind hremove
  simp only [List.mem_map, exists_exists_and_eq_and, World.listed] at hget
  rw [hdirectory₁] at hfind
  refine ⟨l, hfind, ?_, ?_, ?_, fun x => ?_⟩
  · rw [halike.files]
    exact hwf'
  · rw [halike.directory, hdirectory, hdirectory₁]
  · rw [halike.environment, henvironment, henvironment₁]
  · rw [halike.files]
    exact get?_of_names_removed hwf hget x

/-- **An empty directory.** When the directory has been prepared, and its path still leads to it,
nothing is left in it, at any depth. -/
theorem prepare_spec (hsound : w.Sound)
    (h : prepare (World.hostOf starter filter overflow) p w = .ok () w')
    (hfind : w'.files.find w'.directory p true = .ok (l, .directory)) :
    w'.files.WellFormed ∧ w'.files.get? l = some .directory ∧
      ∀ x, x ≠ [] → w'.files.get? (l ++ x) = none := by
  obtain ⟨l', hmade, hwf, hdirectory, -, hget⟩ := prepare_eq_ok hsound h
  obtain ⟨hsound₁, hdirectory₁, -, -⟩ := grows_made starter filter p w hsound
  -- A path that still leads somewhere leads where it led, so this is the directory that was emptied.
  have hbefore := Files.find_mono (Files.within_of_outside hget) hfind
  rw [hdirectory, hmade] at hbefore
  cases hbefore
  refine ⟨hwf, ?_, fun x hx => ?_⟩
  · rw [hget, Files.outside_self]
    exact Files.find_reached hsound₁.files hsound₁.directory (hdirectory₁ ▸ hmade)
  · rw [hget, Files.outside_append hx]

/-! ### Failures -/

section Failures

variable {σ : Type} {host : Host σ} {scratch : Path} {s s' : σ} {f : Fault}

def removal (host : Host σ) (scratch : Path) (name : Bytes) (kind : EntryKind) : Operation σ Unit :=
  if kind = .directory then host.removeTree (scratch.join ⟨name⟩)
  else host.removeFile (scratch.join ⟨name⟩)

/-- After some entries, the next one cannot be told or removed. -/
inductive RemovalBreaks (host : Host σ) (scratch : Path) : σ → List Listed → Fault → σ → Prop
  | inspect {name : Bytes} {cause : SystemError} {rest : List Listed} {s : σ} :
      RemovalBreaks host scratch s (⟨name, .error cause⟩ :: rest)
        (.scratch (scratch.join ⟨name⟩) .inspect cause) s
  | remove {name : Bytes} {kind : EntryKind} {cause : SystemError} {rest : List Listed} {s s' : σ}
      (h : removal host scratch name kind s = .error cause s') :
      RemovalBreaks host scratch s (⟨name, .ok kind⟩ :: rest)
        (.scratch (scratch.join ⟨name⟩) .remove cause) s'
  | later {name : Bytes} {kind : EntryKind} {rest : List Listed} {f : Fault} {s s₁ s' : σ}
      (h : removal host scratch name kind s = .ok () s₁)
      (hlater : RemovalBreaks host scratch s₁ rest f s') :
      RemovalBreaks host scratch s (⟨name, .ok kind⟩ :: rest) f s'

inductive Breaks (host : Host σ) (scratch : Path) (s : σ) : Fault → σ → Prop
  | create {cause : SystemError} {s' : σ}
      (h : host.makeDirectories (scratch :: scratch.ancestors) s = .error cause s') :
      Breaks host scratch s (.scratch scratch .create cause) s'
  | list {cause : SystemError} {s₁ s' : σ}
      (hmade : host.makeDirectories (scratch :: scratch.ancestors) s = .ok () s₁)
      (h : host.list scratch s₁ = .error cause s') :
      Breaks host scratch s (.scratch scratch .list cause) s'
  | entry {entries : List Listed} {f : Fault} {s₁ s₂ s' : σ}
      (hmade : host.makeDirectories (scratch :: scratch.ancestors) s = .ok () s₁)
      (hlist : host.list scratch s₁ = .ok entries s₂)
      (h : RemovalBreaks host scratch s₂ entries f s') : Breaks host scratch s f s'

theorem removeEntry_ok (host : Host σ) (scratch : Path) (name : Bytes) (kind : EntryKind) :
    removeEntry host (scratch.join ⟨name⟩) (.ok kind)
      = (removal host scratch name kind).orFault (.scratch (scratch.join ⟨name⟩) .remove) :=
  rfl

theorem forM_removeEntry_eq_error {entries : List Listed} :
    (entries.forM fun entry => removeEntry host (scratch.join ⟨entry.name⟩) entry.kind) s
      = .error f s' ↔ RemovalBreaks host scratch s entries f s' := by
  induction entries generalizing s with
  | nil => exact iff_of_false (fun h => by cases h) (fun h => by cases h)
  | cons entry entries ih =>
      obtain ⟨name, kind⟩ := entry
      change (removeEntry host (scratch.join ⟨name⟩) kind >>= fun _ => entries.forM _) s = _ ↔ _
      -- An entry whose kind is not known is not removed, and the fault is that of looking at it.
      cases kind with
      | error cause =>
          constructor
          · rintro ⟨⟩
            exact .inspect
          · rintro ⟨⟩
            rfl
      | ok kind =>
          rw [removeEntry_ok, bind_eq_error, Operation.orFault_eq_error]
          constructor
          · rintro (⟨cause, h, rfl⟩ | ⟨_, s₁, h, hlater⟩)
            · exact .remove h
            · exact .later (Operation.orFault_eq_ok.mp h) (ih.mp hlater)
          · intro h
            cases h with
            | remove h => exact .inl ⟨_, h, rfl⟩
            | later h hlater => exact .inr ⟨(), _, Operation.orFault_of_ok h _, ih.mpr hlater⟩

theorem prepare_eq_error :
    prepare host scratch s = .error f s' ↔ Breaks host scratch s f s' := by
  constructor
  · intro h
    rcases Operation.orFault_bind_eq_error.mp h with ⟨cause, hmake, rfl⟩ | ⟨_, s₁, hmade, h⟩
    · exact .create hmake
    rcases Operation.orFault_bind_eq_error.mp h with ⟨cause, hlist, rfl⟩ | ⟨entries, s₂, hlist, h⟩
    · exact .list hmade hlist
    rcases bind_eq_error.mp h with h | ⟨_, s₃, -, h⟩
    · exact .entry hmade hlist (forM_removeEntry_eq_error.mp h)
    · cases h
  · intro h
    cases h with
    | create h =>
        exact Operation.orFault_bind_of_error h _
    | list hmade h =>
        refine (Operation.orFault_bind_of_ok hmade _).trans ?_
        exact Operation.orFault_bind_of_error h _
    | entry hmade hlist h =>
        refine (Operation.orFault_bind_of_ok hmade _).trans ?_
        refine (Operation.orFault_bind_of_ok hlist _).trans ?_
        exact bind_eq_error.mpr (.inl (forM_removeEntry_eq_error.mpr h))

/-- Over an entry, neither of the faults is that of making the directory. -/
theorem RemovalBreaks.fault {entries : List Listed}
    (h : RemovalBreaks host scratch s entries f s') :
    ∃ path action cause, f = .scratch path action cause ∧ action ≠ .create := by
  induction h with
  | inspect => exact ⟨_, .inspect, _, rfl, nofun⟩
  | remove => exact ⟨_, .remove, _, rfl, nofun⟩
  | later _ _ ih => exact ih

/-- A preparation that fails to make the directory ends there. -/
theorem Breaks.eq_made {cause : SystemError}
    (h : Breaks host scratch s (.scratch scratch .create cause) s') :
    s' = made host scratch s := by
  generalize hf : Fault.scratch scratch .create cause = f at h
  cases h with
  | create h => rw [made, h, endState]
  | list => cases hf
  | entry _ _ h =>
      obtain ⟨_, _, _, rfl, hne⟩ := h.fault
      cases hf
      exact absurd rfl hne

end Failures

end Scratch

end TwinRun
