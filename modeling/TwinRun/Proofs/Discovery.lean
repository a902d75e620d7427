import TwinRun.Discovery
import TwinRun.Proofs.Artifact
import TwinRun.Proofs.System.Host

/-!
Finding the cases only looks.

`Discovery.looks_inDirectories`: finding the cases never fails, on any host, and no name of a case
holds a slash.
-/

namespace TwinRun.Discovery

variable {σ : Type} {host : Host σ} {R : σ → σ → Prop}

/-- A case whose name may stand in the name of a file. -/
def Plain (c : Case) : Prop := '/' ∉ c.name.toList

theorem plain_of_caseOf? {extension : String} {path : Path} {kind : EntryKind} {c : Case}
    (h : caseOf? extension path kind = some c) : Plain c := by
  unfold caseOf? at h
  split at h
  · exact Case.slash_not_mem_name h
  · cases h

/-- Passing over an entry gives no case. -/
theorem looks_skip (hq : host.Quiet R) (dir : Path) (text : String) :
    Looks R (skip host dir text) fun found => ∀ c, found = some c → Plain c :=
  hq.bind (hq.tell _) fun _ _ => hq.pure fun _ h => by cases h

theorem looks_visit (hq : host.Quiet R) (dir : Path) (extension : String) (entry : Listed) :
    Looks R (visit host dir extension entry) fun found => ∀ c, found = some c → Plain c := by
  have hcase : ∀ kind, Looks R (pure (caseOf? extension (dir.join ⟨entry.name⟩) kind)) fun found =>
      ∀ c, found = some c → Plain c := fun kind => hq.pure fun c h => plain_of_caseOf? h
  unfold visit
  dsimp only
  split
  · exact looks_skip hq dir _
  · refine hq.bind (hq.inspect true _) fun kind _ => ?_
    split
    · exact looks_skip hq dir _
    · refine hq.bind (hq.ask _) fun loops _ => ?_
      split
      · exact looks_skip hq dir _
      · exact hq.pure fun _ h => by cases h
    · exact hcase _
  · exact hcase _

theorem looks_inDirectory (hq : host.Quiet R) (dir : Path) (extension : String) :
    Looks R (inDirectory host dir extension) fun cases => ∀ c ∈ cases, Plain c := by
  refine hq.bind (hq.ask _) fun present _ => ?_
  split
  · exact hq.bind (hq.tell _) fun _ _ => hq.pure (List.forall_mem_nil _)
  · refine hq.bind (hq.list dir) fun entries _ => ?_
    cases entries with
    | error e =>
        exact hq.bind (hq.tell _) fun _ _ => hq.bind (hq.tell _) fun _ _ =>
          hq.pure (List.forall_mem_nil _)
    | ok entries =>
        refine hq.bind (hq.filterMapM fun entry _ => looks_visit hq dir extension entry)
          fun cases h => ?_
        exact hq.bind (hq.tell _) fun _ _ => hq.pure h

/-- Finding the cases only looks, and gives cases with plain names. -/
theorem looks_inDirectories (hq : host.Quiet R) (dirs : List Path) (extension : String) :
    Looks R (inDirectories host dirs extension) fun cases => ∀ c ∈ cases, Plain c := by
  refine hq.bind (hq.mapM fun dir _ => looks_inDirectory hq dir extension) fun found h => ?_
  refine hq.pure fun c hc => ?_
  obtain ⟨cases, hcases, hc⟩ := List.mem_flatten.mp hc
  exact h cases hcases c hc

end TwinRun.Discovery
