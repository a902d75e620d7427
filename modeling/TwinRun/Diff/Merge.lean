import TwinRun.Diff.Edit

/-!
Turning a common subsequence into blocks of kept, removed and added items.

Each pass over the two sides takes three blocks from the front: the items on which both
sides and the common subsequence agree; then those of the old side up to the next common
item; then those of the new side up to it. As long as the common subsequence is one of
both sides, every pass takes at least one item.
-/

namespace TwinRun

/-- A block of items that share their fate. -/
inductive Chunk (α : Type) where
  | same (items : α)
  | removed (items : α)
  | added (items : α)
  deriving DecidableEq, Repr

namespace Chunk

variable {α β : Type}

def content : Chunk α → α
  | same a | removed a | added a => a

/-- The block with its content changed. -/
def map (f : α → β) : Chunk α → Chunk β
  | same a => same (f a)
  | removed a => removed (f a)
  | added a => added (f a)

end Chunk

namespace Merge

variable {α : Type} [DecidableEq α]

/-- The three lists between two passes. -/
structure State (α : Type) where
  old : List α
  new : List α
  common : List α
  deriving DecidableEq, Repr

/-- How many items are still to be taken. -/
def State.remaining (s : State α) : Nat := s.old.length + s.new.length

/-- Takes items as long as all three lists start with the same one. -/
def takeSame (taken : List α) : State α → List α × State α
  | ⟨o :: old, n :: new, c :: common⟩ =>
      if o = c ∧ n = c then takeSame (o :: taken) ⟨old, new, common⟩
      else (taken.reverse, ⟨o :: old, n :: new, c :: common⟩)
  | s => (taken.reverse, s)

/-- Whether an item is not the next common one. -/
def State.differs (s : State α) (a : α) : Bool := s.common.head? != some a

/-- One pass: the blocks it takes, empty ones left out, and what is left. -/
def pass (s : State α) : List (Chunk (List α)) × State α :=
  let (same, s) := takeSame [] s
  let removed := s.old.takeWhile s.differs
  let added := s.new.takeWhile s.differs
  let blocks := [Chunk.same same, .removed removed, .added added]
  (blocks.filter (fun block => !block.content.isEmpty),
    { s with old := s.old.drop removed.length, new := s.new.drop added.length })

/-- Whether a pass takes anything. -/
def Progresses (s : State α) : Prop := (pass s).2.remaining < s.remaining

instance (s : State α) : Decidable (Progresses s) := by unfold Progresses; infer_instance

/-- Pass after pass until both sides are used up. A pass that takes nothing would be
repeated for ever; the blocks end there. -/
def blocks (s : State α) : List (Chunk (List α)) :=
  if s.remaining = 0 then []
  else if _h : Progresses s then (pass s).1 ++ blocks (pass s).2
  else []
termination_by s.remaining

end Merge

end TwinRun
