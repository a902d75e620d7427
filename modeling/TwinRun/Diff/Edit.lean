/-!
Edit scripts: how one list turns into another.

An edit keeps an item of both sides, deletes one of the old side or inserts one of the
new side. `olds` and `news` read the two sides back from a script.
-/

namespace TwinRun

inductive Edit (α : Type) where
  | equal (item : α)
  | delete (item : α)
  | insert (item : α)
  deriving DecidableEq, Repr

namespace Edit

variable {α : Type}

def item : Edit α → α
  | equal a | delete a | insert a => a

def isChange : Edit α → Bool
  | equal _ => false
  | _ => true

def old? : Edit α → Option α
  | equal a | delete a => some a
  | insert _ => none

def new? : Edit α → Option α
  | equal a | insert a => some a
  | delete _ => none

/-- The old side of a script. -/
def olds (script : List (Edit α)) : List α := script.filterMap old?

/-- The new side of a script. -/
def news (script : List (Edit α)) : List α := script.filterMap new?

@[simp] theorem olds_append (s t : List (Edit α)) : olds (s ++ t) = olds s ++ olds t := by
  simp [olds]

@[simp] theorem news_append (s t : List (Edit α)) : news (s ++ t) = news s ++ news t := by
  simp [news]

@[simp] theorem olds_map_equal (l : List α) : olds (l.map equal) = l := by
  induction l <;> simp_all [olds, old?]

@[simp] theorem news_map_equal (l : List α) : news (l.map equal) = l := by
  induction l <;> simp_all [news, new?]

@[simp] theorem olds_map_delete (l : List α) : olds (l.map delete) = l := by
  induction l <;> simp_all [olds, old?]

@[simp] theorem news_map_delete (l : List α) : news (l.map delete) = [] := by
  induction l <;> simp_all [news, new?]

@[simp] theorem olds_map_insert (l : List α) : olds (l.map insert) = [] := by
  induction l <;> simp_all [olds, old?]

@[simp] theorem news_map_insert (l : List α) : news (l.map insert) = l := by
  induction l <;> simp_all [news, new?]

end Edit

end TwinRun
