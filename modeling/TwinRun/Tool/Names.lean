import TwinRun.Tool.Basic

/-!
Tools that take paths apart.
-/

namespace TwinRun.Tool

def withoutSlashes (t : Letters) : Letters := (t.reverse.dropWhile (· == '/')).reverse

/-- The last name of a path. What consists of slashes alone is the root. -/
def lastName (t : Letters) : Letters :=
  let t' := withoutSlashes t
  if t'.isEmpty then t.take 1 else (t'.reverse.takeWhile (· != '/')).reverse

/-- A name without an end, unless it would be empty without it. -/
def withoutEnd (suffix name : Letters) : Letters :=
  if suffix ≠ [] ∧ name ≠ suffix ∧ name.head? ≠ some '/' ∧ suffix.isSuffixOf name then
    name.take (name.length - suffix.length)
  else name

/-- The path of the directory in which a path is. -/
def parentOf (t : Letters) : Letters :=
  let t' := withoutSlashes t
  if t'.isEmpty then if t.isEmpty then ['.'] else ['/']
  else
    let before := (t'.reverse.dropWhile (· != '/')).reverse
    if before.isEmpty then ['.']
    else
      let before := withoutSlashes before
      if before.isEmpty then ['/'] else before

/-- What ends an item of output. -/
def endOf (o : Options) : Char := if o.has 'z' then '\x00' else '\n'

def basename : Program := withSpec
    { flags := "az", valued := "s", ordered := true
      long := [⟨"multiple", 'a', none⟩, ⟨"suffix", 's', some true⟩, ⟨"zero", 'z', none⟩] } fun o => do
  let print (suffix path : Letters) : Job Unit := emit (withoutEnd suffix (lastName path) ++ [endOf o])
  if o.operands.isEmpty then misuse "missing operand".toList 1
  if o.has 'a' || o.has 's' then o.operands.forM (print ((o.value? 's').getD []))
  else match o.operands with
  | [path] => print [] path
  | [path, suffix] => print suffix path
  | operands => misuse ("extra operand ".toList ++ quote (operands.getD 2 [])) 1

/-- Prints the directory of each path. -/
def dirname : Program := withSpec
    { flags := "z", ordered := true, long := [⟨"zero", 'z', none⟩] } fun o => do
  if o.operands.isEmpty then misuse "missing operand".toList 1
  o.operands.forM fun path => emit (parentOf path ++ [endOf o])

end TwinRun.Tool
