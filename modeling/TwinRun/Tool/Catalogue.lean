import TwinRun.Tool.Columns
import TwinRun.Tool.Condition
import TwinRun.Tool.Count
import TwinRun.Tool.Environment
import TwinRun.Tool.Expression
import TwinRun.Tool.Grep
import TwinRun.Tool.Inspect
import TwinRun.Tool.Lines
import TwinRun.Tool.Names
import TwinRun.Tool.Order
import TwinRun.Tool.Print
import TwinRun.Tool.Relay
import TwinRun.Tool.Sed.Program
import TwinRun.Tool.Sequence
import TwinRun.Tool.Store
import TwinRun.Tool.Translate

/-!
The tools of the simulated system.

What standard output refuses is told at the end of a tool, by each in its own words.
-/

namespace TwinRun.Tool

/-- A tool, with the way it tells that standard output was refused. -/
structure Entry where
  program : Program
  /-- What it says. -/
  lament : SystemError → List Letters := fun e => ["write error: ".toList ++ e.reason]
  /-- How it ends then. -/
  code : Nat := 1

namespace Entry

/-- A tool that ends in an unusual way when standard output is refused. -/
def ending (program : Program) (code : Nat) : Entry := { program, code }

def all : List (String × Entry) := [
  ("true", ⟨succeed, fun _ => [], 0⟩), ("false", ⟨failing, fun _ => [], 1⟩), ("sleep", { program := sleep }),
  ("sync", { program := succeed }), ("cat", { program := cat }), ("echo", { program := echo }),
  ("printf", { program := printf }), ("test", { program := test }), ("[", { program := bracket }),
  ("head", { program := head }), ("tail", { program := tail }), ("tac", { program := tac }),
  ("rev", { program := rev }), ("nl", { program := nl }),
  ("sort", ⟨sort, fun e => ["fflush failed: 'standard output': ".toList ++ e.reason, "write error".toList], 2⟩),
  ("uniq", { program := uniq }), ("wc", { program := wc, lament := fun _ => ["write error".toList] }),
  ("tr", { program := tr }), ("cut", { program := cut }), ("paste", { program := paste }),
  ("fold", { program := fold }), ("grep", ending grep 2), ("egrep", ending egrep 2), ("fgrep", ending fgrep 2),
  ("sed", ⟨sed, fun e => ["couldn't flush stdout: ".toList ++ e.reason], 4⟩), ("tee", { program := tee }),
  ("seq", { program := seq }), ("yes", { program := yes }), ("basename", { program := basename }),
  ("dirname", { program := dirname }), ("expr", ending expr 3), ("printenv", ending printenv 2),
  ("pwd", { program := pwd }), ("readlink", { program := readlink }), ("realpath", { program := realpath }),
  ("ls", ending ls 2), ("rm", { program := rm }), ("rmdir", { program := rmdir }), ("mkdir", { program := mkdir }),
  ("touch", { program := touch }), ("cp", { program := cp }), ("mv", { program := mv }), ("ln", { program := ln }),
  ("chmod", { program := chmod }), ("cmp", ⟨cmp, fun _ => [], 2⟩)]

end Entry

/-- Lets a tool tell what standard output has refused. -/
def lament (entry : Entry) (r : Run) : Run :=
  match r.refusal with
  | none => r
  | some e =>
      perform (fun _ => do
        (entry.lament e).forM warn
        endWith entry.code) [] { r with refusal := none }

def run (entry : Entry) (args : List Letters) (r : Run) : Run := lament entry (perform entry.program args r)

end TwinRun.Tool
