import TwinRun.Script.State

/-!
Options of the shell's own commands, and how values are shown so that they can be read again.
-/

namespace TwinRun.Script

/-- Reads options up to the first argument that is none. A letter in `valued` takes a value. -/
def readOptions (flags valued : String) : (fuel : Nat) → List Letters →
    Sh (List (Char × Letters) × List Letters)
  | 0, args => return ([], args)
  | fuel + 1, args => do
      match args with
      | ['-', '-'] :: rest => return ([], rest)
      | ('-' :: c :: cluster) :: rest =>
          if valued.toList.contains c then
            match cluster, rest with
            | [], value :: rest => more (c, value) (← readOptions flags valued fuel rest)
            | [], [] => fail ("No arg for -".toList ++ c :: " option".toList)
            | value, rest => more (c, value) (← readOptions flags valued fuel rest)
          else if flags.toList.contains c then
            more (c, []) (← readOptions flags valued fuel (if cluster.isEmpty then rest else ('-' :: cluster) :: rest))
          else fail ("Illegal option -".toList ++ [c])
      | args => return ([], args)
where
  more (o : Char × Letters) (found : List (Char × Letters) × List Letters) :
      Sh (List (Char × Letters) × List Letters) := return (o :: found.1, found.2)

/-- The options of a command, and its other arguments. -/
def options (flags valued : String) (args : List Letters) : Sh (List (Char × Letters) × List Letters) :=
  readOptions flags valued (args.flatten.length + args.length + 1) args

def operands (args : List Letters) : Sh (List Letters) := do return (← options "" "" args).2

/-- A value in quotes, so that it can be read again. -/
def quoted : (fuel : Nat) → Letters → Letters
  | 0, _ => []
  | fuel + 1, t =>
      let plain := t.takeWhile (· ≠ '\'')
      let rest := t.drop plain.length
      let marks := rest.takeWhile (· = '\'')
      '\'' :: plain ++ ['\''] ++
        if rest.isEmpty then []
        else
          let after := rest.drop marks.length
          '"' :: marks ++ ['"'] ++ if after.isEmpty then [] else quoted fuel after

def quote (t : Letters) : Letters := quoted (t.length + 1) t

def sayLine (t : Letters) : Sh Unit := say (t ++ ['\n'])

/-- Shows the variables of a kind, each with a word in front. -/
def showVariables (start : Letters) (kind : Variable → Bool) : Sh Unit := do
  let s ← get
  let shown := s.bindings.filter fun (_, v) => kind v
  for (name, v) in shown.mergeSort fun a b => Letters.le a.1 b.1 do
    sayLine (start ++ name ++ match v.value with
      | some t => '=' :: quote t
      | none => [])

end TwinRun.Script
