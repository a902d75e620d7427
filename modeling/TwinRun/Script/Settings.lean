import TwinRun.Script.Arguments

/-!
Commands of the shell that set its variables, options, arguments and aliases.

Each is a function of its arguments that gives back its status.
-/

namespace TwinRun.Script

/-! ### Options and arguments -/

def showOptions (on : Bool) : Sh Unit := do
  let s ← get
  let names := optionNames.map (fun (c, name) => (s.options.contains c, name)) ++
    [(false, "nolog"), (false, "debug")]
  if on then sayLine "Current option settings".toList
  for (isOn, name) in names do
    if on then
      sayLine (name.toList ++ List.replicate (16 - name.length) ' ' ++ (if isOn then "on" else "off").toList)
    else sayLine ("set ".toList ++ (if isOn then ['-'] else ['+']) ++ "o ".toList ++ name.toList)

def setArguments (args : List Letters) : Sh Unit :=
  modify fun s => { s with args, optionPlace := 1, optionOffset := none }

/-- Switches the options of one argument. The last of them may take a name. -/
def switchCluster (on : Bool) : Letters → List Letters → Sh (List Letters)
  | [], rest => return rest
  | 'o' :: cs, rest => do
      match rest with
      | name :: rest =>
          switchNamed name on
          switchCluster on cs rest
      | [] =>
          showOptions on
          switchCluster on cs []
  | c :: cs, rest => do
      switchLetter c on
      switchCluster on cs rest

/-- Switches options. What comes back are the arguments behind them; nothing, if there were
none and the arguments of the shell stay. -/
def switchOptions : (fuel : Nat) → List Letters → Sh (Option (List Letters))
  | 0, _ | _, [] => return none
  | fuel + 1, arg :: rest => do
      match arg with
      | ['-'] =>
          switch 'x' false
          switch 'v' false
          return if rest.isEmpty then none else some rest
      | ['-', '-'] => return some rest
      | '-' :: cs => switchOptions fuel (← switchCluster true cs rest)
      | '+' :: cs => switchOptions fuel (← switchCluster false cs rest)
      | _ => return some (arg :: rest)

def setCommand (args : List Letters) : Sh Nat := do
  if args.isEmpty then showVariables [] (·.value.isSome)
  match ← switchOptions (args.length + 1) args with
  | some args => setArguments args
  | none => pure ()
  return 0

def shiftCommand (args : List Letters) : Sh Nat := do
  let n ← match args with
    | t :: _ => number t
    | [] => pure 1
  let s ← get
  if n > s.args.length then fail "can't shift that many".toList
  setArguments (s.args.drop n)
  return 0

/-! ### Variables -/

/-- Marks variables, and gives them values. Without names it shows those that are marked. -/
def markCommand (word : String) (isMarked : Variable → Bool) (mark : Variable → Variable)
    (args : List Letters) : Sh Nat := do
  let (given, names) ← options "p" "" args
  if names.isEmpty || !given.isEmpty then showVariables (word.toList ++ [' ']) isMarked
  else
    for t in names do
      let (name, value) := splitAssignment t
      let old := (← get).lookup? name
      if value.isSome || old.isNone then
        if !isName name then fail (name ++ ": bad variable name".toList)
      match value with
      | some v => setVariable name v
      | none => pure ()
      putVariable name (some (mark (((← get).lookup? name).getD {})))
  return 0

def exportCommand : List Letters → Sh Nat :=
  markCommand "export" (·.exported) fun v => { v with exported := true }

def readonlyCommand : List Letters → Sh Nat :=
  markCommand "readonly" (·.locked) fun v => { v with locked := true }

def localCommand (args : List Letters) : Sh Nat := do
  if (← get).scopes.isEmpty then fail "not in a function".toList
  for t in args do makeLocal t false
  return 0

def unsetCommand (args : List Letters) : Sh Nat := do
  let (given, names) ← options "vf" "" args
  for name in names do
    if (given.getLast?.map (·.1)) = some 'f' then
      modify fun s => { s with functions := revise name none s.functions }
    else if isName name then unsetVariable name
    else fail (name ++ ": bad variable name".toList)
  return 0

/-! ### Aliases -/

def aliasCommand (args : List Letters) : Sh Nat := do
  let shown (name value : Letters) : Sh Unit := sayLine (name ++ '=' :: quote value)
  if args.isEmpty then
    for (name, value) in (← get).aliases.mergeSort fun a b => Letters.le a.1 b.1 do shown name value
    return 0
  args.foldlM (fun status t => do
    match splitAssignment t with
    | (name, some value) =>
        if name.isEmpty then return status
        modify fun s => { s with aliases := revise name (some value) s.aliases }
        return status
    | (name, none) =>
        match (← get).aliases.lookup name with
        | some value => shown name value; return status
        | none =>
            let _ ← put stderr ("alias: ".toList ++ name ++ " not found\n".toList)
            return 1) 0

def unaliasCommand (args : List Letters) : Sh Nat := do
  let (given, names) ← options "a" "" args
  if !given.isEmpty then
    modify fun s => { s with aliases := [] }
    return 0
  names.foldlM (fun status name => do
    if ((← get).aliases.lookup name).isSome then
      modify fun s => { s with aliases := revise name none s.aliases }
      return status
    let _ ← put stderr ("unalias: ".toList ++ name ++ " not found\n".toList)
    return 1) 0

/-! ### Options of scripts -/

structure FoundOption where
  letter : Char := '?'
  /-- The value of the option; nothing takes the old one away, if `told`. -/
  value : Option Letters := none
  message : Option Letters := none
  /-- Where to go on. -/
  place : Nat
  offset : Option Nat := none
  finished : Bool := false

def findOption (known : Letters) (args : List Letters) (place : Nat) (offset : Option Nat) : FoundOption :=
  let inside : Letters := match offset with
    | some n => if place ≤ 1 then [] else (args.getD (place - 2) []).drop n
    | none => []
  let quiet := known.head? = some ':'
  let atEnd (place : Nat) : FoundOption := { place, finished := true }
  match (if inside.isEmpty then none else some inside) with
  | some rest => inCluster quiet rest place
  | none =>
      match args[place - 1]? with
      | none | some [] | some ['-'] => atEnd place
      | some ['-', '-'] => atEnd (place + 1)
      | some (c :: rest) => if c = '-' then inCluster quiet rest (place + 1) else atEnd place
where
  /-- Whether the option is known, and whether it takes a value. -/
  kindOf (c : Char) : Letters → Option Bool
    | [] => none
    | k :: ':' :: more => if k = c then some true else kindOf c more
    | k :: more => if k = c then some false else kindOf c more
  inCluster (quiet : Bool) : Letters → Nat → FoundOption
    | [], place => { place, finished := true }
    | c :: rest, place =>
        let offset : Option Nat := some ((args.getD (place - 2) []).length - rest.length)
        match kindOf c known with
        | none =>
            { letter := '?', place, offset
              value := if quiet then some [c] else none
              message := if quiet then none else some ("Illegal option -".toList ++ [c]) }
        | some false => { letter := c, value := some [], place, offset }
        | some true =>
            if !rest.isEmpty then { letter := c, value := some rest, place }
            else match args[place - 1]? with
              | some v => { letter := c, value := some v, place := place + 1 }
              | none =>
                  { letter := if quiet then ':' else '?', place, offset
                    value := if quiet then some [c] else none
                    message := if quiet then none else some ("No arg for -".toList ++ c :: " option".toList) }

def valueName : Letters := "OPTARG".toList

def getoptsCommand (args : List Letters) : Sh Nat := do
  match ← operands args with
  | known :: name :: more =>
      let s ← get
      let args := if more.isEmpty then s.args else more
      let (place, offset) := if s.optionPlace > args.length + 1 then (1, none) else (s.optionPlace, s.optionOffset)
      let found := findOption known args place offset
      if !found.finished then
        match found.message with
        | some t => let _ ← put stderr (t ++ ['\n'])
        | none => pure ()
        match found.value with
        | some v => setVariable valueName v
        | none => unsetVariable valueName
      setVariable placeName (Letters.ofNat found.place)
      setVariable name [if found.finished then '?' else found.letter]
      modify fun s => { s with optionPlace := found.place, optionOffset := found.offset }
      return if found.finished then 1 else 0
  | _ => fail "Usage: getopts optstring var [arg...]".toList

/-! ### Permissions -/

def maskLetters (mask : Nat) : Letters :=
  let bits (n : Nat) : Letters :=
    (if n / 4 % 2 = 0 then ['r'] else []) ++ (if n / 2 % 2 = 0 then ['w'] else []) ++
      (if n % 2 = 0 then ['x'] else [])
  "u=".toList ++ bits (mask / 64) ++ ",g=".toList ++ bits (mask / 8) ++ ",o=".toList ++ bits mask

def umaskCommand (args : List Letters) : Sh Nat := do
  let (given, rest) ← options "S" "" args
  let mask := (← get).mask
  match rest with
  | [] =>
      let digits := Nat.toDigits 8 mask
      sayLine (if given.isEmpty then List.replicate (4 - digits.length) '0' ++ digits else maskLetters mask)
  | t :: _ =>
      if t.head?.any Char.isDigit then
        if t.all fun c => '0' ≤ c && c ≤ '7' then
          modify fun s => { s with mask := Letters.valueIn 8 t % 512 }
        else fail ("Illegal number: ".toList ++ t)
      else if !t.all fun c => "ugoa=+-rwxst,X".toList.contains c then fail ("Illegal mode: ".toList ++ t)
  return 0

end TwinRun.Script
