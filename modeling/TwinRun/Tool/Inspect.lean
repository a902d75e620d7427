import TwinRun.Tool.Store

/-!
Tools that look at the files.
-/

namespace TwinRun.Tool

def placeText (l : Location) : Letters :=
  if l.isEmpty then ['/'] else l.flatMap fun name => '/' :: Letters.ofBytes name

def pwd : Program := withSpec { flags := "LP" } fun o => do
  if !o.operands.isEmpty then warn "ignoring non-option arguments".toList
  emitLine (placeText (← get).process.directory)

/-! ### Links -/

/-- The place that a path leads to. The last name need not be there. -/
def resolved (t : Letters) (allowsMissing : Bool) : Job (Except SystemError Letters) :=
  look fun fs d => do
    match ← fs.resolve d (pathOf t) true with
    | .found l _ => return placeText l
    | .free l _ => if allowsMissing then return placeText l else throw .notFound

def readlink : Program := withSpec
    { flags := "nfemqsvz"
      long := [⟨"canonicalize", 'f', none⟩, ⟨"canonicalize-existing", 'e', none⟩, ⟨"no-newline", 'n', none⟩] } fun o => do
  if o.operands.isEmpty then misuse "missing operand".toList 1
  let ending : Letters := if o.has 'n' && o.operands.length = 1 then [] else ['\n']
  for operand in o.operands do
    if o.has 'f' || o.has 'e' || o.has 'm' then
      match ← resolved operand (!o.has 'e') with
      | .ok t => emit (t ++ ending)
      | .error _ => endWith 1
    else
      match ← nodeAt false operand with
      | .ok (_, .link target) => emit (Letters.ofBytes target ++ ending)
      | _ => endWith 1

/-- Shows the places that paths lead to. -/
def realpath : Program := withSpec { flags := "emsqzLP" } fun o => do
  if o.operands.isEmpty then misuse "missing operand".toList 1
  for operand in o.operands do
    match ← resolved operand (!o.has 'e') with
    | .ok t => emitLine t
    | .error e => complain (plainMessage operand e) 1

/-! ### Listing -/

/-- An entry of a listing: how it is called and what is there. -/
structure Listed where
  name : Letters
  node : FileNode
  deriving DecidableEq, Repr

namespace Listed

def size (e : Listed) : Nat :=
  match e.node with
  | .file _ content _ => content.length
  | .link target => target.length
  | .directory => 4096
  | _ => 0

def mark (o : Options) (e : Listed) : Letters :=
  match e.node with
  | .directory => if o.has 'F' || o.has 'p' then ['/'] else []
  | .link _ => if o.has 'F' then ['@'] else []
  | .file _ _ true | .tool _ => if o.has 'F' then ['*'] else []
  | _ => []

def permissions (e : Listed) : Letters :=
  (match e.node with
    | .directory => "drwxr-xr-x"
    | .link _ => "lrwxrwxrwx"
    | .file _ _ true | .tool _ => "-rwxr-xr-x"
    | .device _ => "crw-rw-rw-"
    | .file .. => "-rw-r--r--").toList

def line (o : Options) (width : Nat) (e : Listed) : Letters :=
  let name := if o.has 'Q' then '"' :: e.name ++ ['"'] else e.name
  if o.has 'l' then
    e.permissions ++ " 1 root root ".toList ++ Letters.padLeft width (Letters.ofNat e.size) ++
      " Jan  1 00:00 ".toList ++ name ++
      match e.node with
      | .link target => " -> ".toList ++ Letters.ofBytes target
      | _ => e.mark o
  else name ++ e.mark o

end Listed

/-- Puts entries in the order that options ask for. -/
def arrangeListed (o : Options) (es : List Listed) : List Listed :=
  if o.has 'U' || o.has 'f' then es
  else
    let byName := es.mergeSort fun a b => Letters.le a.name b.name
    let sorted := if o.has 'S' then byName.mergeSort fun a b => b.size ≤ a.size else byName
    if o.has 'r' then sorted.reverse else sorted

def showListed (o : Options) (es : List Listed) : Job Unit := do
  let width := (es.map fun e => (Letters.ofNat e.size).length).foldl max 1
  let lines := es.map (·.line o width)
  if o.has 'm' && !o.has 'l' then
    if !lines.isEmpty then emitLine (", ".toList.intercalate lines)
  else for line in lines do emitLine line

def listedIn (o : Options) (fs : Files) (l : Location) : List Listed :=
  let all := (fs.names l).filterMap fun name =>
    (fs.get? (l ++ [name])).map fun node => ({ name := Letters.ofBytes name, node } : Listed)
  if o.has 'a' || o.has 'f' then { name := ['.'], node := .directory } :: { name := ['.', '.'], node := .directory } :: all
  else if o.has 'A' then all
  else all.filter (·.name.head? ≠ some '.')

/-- Lists a directory, and the directories in it if that is asked for. -/
def listDirectory (o : Options) (titled : Bool) : (depth : Nat) → (first : Bool) → Letters → Location → Job Unit
  | 0, _, _, _ => return
  | depth + 1, first, path, l => do
      let fs := (← get).kernel.files
      if titled then emit ((if first then [] else ['\n']) ++ path ++ ":\n".toList)
      let es := arrangeListed o (listedIn o fs l)
      if o.has 'l' then emitLine ("total ".toList ++ Letters.ofNat (4 * (es.filter fun e => e.size > 0).length))
      showListed o es
      if o.has 'R' then
        for e in es do
          if e.node = .directory ∧ e.name ≠ ['.'] ∧ e.name ≠ ['.', '.'] then
            listDirectory o titled depth false (inside path e.name) (l ++ [Letters.bytes e.name])

def ls : Program := withSpec
    { flags := "1aAdrtURlFpmQfSChisnkgGoNqvxXcuLHBbDTwI", code := 2
      long := [⟨"all", 'a', none⟩, ⟨"almost-all", 'A', none⟩, ⟨"directory", 'd', none⟩, ⟨"reverse", 'r', none⟩,
        ⟨"recursive", 'R', none⟩, ⟨"classify", 'F', some false⟩, ⟨"color", '%', some false⟩] } fun o => do
  let operands := if o.operands.isEmpty then [['.']] else o.operands
  let follows := !(o.has 'd' || o.has 'l' || o.has 'F') || o.has 'L' || o.has 'H'
  let found ← operands.filterMapM fun operand => do
    match ← nodeAt follows operand, ← nodeAt false operand with
    | .ok (l, node), _ | .error _, .ok (l, node) => return some (({ name := operand, node } : Listed), l)
    | .error e, .error _ =>
        complain ("cannot access ".toList ++ quoteName operand ++ ": ".toList ++ e.reason) 2
        return none
  let isOpened (e : Listed × Location) : Bool := e.1.node == .directory && !o.has 'd'
  let files := arrangeListed o ((found.filter (!isOpened ·)).map (·.1))
  showListed o files
  let dirs := arrangeListed o ((found.filter isOpened).map (·.1))
  let depth := (← get).kernel.files.nodes.length + 1
  let _ ← dirs.foldlM (fun (first : Bool) dir => do
    match found.find? fun e => e.1 = dir with
    | some (_, l) => listDirectory o (operands.length > 1 || o.has 'R') depth first dir.name l
    | none => pure ()
    return false) files.isEmpty

/-! ### Comparing -/

/-- How many bytes are to be passed over. -/
def skipsOf (o : Options) : Nat × Nat :=
  match o.value? 'i' with
  | some t =>
      let (a, b) := Letters.cut (· == ':') t
      let n := (Letters.nat? a).getD 0
      (n, (b.bind Letters.nat?).getD n)
  | none => (((o.operands[2]?).bind Letters.nat?).getD 0, ((o.operands[3]?).bind Letters.nat?).getD 0)

def octal (c : Char) : Letters := Letters.padLeft 3 (Nat.toDigits 8 c.toNat)

def cmp : Program := withSpec
    { flags := "slb", valued := "in", code := 2
      long := [⟨"quiet", 's', none⟩, ⟨"silent", 's', none⟩, ⟨"verbose", 'l', none⟩, ⟨"bytes", 'n', some true⟩,
        ⟨"print-bytes", 'b', none⟩] } fun o => do
  let (a, b) ← match o.operands with
    | [] => misuse "missing operand after 'cmp'".toList 2
    | [a] => pure (a, ['-'])
    | a :: b :: _ => pure (a, b)
  let read (t : Letters) : Job Letters := do
    match ← if t = ['-'] then readAll stdin else readFile t with
    | .ok content => return content
    | .error e =>
        if !o.has 's' then warn (bareMessage t e)
        stop 2
  let x ← read a
  let y ← if b = a then pure x else read b
  let (i, j) := skipsOf o
  let limit (t : Letters) : Letters :=
    match (o.value? 'n').bind Letters.nat? with
    | some n => t.take n
    | none => t
  let x := limit (x.drop i)
  let y := limit (y.drop j)
  if x = y then return
  endWith 1
  if o.has 's' then return
  let pairs := (x.zip y).zipIdx.filter fun ((c, d), _) => c != d
  let same := (pairs.head?.map (·.2)).getD (min x.length y.length)
  if o.has 'l' then
    for ((c, d), k) in pairs do
      emitLine (Letters.padLeft ((Letters.ofNat (max x.length y.length)).length) (Letters.ofNat (k + 1)) ++
        ' ' :: octal c ++ ' ' :: octal d)
  else if !pairs.isEmpty then
    emitLine (a ++ ' ' :: b ++ " differ: byte ".toList ++ Letters.ofNat (same + 1) ++ ", line ".toList ++
      Letters.ofNat ((x.take same).count '\n' + 1))
  if x.length ≠ y.length && (pairs.isEmpty || o.has 'l') then
    let (name, text) := if x.length < y.length then (a, x) else (b, y)
    warn ("EOF on ".toList ++ name ++
      if text.isEmpty then " which is empty".toList
      else
        let n := text.count '\n'
        " after byte ".toList ++ Letters.ofNat text.length ++
          if o.has 'l' then []
          else if text.getLast? = some '\n' then ", line ".toList ++ Letters.ofNat n
          else ", in line ".toList ++ Letters.ofNat (n + 1))

end TwinRun.Tool
