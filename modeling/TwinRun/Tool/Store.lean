import TwinRun.Tool.Names

/-!
Tools that change the files.
-/

namespace TwinRun.Tool

def inside (directory name : Letters) : Letters :=
  Letters.ofBytes ((pathOf directory).join (pathOf name)).bytes

/-- What is in a place, if anything. -/
def nodeAt (follow : Bool) (t : Letters) : Job (Except SystemError (Location × FileNode)) :=
  look fun fs d => fs.find d (pathOf t) follow

def isDirectory (t : Letters) : Job Bool := do
  match ← nodeAt true t with
  | .ok (_, .directory) => return true
  | _ => return false

/-- Complains that something could not be done to a path. -/
def cannot (action : String) (t : Letters) (e : SystemError) : Job Unit :=
  complain ("cannot ".toList ++ action.toList ++ ' ' :: quoteName t ++ ": ".toList ++ e.reason) 1

/-! ### Removing -/

/-- The names in a place that is a directory, in order. -/
def sortedNames (fs : Files) (l : Location) : List Bytes := (fs.names l).mergeSort Bytes.le

/-- Says what goes when a tree is removed: what is in a directory before the directory itself. -/
def removals (fs : Files) : (depth : Nat) → Letters → Location → List Letters
  | 0, _, _ => []
  | depth + 1, path, l =>
      ((sortedNames fs l).flatMap fun name =>
        let inner := inside path (Letters.ofBytes name)
        match fs.get? (l ++ [name]) with
        | some .directory => removals fs depth inner (l ++ [name])
        | _ => ["removed ".toList ++ quoteName inner]) ++ ["removed directory ".toList ++ quoteName path]

def removeEmpty (fs : Files) (d : Location) (path : Letters) : Except SystemError Files := do
  match ← fs.find d (Files.withoutSlash (pathOf path)) false with
  | (l, .directory) =>
      if lastName path = ['.'] then throw .invalid
      if (fs.names l).isEmpty then return fs.erase l else throw .notEmpty
  | _ => throw .notDirectory

def rm : Program := withSpec
    { flags := "frRivd"
      long := [⟨"force", 'f', none⟩, ⟨"recursive", 'r', none⟩, ⟨"dir", 'd', none⟩, ⟨"verbose", 'v', none⟩] } fun o => do
  let force := o.has 'f'
  let recursive := o.has 'r' || o.has 'R'
  if o.operands.isEmpty ∧ ¬ force then misuse "missing operand".toList 1
  for operand in o.operands do
    let name := lastName operand
    if recursive && (name = ['.'] || name = ['.', '.']) then
      complain ("refusing to remove '.' or '..' directory: skipping ".toList ++ quoteName operand) 1
    else
    match ← nodeAt false operand with
    | .error e =>
        if force ∧ (e = .notFound ∨ e = .notDirectory) then pure () else cannot "remove" operand e
    | .ok (l, .directory) =>
        if recursive then
          let fs := (← get).kernel.files
          match ← change fun fs d => fs.removeTree d (Files.withoutSlash (pathOf operand)) with
          | .ok () => if o.has 'v' then for t in removals fs (fs.nodes.length + 1) operand l do emitLine t
          | .error e => cannot "remove" operand e
        else if o.has 'd' then
          match ← change fun fs d => removeEmpty fs d operand with
          | .ok () => if o.has 'v' then emitLine ("removed directory ".toList ++ quoteName operand)
          | .error e => cannot "remove" operand e
        else cannot "remove" operand .isDirectory
    | .ok _ =>
        match ← change fun fs d => fs.removeFile d (pathOf operand) with
        | .ok () => if o.has 'v' then emitLine ("removed ".toList ++ quoteName operand)
        | .error e => cannot "remove" operand e

def rmdir : Program := withSpec
    { flags := "pv"
      long := [⟨"parents", 'p', none⟩, ⟨"verbose", 'v', none⟩, ⟨"ignore-fail-on-non-empty", 'i', none⟩] } fun o => do
  if o.operands.isEmpty then misuse "missing operand".toList 1
  for operand in o.operands do
    let above := (pathOf operand).ancestors.filterMap fun p =>
      if p.bytes.isEmpty then none else some (Letters.ofBytes p.bytes)
    let _ ← (operand :: if o.has 'p' then above else []).zipIdx.foldlM (fun (going : Bool) (t, k) => do
      if !going then return false
      if o.has 'v' then emitLine ("removing directory, ".toList ++ quoteName t)
      match ← change fun fs d => removeEmpty fs d t with
      | .ok () => return true
      | .error e =>
          if !(o.has 'i' && e = .notEmpty) then
            complain ((if k = 0 then "failed to remove " else "failed to remove directory ").toList ++
              quoteName t ++ ": ".toList ++ e.reason) 1
          return false) true

/-! ### Making -/

def mkdir : Program := withSpec
    { flags := "pv", valued := "m"
      long := [⟨"parents", 'p', none⟩, ⟨"verbose", 'v', none⟩, ⟨"mode", 'm', some true⟩] } fun o => do
  if o.operands.isEmpty then misuse "missing operand".toList 1
  let told (t : Letters) : Job Unit := do
    if o.has 'v' then emitLine ("created directory ".toList ++ quoteName t)
  for operand in o.operands do
    let above := if o.has 'p' then (pathOf operand).ancestors.reverse.filterMap fun p =>
        if p.bytes.isEmpty then none else some (Letters.ofBytes p.bytes)
      else []
    let blocked ← above.foldlM (fun (blocked : Bool) t => do
      if blocked then return true
      match ← change fun fs d => fs.makeDirectory d (pathOf t) with
      | .ok () =>
          told t
          return false
      | .error e =>
          if ← isDirectory t then return false
          cannot "create directory" t (if e = .alreadyExists then .notDirectory else e)
          return true) false
    if !blocked then
      match ← change fun fs d => fs.makeDirectory d (pathOf operand) with
      | .ok () => told operand
      | .error e => if !(o.has 'p' && (← isDirectory operand)) then cannot "create directory" operand e

def touch : Program := withSpec
    { flags := "acmfh", valued := "drt", long := [⟨"no-create", 'c', none⟩] } fun o => do
  if o.operands.isEmpty then misuse "missing file operand".toList 1
  for operand in o.operands do
    match ← nodeAt true operand with
    | .ok _ => pure ()
    | .error e =>
        if o.has 'c' then
          if e ≠ .notFound then complain ("setting times of ".toList ++ quoteName operand ++ ": ".toList ++ e.reason) 1
        else if operand.getLast? = some '/' then
          complain ("setting times of ".toList ++ quoteName operand ++ ": ".toList ++ e.reason) 1
        else
          match ← change fun fs d => (·.1) <$> fs.create d (pathOf operand) with
          | .ok () => pure ()
          | .error e => cannot "touch" operand e

/-- Whether a mode, in letters or digits, lets a file be run; nothing if it does not say. -/
def modeExecutable? (mode : Letters) : Option Bool :=
  if mode.all Char.isDigit then some (mode.any fun d => (d.toNat - '0'.toNat) % 2 = 1)
  else
    let change := (((Letters.splitOn ',' mode).getLast?).getD []).dropWhile fun c => "ugoa".toList.contains c
    match change with
    | '+' :: bits => if bits.contains 'x' then some true else none
    | '-' :: bits => if bits.contains 'x' then some false else none
    | '=' :: bits => some (bits.contains 'x')
    | _ => none

def isMode (t : Letters) : Bool :=
  if t.all Char.isDigit then !t.isEmpty && t.length ≤ 5 && t.all (· < '8')
  else (Letters.splitOn ',' t).all fun change =>
    match change.dropWhile fun c => "ugoa".toList.contains c with
    | c :: rest => ['+', '-', '='].contains c && rest.all fun d => "rwxXstugo+-=".toList.contains d
    | [] => false

/-- Changes who may run a file. -/
def chmod : Program := fun args => do
  let flags := args.filter fun t => ["-R", "-v", "-c", "-f"].any (·.toList == t)
  match args.filter (!flags.contains ·) with
  | [] => misuse "missing operand".toList 1
  | [mode] => misuse ("missing operand after ".toList ++ quote mode) 1
  | mode :: operands =>
      if !isMode mode then misuse ("invalid mode: ".toList ++ quote mode) 1
      for operand in operands do
        match ← nodeAt true operand with
        | .error e => cannot "access" operand e
        | .ok _ =>
            match modeExecutable? mode with
            | some x =>
                let _ ← change fun fs d => fs.setExecutable d (pathOf operand) x
            | none => pure ()

/-! ### Copying and moving -/

/-- Copies all that is in a place to another place, over what is there. -/
def copyTree (fs : Files) (source target : Location) : Files :=
  (fs.nodes.filter fun e => source.isPrefixOf e.1).foldl (fun fs e =>
    let l := target ++ e.1.drop source.length
    match e.2, fs.get? l with
    | .file _ content _, some (.file k _ _) => fs.modify k fun _ => content
    | .file _ content x, _ => (fs.addFile l content x).1
    | .directory, some .directory => fs
    | n, _ => fs.put l n) fs

/-- The operands of a tool that makes something of files elsewhere: the sources, the target, and
whether the target is a directory that takes them. -/
def sourcesOf (o : Options) (oneIsEnough : Bool) : Job (List Letters × Letters × Bool) := do
  match o.value? 't', o.operands.reverse with
  | _, [] => misuse "missing file operand".toList 1
  | some target, sources => return (sources.reverse, target, true)
  | none, [operand] =>
      if oneIsEnough then return ([operand], ['.'], true)
      misuse ("missing destination file operand after ".toList ++ quoteName operand) 1
  | none, target :: sources =>
      if o.has 'T' then return (sources.reverse, target, false)
      if ← isDirectory target then return (sources.reverse, target, true)
      match sources with
      | [source] => return ([source], target, false)
      | _ =>
          let e := match ← nodeAt true target with
            | .ok _ => SystemError.notDirectory
            | .error e => e
          fail ("target ".toList ++ quoteName target ++ ": ".toList ++ e.reason) 1

/-- Where something goes: into a directory, or to the path itself. -/
def destinationOf (source target : Letters) (takes : Bool) : Letters :=
  if takes then inside target (lastName source) else target

def tellArrow (word : String) (source target : Letters) : Job Unit :=
  emitLine (word.toList ++ quoteName source ++ " -> ".toList ++ quoteName target)

def isSame (a b : FileNode) (l l' : Location) : Bool :=
  match a, b with
  | .file i _ _, .file j _ _ => i = j
  | _, _ => l = l'

def copyOne (o : Options) (source target : Letters) : Job Unit := do
  let recursive := o.has 'r' || o.has 'R' || o.has 'a'
  let keepsLinks := o.has 'P' || o.has 'd' || (recursive && !o.has 'L')
  match ← nodeAt (!keepsLinks) source with
  | .error e => cannot "stat" source e
  | .ok (l, n) =>
      let there ← nodeAt true target
      let told : Job Unit := do if o.has 'v' then tellArrow "" source target
      let same : Bool := match there with
        | .ok (l', n') => isSame n n' l l'
        | .error _ => false
      match n, there with
      | .directory, _ =>
          if !recursive then complain ("-r not specified; omitting directory ".toList ++ quoteName source) 1
          else match there with
          | .ok (l', .directory) =>
              if l.isPrefixOf l' then
                complain ("cannot copy a directory, ".toList ++ quoteName source ++ ", into itself, ".toList ++
                  quoteName target) 1
              else
                modify fun r => { r with kernel := { r.kernel with files := copyTree r.kernel.files l l' } }
                told
          | .ok _ =>
              complain ("cannot overwrite non-directory ".toList ++ quoteName target ++ " with directory ".toList ++
                quoteName source) 1
          | .error _ =>
              let done ← change fun fs d => do
                match ← fs.resolve d (Files.withoutSlash (pathOf target)) true with
                | .free l' _ =>
                    if l.isPrefixOf l' then throw .invalid
                    return copyTree fs l l'
                | .found .. => throw .alreadyExists
              match done with
              | .ok () => told
              | .error .invalid =>
                  complain ("cannot copy a directory, ".toList ++ quoteName source ++ ", into itself, ".toList ++
                    quoteName target) 1
              | .error e => cannot "create directory" target e
      | _, .ok (_, .directory) =>
          complain ("cannot overwrite directory ".toList ++ quoteName target ++ " with non-directory".toList) 1
      | n, _ =>
          if o.has 'n' && there.isOk then return
          if same then
            complain (quoteName source ++ " and ".toList ++ quoteName target ++ " are the same file".toList) 1
            return
          match n with
          | .link _ =>
              let done ← change fun fs d => do
                match ← fs.resolve d (pathOf target) false with
                | .free l' _ | .found l' _ => return fs.put l' n
              match done with
              | .ok () => told
              | .error e => cannot "create symbolic link" target e
          | n =>
              let dangling ← match there, ← nodeAt false target with
                | .error _, .ok (_, .link _) => pure true
                | _, _ => pure false
              if dangling then
                complain ("not writing through dangling symlink ".toList ++ quoteName target) 1
                return
              let executable := match n with
                | .file _ _ x => x
                | _ => false
              let done ← change fun fs d => do
                let fs ← fs.store d (pathOf target) (← fs.read d (pathOf source))
                if there.isOk then return fs else fs.setExecutable d (pathOf target) executable
              match done with
              | .ok () => told
              | .error e =>
                  let e := if e = .isDirectory && target.getLast? = some '/' then .notDirectory else e
                  cannot "create regular file" target e

def cp : Program := withSpec
    { flags := "rRafpnvdPLTuxHi", valued := "t"
      long := [⟨"recursive", 'r', none⟩, ⟨"archive", 'a', none⟩, ⟨"force", 'f', none⟩, ⟨"verbose", 'v', none⟩,
        ⟨"no-clobber", 'n', none⟩, ⟨"no-dereference", 'P', none⟩, ⟨"dereference", 'L', none⟩,
        ⟨"target-directory", 't', some true⟩, ⟨"no-target-directory", 'T', none⟩] } fun o => do
  let (sources, target, takes) ← sourcesOf o false
  for source in sources do copyOne o source (destinationOf source target takes)

def moveTree (fs : Files) (source target : Location) : Files :=
  let moved := fs.nodes.filterMap fun e =>
    if source.isPrefixOf e.1 then some (target ++ e.1.drop source.length, e.2) else none
  moved.foldl (fun fs e => fs.put e.1 e.2) ((fs.erase source).erase target)

def moveOne (o : Options) (source target : Letters) : Job Unit := do
  match ← nodeAt false source with
  | .error e => cannot "stat" source e
  | .ok (l, n) =>
      let place ← look fun fs d => fs.resolve d (Files.withoutSlash (pathOf target)) false
      let fails (e : SystemError) : Job Unit :=
        complain ("cannot move ".toList ++ quoteName source ++ " to ".toList ++ quoteName target ++ ": ".toList ++
          e.reason) 1
      let move (l' : Location) : Job Unit := do
        modify fun r => { r with kernel := { r.kernel with files := moveTree r.kernel.files l l' } }
        if o.has 'v' then tellArrow "renamed " source target
      let intoItself : Job Unit :=
        complain ("cannot move ".toList ++ quoteName source ++ " to a subdirectory of itself, ".toList ++
          quoteName target) 1
      match place with
      | .error e => fails e
      | .ok (.free l' _) =>
          if n = .directory ∧ l.isPrefixOf l' then intoItself
          else if n ≠ .directory ∧ target.getLast? = some '/' then fails .notDirectory
          else move l'
      | .ok (.found l' n') =>
          if isSame n n' l l' then
            complain (quoteName source ++ " and ".toList ++ quoteName target ++ " are the same file".toList) 1
          else if o.has 'n' then pure ()
          else match n, n' with
          | .directory, .directory =>
              if l.isPrefixOf l' then intoItself
              else if ((← get).kernel.files.names l').isEmpty then move l'
              else fails .notEmpty
          | .directory, _ =>
              complain ("cannot overwrite non-directory ".toList ++ quoteName target ++ " with directory ".toList ++
                quoteName source) 1
          | _, .directory =>
              complain ("cannot overwrite directory ".toList ++ quoteName target ++ " with non-directory".toList) 1
          | _, _ => move l'

def mv : Program := withSpec
    { flags := "fnvTui", valued := "t"
      long := [⟨"force", 'f', none⟩, ⟨"no-clobber", 'n', none⟩, ⟨"verbose", 'v', none⟩,
        ⟨"target-directory", 't', some true⟩, ⟨"no-target-directory", 'T', none⟩] } fun o => do
  let (sources, target, takes) ← sourcesOf o false
  for source in sources do moveOne o source (destinationOf source target takes)

/-! ### Links -/

def linkOne (o : Options) (source target : Letters) : Job Unit := do
  let soft := o.has 's'
  let made := (if soft then "create symbolic link " else "create hard link ").toList
  let found ← nodeAt (o.has 'L') source
  match soft, found with
  | false, .error e => complain ("failed to access ".toList ++ quoteName source ++ ": ".toList ++ e.reason) 1
  | false, .ok (_, .directory) =>
      complain (Letters.shownName source ++ ": hard link not allowed for directory".toList) 1
  | _, _ =>
      let there ← nodeAt false target
      let same : Bool := match soft, found, there with
        | false, .ok (l, n), .ok (l', n') => isSame n n' l l'
        | _, _, _ => false
      if same then
        complain (quoteName source ++ " and ".toList ++ quoteName target ++ " are the same file".toList) 1
        return
      if o.has 'f' then
        match there with
        | .ok (_, .directory) => pure ()
        | _ =>
            let _ ← change fun fs d => fs.removeFile d (pathOf target)
      let done ← change fun fs d =>
        if soft then do
          if source.isEmpty then throw .notFound
          fs.makeLink d (pathOf target) (Letters.bytes source)
        else do
          match ← fs.resolve d (pathOf target) false with
          | .free l false =>
              match ← fs.find d (pathOf source) (o.has 'L') with
              | (_, n) => return fs.put l n
          | .free _ true => throw .notFound
          | .found .. => throw .alreadyExists
      match done with
      | .ok () =>
          if o.has 'v' then
            emitLine (quoteName target ++ (if soft then " -> " else " => ").toList ++ quoteName source)
      | .error e =>
          let origin : Letters := if soft || e = .alreadyExists then [] else " => ".toList ++ quoteName source
          complain ("failed to ".toList ++ made ++ quoteName target ++ origin ++ ": ".toList ++ e.reason) 1

def ln : Program := withSpec
    { flags := "sfnvTLPir", valued := "t"
      long := [⟨"symbolic", 's', none⟩, ⟨"force", 'f', none⟩, ⟨"no-dereference", 'n', none⟩, ⟨"verbose", 'v', none⟩,
        ⟨"target-directory", 't', some true⟩, ⟨"no-target-directory", 'T', none⟩] } fun o => do
  let (sources, target, takes) ← sourcesOf o true
  -- a link to a directory can be replaced itself
  let takes ← if takes && o.has 'n' && o.operands.length = 2 then
      match ← nodeAt false target with
      | .ok (_, .link _) => pure false
      | _ => pure takes
    else pure takes
  for source in sources do linkOne o source (destinationOf source target takes)

end TwinRun.Tool
