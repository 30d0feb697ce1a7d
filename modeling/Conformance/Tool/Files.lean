import Conformance.Tool.Basic

/-!
# Tools for files

Tools that copy, move, remove, make and list files and directories. A tool goes on behind an operand
that it has to complain about, and ends in status 1 then.
-/

namespace Conformance.Tool

/-- A path that is given as an argument. -/
def pathOf (arg : Chars) : Path := Text.widen arg

/-- Complain that something could not be done with a path. -/
def refuse (tool attempt : String) (path : Path) (problem : String) : Task Bool := do
  complain tool (attempt ++ " '" ++ path ++ "': " ++ problem)
  return false

/-- Apply an action to each operand; there has to be one. -/
def onEach (tool : String) (operands : List Chars) (action : Path → Task Bool) : Task Nat := do
  if operands.isEmpty then
    complain tool "missing operand"
    return 1
  return statusOf (← Task.forAll (fun operand => action (pathOf operand)) operands)

/-- Make a change, or complain. -/
def changing (tool attempt : String) (path : Path) (change : Change) : Task Bool := do
  match ← Task.change change with
  | .ok () => return true
  | .error e => refuse tool attempt path e.words

/-! ## Copying and moving -/

/-- The last operand, which is the target of the others. -/
def withTarget (tool : String) (operands : List Chars) (action : List Path → Path → Task Nat) :
    Task Nat := do
  match operands.reverse with
  | [] => complain tool "missing file operand"; return 1
  | [only] =>
    complain tool ("missing destination file operand after '" ++ pathOf only ++ "'")
    return 1
  | target :: sources =>
    if 1 < sources.length ∧ !(← Task.isDirectory (pathOf target)) then
      complain tool ("target '" ++ pathOf target ++ "' is not a directory")
      return 1
    action (sources.reverse.map pathOf) (pathOf target)

/-- Copy one operand to a path. -/
def copyOne (recursive : Bool) (source target : Path) : Task Bool := do
  match ← Task.inspect source with
  | .error e => refuse "cp" "cannot stat" source e.words
  | .ok info =>
    let isDirectory := info.kind = .directory
    if isDirectory ∧ !recursive then
      complain "cp" ("-r not specified; omitting directory '" ++ source ++ "'")
      return false
    let place ← Task.copyTarget source target
    if place = source then
      complain "cp" ("'" ++ source ++ "' and '" ++ place ++ "' are the same file")
      return false
    let isNew := (← Task.inspect place).toBool = false
    let fine ← Task.copyTree Task.deepest source place
    if fine ∧ isNew ∧ info.kind = .file ∧ info.executable then
      let _ ← Task.change (.setExecutable place true)
    return fine

/-- Copies files and, if asked to, directories. -/
def cp : Tool := fun args =>
  withArguments "cp" "rRafpvT" "" args fun found => do
    let recursive := found.has 'r' || found.has 'R' || found.has 'a'
    withTarget "cp" found.operands fun sources target => do
      return statusOf (← Task.forAll (fun source => copyOne recursive source target) sources)

/-- Moves files and directories. -/
def mv : Tool := fun args =>
  withArguments "mv" "fnvT" "" args fun found =>
    withTarget "mv" found.operands fun sources target => do
      let move := fun source => do
        let place ← Task.copyTarget source target
        match ← Task.change (.rename source place) with
        | .ok () => return true
        | .error .notFound => refuse "mv" "cannot stat" source OsError.notFound.words
        | .error e => refuse "mv" "cannot move" source e.words
      return statusOf (← Task.forAll move sources)

/-! ## Removing and making -/

/-- Removes files and, if asked to, directories. -/
def rm : Tool := fun args =>
  withArguments "rm" "rRfdv" "" args fun found => do
    let recursive := found.has 'r' || found.has 'R'
    let force := found.has 'f'
    if force ∧ found.operands.isEmpty then return 0
    onEach "rm" found.operands fun path => do
      match ← Task.inspect path with
      | .error e => if force then return true else refuse "rm" "cannot remove" path e.words
      | .ok info =>
        if info.kind ≠ .directory then changing "rm" "cannot remove" path (.removeFile path)
        else if recursive then Task.removeTree Task.deepest path
        else if found.has 'd' then changing "rm" "cannot remove" path (.removeDirectory path)
        else refuse "rm" "cannot remove" path OsError.isDirectory.words

/-- Removes files, one for each operand. -/
def unlink : Tool := fun args =>
  onEach "unlink" args fun path => changing "unlink" "cannot unlink" path (.removeFile path)

/-- Removes directories in which nothing stands. -/
def rmdir : Tool := fun args =>
  withArguments "rmdir" "pv" "" args fun found =>
    onEach "rmdir" found.operands fun path =>
      changing "rmdir" "failed to remove" path (.removeDirectory path)

/-- Makes directories and, if asked to, those above them. -/
def mkdir : Tool := fun args =>
  withArguments "mkdir" "pv" "m" args fun found =>
    onEach "mkdir" found.operands fun path => do
      if !found.has 'p' then changing "mkdir" "cannot create directory" path (.makeDirectory path)
      else if ← Task.makeDirectories "" (Path.pieces path) then return true
      else refuse "mkdir" "cannot create directory" path OsError.alreadyExists.words

/-- Makes pipes with names. -/
def mkfifo : Tool := fun args =>
  withArguments "mkfifo" "" "m" args fun found =>
    onEach "mkfifo" found.operands fun path => changing "mkfifo" "cannot create fifo" path (.makePipe path)

/-- Makes files that are not there. -/
def touch : Tool := fun args =>
  withArguments "touch" "acm" "dtr" args fun found =>
    onEach "touch" found.operands fun path => do
      if (← Task.inspect path).toBool ∨ found.has 'c' then return true
      match ← Task.save path .append [] with
      | .ok () => return true
      | .error e => refuse "touch" "cannot touch" path e.words

/-- Cuts files to a size, or fills them with zeros up to it. -/
def truncate : Tool := fun args =>
  withArguments "truncate" "c" "s" args fun found => do
    match (found.value? 's').bind number? with
    | none => complain "truncate" "you must specify '--size'"; return 1
    | some size =>
      onEach "truncate" found.operands fun path => do
        let old := ((← Task.load path).toOption).getD []
        let new := old.take size ++ List.replicate (size - old.length) 0
        match ← Task.save path .output new with
        | .ok () => return true
        | .error e => refuse "truncate" "cannot open" path e.words

/-! ## Permissions -/

/-- Whether a mode allows or forbids running a file; nothing if it says neither. -/
def runMode? (mode : Chars) : Option Bool :=
  if mode.all Char.isDigit then
    (Text.numeral? Text.digitValue? 8 0 mode).map fun bits => bits % 128 ≥ 64
  else if mode.contains 'x' ∧ !mode.contains '=' then some (mode.contains '+')
  else if mode.contains '=' then some (mode.contains 'x')
  else none

/-- Allows or forbids running files. -/
def chmod : Tool := fun args => do
  let args := args.filter fun arg => arg ≠ "-R".toList ∧ arg ≠ "-f".toList
  match args with
  | [] => complain "chmod" "missing operand"; return 1
  | mode :: operands =>
    onEach "chmod" operands fun path => do
      match ← Task.inspect path, runMode? mode with
      | .error e, _ => refuse "chmod" "cannot access" path e.words
      | .ok _, none => return true
      | .ok _, some executable => return (← Task.change (.setExecutable path executable)).toBool

/-! ## Listing -/

/-- Names in the order of their bytes. -/
def sorted (names : List Chars) : List Chars := names.mergeSort fun a b => !decide (b < a)

/-- The names in a directory that are shown: hidden ones only if asked for. -/
def shown (found : Arguments) (names : List String) : List Chars :=
  let names := names.map Text.narrow
  let all := if found.has 'a' then ['.'] :: ['.', '.'] :: names else names
  let visible :=
    if found.has 'a' ∨ found.has 'A' then all else all.filter fun name => name.head? ≠ some '.'
  let ordered := sorted visible
  if found.has 'r' then ordered.reverse else ordered

/-- List one directory, under a heading if there is more than one. -/
def listDirectory (found : Arguments) (headed : Bool) (path : Path) : Task Bool := do
  match ← Task.names path with
  | .error e => refuse "ls" "cannot open directory" path e.words
  | .ok names =>
    if headed then putText (path ++ ":\n")
    put (ofLines (shown found names))
    return true

/-- List directories, with an empty line between them. -/
def listDirectories (found : Arguments) (headed : Bool) : List Chars → Task Bool
  | [] => return true
  | [only] => listDirectory found headed (pathOf only)
  | first :: rest => do
    let fine ← listDirectory found headed (pathOf first)
    putText "\n"
    return (← listDirectories found headed rest) && fine

/-- The operands that are no directories, those that are, and whether all are there. -/
def divide : List Chars → Task (List Chars × List Chars × Bool)
  | [] => return ([], [], true)
  | operand :: rest => do
    match ← Task.inspect (pathOf operand) with
    | .error e =>
      let _ ← refuse "ls" "cannot access" (pathOf operand) e.words
      let (files, directories, _) ← divide rest
      return (files, directories, false)
    | .ok info =>
      let (files, directories, fine) ← divide rest
      if info.kind = .directory then return (files, operand :: directories, fine)
      else return (operand :: files, directories, fine)

/-- Lists files and what stands in directories, one name a line. -/
def ls : Tool := fun args =>
  withArguments "ls" "1aArCdtS" "" args fun found => do
    let operands := if found.operands.isEmpty then [['.']] else sorted found.operands
    let (files, directories, fine) ← divide operands
    if found.has 'd' then
      put (ofLines (sorted (files ++ directories)))
      return if fine then 0 else 2
    put (ofLines files)
    if !files.isEmpty ∧ !directories.isEmpty then putText "\n"
    let listed ← listDirectories found (1 < operands.length) directories
    return if fine && listed then 0 else 2

end Conformance.Tool
