import Conformance.Machine.Host.Streams

/-!
# Answering processes

A process asks for one thing at a time. `perform` answers it, or gives nothing if the process has to
wait.
-/

namespace Conformance.Host

variable (host : Host)

/-! ## Finding programs -/

/-- The interpreter that the first line of a file names, with its argument if there is one. -/
def interpreter? (content : Bytes) : Option (String × List String) :=
  match content with
  | 0x23 :: 0x21 :: rest =>
    let line := (Text.decode (rest.takeWhile (· ≠ 10))).toList
    let isBlank := fun (c : Char) => c = ' ' || c = '\t'
    let line := ((line.dropWhile isBlank).reverse.dropWhile isBlank).reverse
    let name := line.takeWhile (!isBlank ·)
    let argument := (line.dropWhile (!isBlank ·)).dropWhile isBlank
    some (String.ofList name, if argument.isEmpty then [] else [String.ofList argument])
  | _ => none

/-- The program that a file holds, given its path and its arguments. -/
def fileProgram (path : Path) (content : Bytes) (args : List String) :
    Except OsError (Environment → Program) :=
  match interpreter? content with
  | none => .error .badFormat
  | some (name, fixed) =>
    match host.catalog name with
    | some program => .ok (program (fixed ++ path :: args))
    | none => .error .notFound

/-- The program under a name, as it is found from a directory. A name without a separator is looked up
    among the installed programs. -/
def findProgram (directory : Place) (name : Path) (args : List String) :
    Except OsError (Environment → Program) :=
  if '/' ∈ name.toList then
    match host.files.nodeAt directory name with
    | .ok (.file content true _) => host.fileProgram name content args
    | .ok _ => .error .denied
    | .error e =>
      match host.catalog name with
      | some program => .ok (program args)
      | none => .error e
  else if name = "." ∨ name = ".." then .error .denied
  else if 255 < Text.byteLength name then .error .nameTooLong
  else
    match host.catalog name with
    | some program => .ok (program args)
    | none => .error .notFound

/-! ## Everything else that a program asks for -/

/-- What a program learns about a node. -/
def infoOf : Node → FileInfo
  | .file content executable readable => ⟨.file, content.length, executable, readable⟩
  | .directory => ⟨.directory, FileSystem.directorySize, true, true⟩
  | .pipe _ => ⟨.pipe, 0, false, true⟩
  | .device _ => ⟨.device, 0, false, true⟩

/-- What a program learns about a path. -/
def inspect (process : Process) (path : Path) : Except OsError FileInfo :=
  match host.files.nodeAt process.directory path with
  | .ok node => .ok (infoOf node)
  | .error e => .error e

/-- The names in a directory. -/
def namesAt (process : Process) (path : Path) : Except OsError (List String) :=
  match host.files.locate process.directory path with
  | .error e => .error e
  | .ok place =>
    match host.files.get? place with
    | some .directory => .ok (host.files.namesIn place)
    | some _ => .error .notDirectory
    | none => .error .notFound

/-- The path of the directory in which a process runs. -/
def directoryPath (process : Process) : Path := "/" ++ "/".intercalate process.directory

/-- Change files as a process asks. -/
def changeFiles (process : Process) (change : FileSystem → Except OsError FileSystem) :
    Except OsError (Process × Host) :=
  match host.files.within process.directory change with
  | .error e => .error e
  | .ok files => .ok (process, { host with files := files })

/-- Change something for a process. -/
def applyChange (process : Process) : Change → Except OsError (Process × Host)
  | .makeDirectory path => host.changeFiles process (·.make path .directory)
  | .makePipe path =>
    { host with unused := host.unused + 1 }.changeFiles process (·.make path (.pipe host.unused))
  | .removeFile path => host.changeFiles process (·.unlink path)
  | .removeDirectory path => host.changeFiles process (·.removeDirectory path)
  | .rename old new => host.changeFiles process (·.rename old new)
  | .setExecutable path executable => host.changeFiles process (·.setExecutable path executable)
  | .enter path =>
    match host.files.locate process.directory path with
    | .error e => .error e
    | .ok place =>
      match host.files.get? place with
      | some .directory => .ok ({ process with directory := place }, host)
      | some _ => .error .notDirectory
      | none => .error .notFound
  | .duplicate source target =>
    match process.descriptors.lookup source with
    | none => .error .badDescriptor
    | some number =>
      let others := process.descriptors.filter (·.1 ≠ target)
      .ok ({ process with descriptors := (target, number) :: others }, host)
  | .close descriptor =>
    .ok ({ process with descriptors := process.descriptors.filter (·.1 ≠ descriptor) }, host)
  | .handle signal disposition =>
    let others := process.dispositions.filter (·.1 ≠ signal)
    .ok ({ process with dispositions := (signal, disposition) :: others }, host)

/-- Make a channel for a process: a pipe with a descriptor for each end. -/
def channel (process : Process) : (Nat × Nat) × Process × Host :=
  let number := host.unused
  let host := { host with unused := number + 1 }
  let (source, process, host) := host.attach process (.pipe number) { reading := true }
  let (target, process, host) := host.attach process (.pipe number) { writing := true }
  ((source, target), process, host)

/-- Wait for a child of a process. -/
def performAwait (process : Process) (wanted : Option Nat)
    (next : Option (Nat × ExitStatus) → Program) : Option Host :=
  let children := host.processes.filter fun child =>
    child.parent = process.number && wanted.all (· = child.number)
  let ended := children.findSome? fun child =>
    child.ended.map fun status => (child.number, status)
  match ended with
  | some (number, status) =>
    some ((host.forget number).proceed process (next (some (number, status))))
  | none => if children.isEmpty then some (host.proceed process (next none)) else none

/-- Signals that do nothing unless a program asks for them. -/
def isHarmless (number : Nat) : Bool := [0, 17, 18, 23, 28].contains number

/-- The signal that nothing survives. -/
def killSignal : Nat := 9

/-- What a process does about a signal. -/
def dispositionOf (process : Process) (signal : Nat) : Disposition :=
  if signal = killSignal then .usual
  else
    match process.dispositions.lookup signal with
    | some .usual | none => if isHarmless signal then .ignored else .usual
    | some other => other

/-- Deliver a signal to a process. -/
def deliver (process : Process) (signal : Nat) : Host :=
  match dispositionOf process signal with
  | .usual => host.finish process (.signalled signal)
  | .ignored => host
  | .noted =>
    let informed := { process with noted := signal :: process.noted }
    { host with
      processes := host.processes.map fun other =>
        if other.number = process.number then informed else other }

/-- Send a signal for a process. -/
def performSignal (process : Process) (target number : Nat)
    (next : Except OsError Unit → Program) : Host :=
  let host := host.proceed process (next (match host.process? target with
    | some _ => .ok ()
    | none => .error .noProcess))
  match host.process? target with
  | none => host
  | some found => if found.ended.isSome then host else host.deliver found number

/-- Descriptors from this number on are not passed on to another program. -/
def spareDescriptors : Nat := 10

/-- Answer what a process asks for; nothing if it has to wait. -/
def perform (process : Process) : Option Host :=
  if process.ended.isSome then none
  else match process.program with
  | .exit code => some (host.finish process (.exited (code % 256)))
  | .rest next => some (host.proceed process (next ()))
  | .sleep micros next =>
    match process.wakeAt with
    | none => some (host.put { process with wakeAt := some (host.clock + micros) })
    | some time =>
      if time ≤ host.clock then some (host.proceed { process with wakeAt := none } (next ()))
      else none
  | .openFile path mode next => host.performOpen process path mode next
  | .read descriptor count next => host.performRead process descriptor count next
  | .write descriptor bytes next => host.performWrite process descriptor bytes next
  | .makeChannel next =>
    let (ends, process, host) := host.channel process
    some (host.proceed process (next ends))
  | .inspect path next => some (host.proceed process (next (host.inspect process path)))
  | .names path next => some (host.proceed process (next (host.namesAt process path)))
  | .change what next =>
    match host.applyChange process what with
    | .error e => some (host.proceed process (next (.error e)))
    | .ok (process, host) => some (host.proceed process (next (.ok ()))).tidy
  | .whereAmI next => some (host.proceed process (next (directoryPath process)))
  | .whoAmI next => some (host.proceed process (next process.number))
  | .fork child next =>
    let number := host.unused
    let newcomer :=
      { process with number := number, parent := process.number, program := child, noted := [] }
    some (({ host with unused := number + 1 }.proceed process (next number)).put newcomer)
  | .become name args environment refused =>
    match host.findProgram process.directory name args with
    | .ok program =>
      let passed := process.descriptors.filter (·.1 < spareDescriptors)
      let kept := process.dispositions.filter (·.2 = .ignored)
      some (host.proceed { process with descriptors := passed, dispositions := kept }
        (program environment)).tidy
    | .error e => some (host.proceed process (refused e))
  | .await wanted next => host.performAwait process wanted next
  | .signal target number next => some (host.performSignal process target number next)
  | .notedSignals next =>
    some (host.proceed { process with noted := [] } (next process.noted.reverse))

end Conformance.Host
