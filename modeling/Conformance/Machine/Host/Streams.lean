import Conformance.Machine.Host.Basic

/-!
# Opening, reading and writing

What a process does with its descriptors. What cannot be answered yet, such as reading from an empty
pipe that somebody may still write to, is no answer: it is asked again later.
-/

namespace Conformance.Host

variable (host : Host)

/-- Open what stands at a place, or make it. A file that is opened for reading has to be readable. -/
def openPlace (place : Place) (mode : OpenMode) :
    Except OsError (Target × Host) :=
  match host.files.get? place with
  | some (.file _ executable readable) =>
    if mode.reading && !readable then .error .denied
    else
      .ok (.place place,
        if mode.truncating then
          { host with files := host.files.put place (.file [] executable readable) }
        else host)
  | some .directory =>
    if mode.writing then .error .isDirectory else .ok (.place place, host)
  | some (.pipe number) => .ok (.pipe number, host)
  | some (.device which) => .ok (.device which, host)
  | none =>
    if mode.creating then
      .ok (.place place, { host with files := host.files.put place (.file [] false) })
    else .error .notFound

/-- The other end that a pipe needs before it counts as open: a process that reads waits for one that
    writes, and the other way round. -/
def hasOtherEnd (target : Target) (mode : OpenMode) : Bool :=
  match target with
  | .pipe number =>
    (mode.reading && mode.writing) ||
      (if mode.reading then host.hasWriter number else host.hasReader number)
  | _ => true

/-- Go on with a file that was opened, once its other end is there. -/
def settle (process : Process) (descriptor : Nat) (next : Except OsError Nat → Program) :
    Option Host :=
  match host.openFile? process descriptor with
  | none => some (host.proceed { process with opened := none } (next (.error .badDescriptor)))
  | some entry =>
    if host.hasOtherEnd entry.target entry.mode then
      some (host.proceed { process with opened := none } (next (.ok descriptor)))
    else none

/-- Open a file for a process. A pipe is opened in two turns, so that both ends meet. -/
def performOpen (process : Process) (path : Path) (mode : OpenMode)
    (next : Except OsError Nat → Program) : Option Host :=
  match process.opened with
  | some descriptor => host.settle process descriptor next
  | none =>
    let found := do
      let place ← host.files.locate process.directory path
      host.openPlace place mode
    match found with
    | .error e => some (host.proceed process (next (.error e)))
    | .ok (target, host) =>
      let (descriptor, process, host) := host.attach process target mode
      if host.hasOtherEnd target mode then
        some (host.proceed process (next (.ok descriptor)))
      else some (host.put { process with opened := some descriptor })

/-- Read for a process. An empty pipe is worth waiting for as long as somebody can write to it. -/
def performRead (process : Process) (descriptor count : Nat)
    (next : Except OsError Bytes → Program) : Option Host :=
  match host.openFile? process descriptor with
  | none => some (host.proceed process (next (.error .badDescriptor)))
  | some entry =>
    if !entry.mode.reading then some (host.proceed process (next (.error .badDescriptor)))
    else match entry.target with
      | .device .null => some (host.proceed process (next (.ok [])))
      | .device .zero => some (host.proceed process (next (.ok (List.replicate count 0))))
      | .pipe number =>
        let content := host.held number
        if content.isEmpty && host.hasWriter number then none
        else
          some ((host.hold number (content.drop count)).proceed process
            (next (.ok (content.take count))))
      | .place place =>
        match host.files.get? place with
        | some (.file content _ _) =>
          let bytes := (content.drop entry.offset).take count
          some ((host.seek entry (entry.offset + bytes.length)).proceed process (next (.ok bytes)))
        | some .directory => some (host.proceed process (next (.error .isDirectory)))
        | _ => some (host.proceed process (next (.ok [])))

/-- A content after bytes were written at an offset. -/
def overwrite (content : Bytes) (offset : Nat) (bytes : Bytes) : Bytes :=
  let gap := List.replicate (offset - content.length) 0
  content.take offset ++ gap ++ bytes ++ content.drop (offset + bytes.length)

/-- The signal that a process gets when it writes to a pipe that nobody reads. -/
def brokenPipeSignal : Nat := 13

/-- Write to a pipe: as much as it can take, the rest later. -/
def writePipe (process : Process) (descriptor number : Nat) (bytes : Bytes)
    (next : Except OsError Unit → Program) : Option Host :=
  let content := host.held number
  let room := pipeCapacity - content.length
  if !host.hasReader number then some (host.finish process (.signalled brokenPipeSignal))
  else if bytes.length ≤ room then
    some ((host.hold number (content ++ bytes)).proceed process (next (.ok ())))
  else if room = 0 ∨ bytes.length ≤ pipeUnit then none
  else
    some ((host.hold number (content ++ bytes.take room)).proceed process
      (.write descriptor (bytes.drop room) next))

/-- Write for a process. -/
def performWrite (process : Process) (descriptor : Nat) (bytes : Bytes)
    (next : Except OsError Unit → Program) : Option Host :=
  match host.openFile? process descriptor with
  | none => some (host.proceed process (next (.error .badDescriptor)))
  | some entry =>
    if !entry.mode.writing then some (host.proceed process (next (.error .badDescriptor)))
    else match entry.target with
      | .device _ => some (host.proceed process (next (.ok ())))
      | .pipe number => host.writePipe process descriptor number bytes next
      | .place place =>
        match host.files.get? place with
        | some (.file content executable readable) =>
          let offset := if entry.mode.appending then content.length else entry.offset
          let content := overwrite content offset bytes
          let files := host.files.put place (.file content executable readable)
          some (({ host with files := files }.seek entry (offset + bytes.length)).proceed process
            (next (.ok ())))
        | _ => some (host.proceed process (next (.ok ())))

end Conformance.Host
