import Conformance.Shell.Expand

/-!
# Redirections

Descriptors are redirected before a command and set back behind it: what a descriptor referred to is
kept under a spare one in the meantime. Spare descriptors are not passed on to other programs.
-/

namespace Conformance.Shell

open Act

/-- A descriptor that was redirected, and the one that keeps what it referred to, if it did to
    anything. -/
structure Kept where
  descriptor : Nat
  spare : Option Nat
deriving DecidableEq, Repr

/-- Keep what a descriptor refers to. -/
def keep (descriptor : Nat) : Act Kept := do
  let memory ← get
  match ← lift (Task.change (.duplicate descriptor memory.spare)) with
  | .ok () =>
    set { memory with spare := memory.spare + 1 }
    return ⟨descriptor, some memory.spare⟩
  | .error _ => return ⟨descriptor, none⟩

/-- Set descriptors back, given the last one first. -/
def restore : List Kept → Act Unit
  | [] => return ()
  | ⟨descriptor, none⟩ :: rest => do
    lift (Task.close descriptor)
    restore rest
  | ⟨descriptor, some spare⟩ :: rest => do
    moveDescriptor spare descriptor
    modify fun memory => { memory with spare := min memory.spare spare }
    restore rest

/-- Close the spare descriptors of redirections that are there to stay. -/
def discard : List Kept → Act Unit
  | [] => return ()
  | ⟨_, none⟩ :: rest => discard rest
  | ⟨_, some spare⟩ :: rest => do
    lift (Task.close spare)
    modify fun memory => { memory with spare := min memory.spare spare }
    discard rest

/-- The way in which a redirection opens a file. -/
def openMode : RedirectKind → OpenMode
  | .input => .input
  | .output => .output
  | .append => .append
  | .both => .both
  | .copy | .here => .input

/-- What a shell says when it cannot open a file. -/
def openProblem (kind : RedirectKind) (path : Chars) (error : OsError) : String :=
  let action := match kind with
    | .input => "open"
    | _ => "create"
  let words := match kind, error with
    | .input, .notFound => "No such file"
    | _, .notFound => "Directory nonexistent"
    | _, error => error.words
  "cannot " ++ action ++ " " ++ Text.widen path ++ ": " ++ words

/-- Make a descriptor give a text: the text goes through a channel, into which another process writes it
    if it is long. -/
def provide (evaluator : Evaluator) (descriptor : Nat) (content : Chars) : Act Unit := do
  let bytes := Text.ofOctets content
  let (source, target) ← lift Task.makeChannel
  if bytes.length ≤ 4096 then
    let _ ← lift (Task.write target bytes)
  else
    let _ ← fork evaluator do
      lift (Task.close source)
      let _ ← lift (Task.write target bytes)
  lift (Task.close target)
  moveDescriptor source descriptor

/-- What a redirection does, once its target is known: nothing, or a problem. -/
def redirectTo (evaluator : Evaluator) (descriptor : Nat) (kind : RedirectKind) (target : Chars) :
    Act (Option String) := do
  match kind with
  | .here => provide evaluator descriptor target; return none
  | .copy =>
    if target = ['-'] then
      lift (Task.close descriptor)
      return none
    match Text.digits? target with
    | none => return some "Bad fd number"
    | some source =>
      if source = descriptor then return none
      match ← lift (Task.change (.duplicate source descriptor)) with
      | .ok () => return none
      | .error e => return some (Text.decimal source ++ ": " ++ e.words)
  | kind =>
    match ← lift (Task.openFile (Text.widen target) (openMode kind)) with
    | .error e => return some (openProblem kind target e)
    | .ok opened =>
      moveDescriptor opened descriptor
      return none

/-- Redirect descriptors one after the other. Gives what is kept of them, last first, and a problem if
    there was one. -/
def redirectAll (evaluator : Evaluator) : List Redirect → List Kept →
    Act (List Kept × Option String)
  | [], kept => return (kept, none)
  | .mk descriptor kind word :: rest, kept => do
    let target ← textOf evaluator word
    let now ← keep descriptor
    -- A descriptor that is being kept has to be free before a file is opened.
    match ← redirectTo evaluator descriptor kind target with
    | none => redirectAll evaluator rest (now :: kept)
    | some problem => return (now :: kept, some problem)

/-- Do something with descriptors redirected. A problem with a redirection gives status 2, and tells
    that nothing was done. -/
def redirected (evaluator : Evaluator) (redirects : List Redirect) (action : Act Unit) :
    Act Bool := do
  let (kept, problem) ← redirectAll evaluator redirects []
  match problem with
  | some problem =>
    complain problem
    restore kept
    setStatus 2
    return false
  | none =>
    andFinally action (restore kept)
    return true

end Conformance.Shell
