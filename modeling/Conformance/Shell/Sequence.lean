import Conformance.Shell.Memory
import Conformance.Shell.Read

/-!
# Running scripts

A script is run one complete command at a time: each is read when those in front of it have been run.
A mistake in a script ends the shell.
-/

namespace Conformance.Shell

open Act

/-- Run what is left of a script that has a number of lines. Its last command may be told that the
    process ends with it. Tells whether there was a command. -/
def runText (evaluator : Evaluator) (endsToo : Bool) (lines : Nat) :
    Nat → Bool → Chars → Act Bool
  | 0, ran, _ => return ran
  | rounds + 1, ran, text => do
    let text := skipLines (text.length + 1) text
    modify fun memory => { memory with line := lines - text.count '\n' }
    match nextCommand text with
    | .done => return ran
    | .mistake => abandon "Syntax error"
    | .found commands left =>
      let isEnd := endsToo && (skipLines (left.length + 1) left).isEmpty
      evaluator.run isEnd commands
      runText evaluator endsToo lines rounds true left

/-- Run a script. One without commands succeeds. -/
def runScript (evaluator : Evaluator) (endsToo : Bool) (script : Chars) : Act Unit := do
  let line := (← get).line
  let lines := script.count '\n' + 1
  if !(← runText evaluator endsToo lines (script.length + 1) false script) then setStatus 0
  modify fun memory => { memory with line := line }

/-- Run the script of a trap. The status stays as it was, unless the shell is ended by it. -/
def runTrap (evaluator : Evaluator) (script : Chars) : Act Unit := do
  let status := (← get).status
  untested (runScript evaluator false script)
  setStatus status

/-- Run the scripts of traps for signals. -/
def runTraps (evaluator : Evaluator) : List Nat → Act Unit
  | [] => return ()
  | signal :: rest => do
    match (← get).traps.lookup signal with
    | some script => runTrap evaluator script
    | none => pure ()
    runTraps evaluator rest

/-- Deal with the signals that came, if any is waited for. -/
def heedSignals (evaluator : Evaluator) : Act Unit := do
  if (← get).traps.any fun trap => trap.1 ≠ 0 && !trap.2.isEmpty then
    runTraps evaluator (← lift Task.notedSignals)

/-- Do something, and then what is to be done when the shell ends. -/
def closing (evaluator : Evaluator) (work : Act Unit) : Act Unit := do
  let _ ← attempt work
  match (← get).traps.lookup 0 with
  | none => return ()
  | some script =>
    setTrap 0 none
    let _ ← attempt (runTrap evaluator script)

/-- Start a process that does some of the shell's work. -/
def fork (evaluator : Evaluator) (work : Act Unit) : Act Nat := do
  let memory ← get
  let child := closing evaluator do
    dropTraps memory.traps
    work
  lift (Task.fork (program child memory.forked))

/-- Wait for a process and give its status. -/
def awaitStatus (process : Nat) : Act Nat := do
  match ← lift (Task.await (some process)) with
  | some (_, ended) => return statusOf ended
  | none => return 127

end Conformance.Shell
