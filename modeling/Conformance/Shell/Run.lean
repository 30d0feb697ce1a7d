import Conformance.Shell.Builtin
import Conformance.Shell.Redirection

/-!
# Running commands

How each kind of command is run. What is inside a command is run by the evaluator that is given;
`evaluate` ties the knot, with a bound on how deep commands can be nested and called.
-/

namespace Conformance.Shell

open Act

/-! ## Programs -/

/-- The directories in which programs are looked for if no variable says so. -/
def usualPath : Chars := "/usr/local/sbin:/usr/local/bin:/usr/sbin:/usr/bin:/sbin:/bin".toList

/-- The paths under which a program may be found. -/
def candidates (memory : Memory) (name : Chars) : List Chars :=
  if name.contains '/' then [name]
  else
    let directories := ((memory.value? "PATH".toList).getD usualPath).splitOn ':'
    directories.map fun directory => if directory.isEmpty then name else directory ++ '/' :: name

/-- Become the program at one of some paths. A file that is no program is taken for a script. Gives the
    problem with the last path, or with one that stands but cannot be used. -/
def becomeOne (args : List Chars) (environment : Environment) : List Chars → OsError → Task OsError
  | [], problem => return problem
  | path :: rest, problem => do
    let widened := args.map Text.widen
    match ← Task.become (Text.widen path) widened environment with
    | .badFormat => Task.become "/bin/sh" (Text.widen path :: widened) environment
    | .notFound | .notDirectory => becomeOne args environment rest problem
    | error => becomeOne args environment rest error

/-- Become a program, or complain and end. -/
def become (name : Chars) (args : List Chars) : Act Unit := do
  let memory ← get
  let paths := if name.isEmpty then [] else candidates memory name
  let error ← lift (becomeOne args memory.environment paths .notFound)
  let problem := if error = .notFound then "not found" else error.words
  complain (Text.widen name ++ ": " ++ problem)
  setStatus (Tool.refusalStatus error)
  throw .exit

/-- Give variables values that are passed on to programs. -/
def assignExported : List (Chars × Chars) → Act Unit
  | [] => return ()
  | (name, value) :: rest => do
    assign name value
    modify fun memory =>
      let old := (memory.bindings.lookup name).getD ⟨none, false, false⟩
      memory.setVariable name (some { old with exported := true })
    assignExported rest

/-- Run a program in a process of its own, or in this one if it ends with it. -/
def runProgram (evaluator : Evaluator) (isLast : Bool) (settings : List (Chars × Chars))
    (name : Chars) (args : List Chars) : Act Unit := do
  let work := do
    assignExported settings
    become name args
  if isLast ∧ (← get).traps.isEmpty then work
  else
    let child ← fork evaluator work
    setStatus (← awaitStatus child)

/-! ## Commands by name -/

/-- Call a function. -/
def callFunction (evaluator : Evaluator) (body : Command) (args : List Chars) : Act Unit := do
  let old ← get
  set
    { old with
      arguments := args
      hidden := []
      loops := 0
      calls := old.calls + 1
      optionIndex := 1
      optionOffset := 0 }
  lift Task.rest
  let outcome ← attempt (evaluator.run false [body])
  modify fun memory =>
    let shown := memory.hidden.foldl (fun memory (name, v) => memory.setVariable name v) memory
    { shown with
      arguments := old.arguments
      hidden := old.hidden
      loops := old.loops
      calls := old.calls
      optionIndex := old.optionIndex
      optionOffset := old.optionOffset }
  match outcome with
  | .ok () | .error .back => return ()
  | .error jump => throw jump

/-- Run the script in a file as part of this shell. -/
def source (evaluator : Evaluator) : Builtin := fun args => do
  match args with
  | [] => return 0
  | name :: _ =>
    match ← lift (loadFirst (candidates (← get) name)) with
    | none => abandon (".: cannot open " ++ Text.widen name ++ ": No such file")
    | some content =>
      match ← attempt (untested (runScript evaluator false (Text.octets content))) with
      | .ok () | .error .back => return (← get).status
      | .error jump => throw jump
where
  /-- The content of the first file that can be read. -/
  loadFirst : List Chars → Task (Option Bytes)
    | [] => return none
    | path :: rest => do
      match ← Task.load (Text.widen path) with
      | .ok content => return some content
      | .error _ => loadFirst rest

/-- Run arguments as a script. -/
def evaluateText (evaluator : Evaluator) : Builtin := fun args => do
  runScript evaluator false (List.intercalate [' '] args)
  return (← get).status

/-- What a name stands for. -/
inductive Meaning where
  | special (builtin : Builtin)
  | regular (builtin : Builtin)
  | function (body : Command)
  | program

/-- The commands whose misuse ends the shell, with those that run scripts. -/
def special? (evaluator : Evaluator) (name : String) : Option Builtin :=
  match name with
  | "." => some (source evaluator)
  | "eval" => some (evaluateText evaluator)
  | name => Builtin.special? name

/-- What a name stands for. Functions are left out if asked for. -/
def meaning (evaluator : Evaluator) (memory : Memory) (functions : Bool) (name : Chars) : Meaning :=
  let plain := String.ofList name
  match special? evaluator plain, memory.functions.lookup name, Builtin.regular? plain with
  | some builtin, _, _ => if functions then .special builtin else .regular builtin
  | none, some body, regular =>
    if functions then .function body
    else match regular with
      | some builtin => .regular builtin
      | none => .program
  | none, none, some builtin => .regular builtin
  | none, none, none => .program

/-- Where the program of a name stands, if there is one. -/
def programPath? (name : Chars) : Act (Option Chars) := do
  let plain := Text.widen name
  if name.contains '/' then
    return if (← lift (Task.inspect plain)).toBool then some name else none
  else return if (Tool.catalog plain).isSome then some ("/usr/bin/".toList ++ name) else none

/-- Print what a name stands for. -/
def describe (evaluator : Evaluator) (name : Chars) : Act Nat := do
  match meaning evaluator (← get) true name with
  | .program =>
    match ← programPath? name with
    | some path =>
      lift (Tool.put (path ++ ['\n']))
      return 0
    | none => return 127
  | _ =>
    lift (Tool.put (name ++ ['\n']))
    return 0

/-- Explain what names stand for. -/
def explain (evaluator : Evaluator) : Builtin := explainEach 0
where
  /-- Explain names one after the other, with the status so far. -/
  explainEach (status : Nat) : List Chars → Act Nat
    | [] => return status
    | name :: rest => do
      let (kind, found) ←
        match meaning evaluator (← get) true name with
        | .special _ => pure (" is a special shell builtin", true)
        | .regular _ => pure (" is a shell builtin", true)
        | .function _ => pure (" is a shell function", true)
        | .program =>
          match ← programPath? name with
          | some path => pure (" is " ++ Text.widen path, true)
          | none => pure (": not found", false)
      lift (Tool.putText (Text.widen name ++ kind ++ "\n"))
      explainEach (if found then status else 127) rest

/-- Run something with variables that have other values meanwhile. -/
def withSettings (settings : List (Chars × Chars)) (action : Act Unit) : Act Unit := do
  let memory ← get
  let old := settings.map fun (name, _) => (name, memory.bindings.lookup name)
  assignExported settings
  andFinally action <| modify fun memory =>
    old.foldl (fun memory (name, v) => memory.setVariable name v) memory

/-- Run the command that a name stands for. -/
def runNamed (evaluator : Evaluator) (isLast functions : Bool) (settings : List (Chars × Chars))
    (name : Chars) (args : List Chars) : Act Unit := do
  match meaning evaluator (← get) functions name with
  | .special builtin =>
    Builtin.assignEach settings
    setStatus (← builtin args)
  | .regular builtin => withSettings settings (tolerate do setStatus (← builtin args))
  | .function body => withSettings settings (callFunction evaluator body args)
  | .program => runProgram evaluator isLast settings name args

/-- Whether redirections that fail end the shell. -/
def isSpecial? (evaluator : Evaluator) (memory : Memory) (name : Chars) : Bool :=
  name = "exec".toList ||
    match meaning evaluator memory true name with
    | .special _ => true
    | _ => false

/-! ## Simple commands -/

/-- The values of assignments, each expanded when those in front of it are known. -/
def settingsOf (evaluator : Evaluator) : List (Chars × Word) → Act (List (Chars × Chars))
  | [] => return []
  | (name, word) :: rest => do
    let value ← textOf evaluator word
    return (name, value) :: (← settingsOf evaluator rest)

/-- Make assignments one after the other. -/
def assignWords (evaluator : Evaluator) : List (Chars × Word) → Act Unit
  | [] => return ()
  | (name, word) :: rest => do
    assign name (← textOf evaluator word)
    assignWords evaluator rest

/-- Become another program, or keep redirections if none is named. -/
def runExec (evaluator : Evaluator) (assignments : List (Chars × Word)) (redirects : List Redirect)
    (args : List Chars) : Act Unit := do
  let (kept, problem) ← redirectAll evaluator redirects []
  match problem with
  | some problem =>
    restore kept
    abandon problem
  | none =>
    discard kept
    let settings ← settingsOf evaluator assignments
    match args with
    | [] =>
      Builtin.assignEach settings
      setStatus 0
    | name :: args =>
      assignExported settings
      become name args

/-- Run `command` with its arguments: what a name stands for, but no function. -/
def runPlainly (evaluator : Evaluator) (isLast : Bool) (settings : List (Chars × Chars)) :
    List Chars → Act Unit
  | [] => setStatus 0
  | ['-', 'v'] :: name :: _ | ['-', 'V'] :: name :: _ => do setStatus (← describe evaluator name)
  | ['-', 'p'] :: name :: args | ['-', '-'] :: name :: args | name :: args =>
    runNamed evaluator isLast false settings name args

/-- Show a command before it is run, if that is asked for. -/
def trace (fields : List Chars) : Act Unit := do
  if (← get).hasOption 'x' ∧ !fields.isEmpty then
    lift (Task.complain ("+ " ++ Text.widen (List.intercalate [' '] fields)))

/-- Run a simple command. -/
def runSimple (evaluator : Evaluator) (isLast : Bool) (assignments : List (Chars × Word))
    (words : List Word) (redirects : List Redirect) : Act Unit := do
  modify fun memory => { memory with takenStatus := 0 }
  let fields ← fieldsOfAll evaluator words
  trace fields
  match fields with
  | [] =>
    let done ← redirected evaluator redirects (assignWords evaluator assignments)
    if done then modify fun memory => { memory with status := memory.takenStatus }
  | name :: args =>
    if name = "exec".toList then runExec evaluator assignments redirects args
    else
      let isSpecial := isSpecial? evaluator (← get) name
      let done ← redirected evaluator redirects do
        let settings ← settingsOf evaluator assignments
        if name = "command".toList then runPlainly evaluator isLast settings args
        else if name = "type".toList then setStatus (← explain evaluator args)
        else runNamed evaluator isLast true settings name args
      if !done ∧ isSpecial then throw .exit

/-! ## Compound commands -/

/-- Run something that only is asked for its status. -/
def asTest (action : Act Unit) : Act Unit := do
  modify fun memory => { memory with tests := memory.tests + 1 }
  andFinally action <| modify fun memory => { memory with tests := memory.tests - 1 }

/-- End the shell if a command failed and that is asked for. -/
def checkFailure : Act Unit := do
  let memory ← get
  if memory.status ≠ 0 ∧ memory.tests = 0 ∧ memory.hasOption 'e' then throw .exit

/-- Run a round of a loop, and tell whether the loop goes on. -/
def oneRound (round : Act Bool) : Act Bool := do
  match ← attempt round with
  | .ok goesOn => return goesOn
  | .error (.leave n) => if n ≤ 1 then return false else throw (.leave (n - 1))
  | .error (.goOn n) => if n ≤ 1 then return true else throw (.goOn (n - 1))
  | .error jump => throw jump

/-- Run something as a loop. -/
def asLoop (action : Act Unit) : Act Unit := do
  modify fun memory => { memory with loops := memory.loops + 1 }
  andFinally action <| modify fun memory => { memory with loops := memory.loops - 1 }

/-- Run rounds until one tells that the loop ends. -/
def runRounds (round : Act Bool) : Nat → Act Unit
  | 0 => return ()
  | rounds + 1 => do
    lift Task.rest
    if ← oneRound round then runRounds round rounds

/-- Run a loop with a test. Its status is that of the commands inside it when they ran last, and success
    if they never did. -/
def runLoop (evaluator : Evaluator) (isUntil : Bool) (test body : List Command) : Act Unit := do
  let round := fun (isFirst : Bool) => do
    let memory ← get
    let before := if isFirst then 0 else memory.status
    asTest (evaluator.run false test)
    if ((← get).status = 0) = isUntil then
      setStatus before
      return false
    evaluator.run false body
    return true
  asLoop do
    if ← oneRound (round true) then runRounds (round false) lifetime

/-- Run a loop over texts. -/
def runEach (evaluator : Evaluator) (name : Chars) (body : List Command) : List Chars → Act Unit
  | [] => return ()
  | value :: rest => do
    let goesOn ← oneRound do
      assign name value
      evaluator.run false body
      return true
    if goesOn then runEach evaluator name body rest

/-- Whether one of some patterns stands for a text. -/
def anyMatches (evaluator : Evaluator) (subject : Chars) : List Word → Act Bool
  | [] => return false
  | word :: rest => do
    if isMatch (← marksOf evaluator word) subject then return true
    anyMatches evaluator subject rest

/-- Run the first branch with a pattern that stands for a text. -/
def runBranch (evaluator : Evaluator) (isLast : Bool) (subject : Chars) :
    List (List Word × List Command) → Act Unit
  | [] => setStatus 0
  | (patterns, body) :: rest => do
    if ← anyMatches evaluator subject patterns then
      if body.isEmpty then setStatus 0 else evaluator.run isLast body
    else runBranch evaluator isLast subject rest

/-- Start the commands of a pipeline, each with a process of its own. Gives the processes. -/
def startStages (evaluator : Evaluator) (source : Option Nat) : List Command → Act (List Nat)
  | [] => return []
  | [last] => do
    let child ← fork evaluator do
      takeInput source
      evaluator.run true [last]
    closeInput source
    return [child]
  | stage :: rest => do
    let (next, target) ← lift Task.makeChannel
    let child ← fork evaluator do
      lift (Task.close next)
      takeInput source
      moveDescriptor target 1
      evaluator.run true [stage]
    closeInput source
    lift (Task.close target)
    return child :: (← startStages evaluator (some next) rest)
where
  /-- Read from a channel, if one is given. -/
  takeInput : Option Nat → Act Unit
    | some source => moveDescriptor source 0
    | none => return ()
  /-- Close a channel, if one is given. -/
  closeInput : Option Nat → Act Unit
    | some source => lift (Task.close source)
    | none => return ()

/-- Wait for processes and give the status of the last. -/
def awaitAll : List Nat → Act Nat
  | [] => return 0
  | [last] => awaitStatus last
  | process :: rest => do
    let _ ← awaitStatus process
    awaitAll rest

/-- Turn success into failure and the other way round. -/
def negate : Act Unit :=
  modify fun memory => { memory with status := if memory.status = 0 then 1 else 0 }

/-- Run a pipeline. -/
def runPipeline (evaluator : Evaluator) (negated : Bool) (stages : List Command) : Act Unit := do
  match stages with
  | [only] => asTest (evaluator.run false [only])
  | stages =>
    let processes ← startStages evaluator none stages
    setStatus (← awaitAll processes)
  if negated then negate else checkFailure

/-- Run commands in a process of their own, which nobody waits for. -/
def runBackground (evaluator : Evaluator) (body : Command) : Act Unit := do
  let child ← fork evaluator do
    match ← lift (Task.openFile "/dev/null" .input) with
    | .ok opened => moveDescriptor opened 0
    | .error _ => pure ()
    evaluator.run true [body]
  modify fun memory => { memory with lastBackground := some child, status := 0 }

/-- Run commands in a process of their own. -/
def runSubshell (evaluator : Evaluator) (isLast : Bool) (body : List Command) : Act Unit := do
  if isLast ∧ (← get).traps.isEmpty then evaluator.run true body
  else
    let child ← fork evaluator (evaluator.run true body)
    setStatus (← awaitStatus child)
  checkFailure

/-- Run a command. -/
def runCommand (evaluator : Evaluator) (isLast : Bool) : Command → Act Unit
  | .simple assignments words redirects => do
    runSimple evaluator isLast assignments words redirects
    checkFailure
  | .group body => evaluator.run isLast body
  | .subshell body => runSubshell evaluator isLast body
  | .conditional test thenBody elseBody => do
    asTest (evaluator.run false test)
    if (← get).status = 0 then evaluator.run isLast thenBody
    else if elseBody.isEmpty then setStatus 0
    else evaluator.run isLast elseBody
  | .loop isUntil test body => runLoop evaluator isUntil test body
  | .each name words body => do
    let values ←
      match words with
      | some words => fieldsOfAll evaluator words
      | none => pure (← get).arguments
    setStatus 0
    asLoop (runEach evaluator name body values)
  | .select subject branches => do
    runBranch evaluator isLast (← textOf evaluator subject) branches
  | .define name body => do
    modify fun memory =>
      { memory with
        functions := (name, body) :: memory.functions.filter (·.1 ≠ name)
        status := 0 }
  | .redirected body redirects => do
    let _ ← redirected evaluator redirects (evaluator.run false [body])
    checkFailure
  | .pipeline negated stages => runPipeline evaluator negated stages
  | .both first second => do
    asTest (evaluator.run false [first])
    if (← get).status = 0 then evaluator.run isLast [second]
  | .either first second => do
    asTest (evaluator.run false [first])
    if (← get).status ≠ 0 then evaluator.run isLast [second]
  | .background body => runBackground evaluator body

/-- Run commands one after the other. -/
def runCommands (evaluator : Evaluator) (isLast : Bool) : List Command → Act Unit
  | [] => return ()
  | [last] => do
    runCommand evaluator isLast last
    heedSignals evaluator
  | first :: rest => do
    runCommand evaluator false first
    heedSignals evaluator
    runCommands evaluator isLast rest

/-- Evaluate commands or words, nested no deeper than a bound. -/
def evaluate : Nat → Evaluator
  | 0, _ => abandon "nested too deep"
  | depth + 1, .commands isLast body => do
    runCommands (evaluate depth) isLast body
    return []
  | depth + 1, .pieces isQuoted pieces => expandPieces (evaluate depth) isQuoted pieces

end Conformance.Shell
