import Conformance.Shell.Expand
import Conformance.Shell.Options
import Conformance.Tool.Catalog

/-!
# Built-in commands

Commands that the shell carries out itself, because they change what it knows. A mistake in the use of
some of them ends the shell.
-/

namespace Conformance.Shell

open Act

/-- A built-in command: what it does with its arguments, and the status that it gives. -/
abbrev Builtin := List Chars → Act Nat

namespace Builtin

/-- A tool as a built-in command. -/
def ofTool (tool : Tool) : Builtin := fun args => lift (tool args)

/-- Complain and give a status. -/
def refuse (problem : String) (status : Nat) : Act Nat := do
  complain problem
  return status

/-- A judgement as a built-in command of a name, which complains as the shell does. -/
def judging (name : String) (judgement : Tool.Judgement) : Builtin := fun args => do
  let (status, problems) ← lift (judgement args)
  complainAll (problems.map fun problem => name ++ ": " ++ problem)
  return status
where
  /-- Complain about problems one after the other. -/
  complainAll : List String → Act Unit
    | [] => return ()
    | problem :: rest => do
      complain problem
      complainAll rest

/-- Do something with each argument. -/
def forEach (action : Chars → Act Unit) : List Chars → Act Nat
  | [] => return 0
  | arg :: rest => do
    action arg
    forEach action rest

/-- The name and value of a setting. -/
def cutSetting (arg : Chars) : Chars × Option Chars :=
  if arg.contains '=' then (arg.takeWhile (· ≠ '='), some ((arg.dropWhile (· ≠ '=')).drop 1))
  else (arg, none)

/-! ## Variables -/

/-- Mark variables, and give them values if some are given. -/
def marking (mark : Variable → Variable) : Builtin := fun args =>
  forEach (fun arg => do
    let (name, value) := cutSetting arg
    if !isName name then abandon (Text.widen arg ++ ": bad variable name")
    match value with
    | some value => assign name value
    | none => pure ()
    modify fun memory =>
      let old := (memory.bindings.lookup name).getD ⟨none, false, false⟩
      memory.setVariable name (some (mark old))) args

/-- A text between single quotes, as a shell would read it. -/
def quotedText (value : Chars) : Chars :=
  let parts := value.splitOn '\''
  '\'' :: List.intercalate "'\"'\"'".toList parts ++ ['\'']

/-- Print the variables that pass a test. -/
def printing (word : String) (test : Variable → Bool) : Act Nat := do
  let memory ← get
  let chosen := (memory.bindings.filter fun entry => test entry.2).mergeSort
    fun a b => !decide (b.1 < a.1)
  let line := fun (entry : Chars × Variable) =>
    let value := match entry.2.value with
      | some value => '=' :: quotedText value
      | none => []
    word.toList ++ entry.1 ++ value ++ ['\n']
  lift (Tool.put (chosen.map line).flatten)
  return 0

/-- Passes variables on to programs. -/
def passOn : Builtin := fun args =>
  match args with
  | [] | [['-', 'p']] => printing "export " Variable.exported
  | args => marking (fun v => { v with exported := true }) args

/-- Keeps variables from being changed. -/
def readOnly : Builtin := fun args =>
  match args with
  | [] | [['-', 'p']] => printing "readonly " Variable.readOnly
  | args => marking (fun v => { v with readOnly := true }) args

/-- Forgets variables or functions. -/
def unset : Builtin := fun args =>
  let forgetVariable := fun (name : Chars) => do
    let memory ← get
    match memory.bindings.lookup name with
    | some v =>
      if v.readOnly then abandon ("unset: " ++ Text.widen name ++ ": is read only")
      set (memory.setVariable name none)
    | none => pure ()
  let forgetFunction := fun (name : Chars) =>
    modify fun memory => { memory with functions := memory.functions.filter (·.1 ≠ name) }
  match args with
  | ['-', 'f'] :: names => forEach forgetFunction names
  | ['-', 'v'] :: names => forEach forgetVariable names
  | names => forEach forgetVariable names

/-- Gives variables values that last as long as the call of a function. -/
def hide : Builtin := fun args => do
  if (← get).calls = 0 then abandon "local: not in a function"
  forEach localOne args
where
  /-- Give one variable such a value. -/
  localOne (arg : Chars) : Act Unit := do
    let (name, value) := cutSetting arg
    modify fun memory =>
      { memory with hidden := (name, memory.bindings.lookup name) :: memory.hidden }
    match value with
    | some value => assign name value
    | none => pure ()

/-! ## Arguments and options -/

/-- Drops arguments from the front. -/
def shift : Builtin := fun args => do
  let memory ← get
  let count :=
    match args with
    | [] => some 1
    | arg :: _ => Text.digits? arg
  match count with
  | none => abandon ("shift: Illegal number: " ++ Text.widen (args.head?.getD []))
  | some n =>
    if memory.arguments.length < n then abandon "shift: can't shift that many"
    set { memory with arguments := memory.arguments.drop n, optionIndex := 1, optionOffset := 0 }
    return 0

/-- The options of the shell that have long names. -/
def longOptions : List (String × Char) :=
  [("errexit", 'e'), ("noglob", 'f'), ("nounset", 'u'), ("xtrace", 'x'), ("allexport", 'a'),
    ("noexec", 'n'), ("verbose", 'v'), ("noclobber", 'C'), ("monitor", 'm'), ("notify", 'b')]

/-- Set or drop an option. -/
def switch (on : Bool) (letter : Char) : Act Unit :=
  modify fun memory =>
    let others := memory.options.filter (· ≠ letter)
    { memory with options := if on then others ++ [letter] else others }

/-- The letters of the shell's options. -/
def optionLetters : Chars := "efnuvxabCEIVims".toList

/-- Set or drop options. -/
def switchAll (on : Bool) : Chars → Act Unit
  | [] => return ()
  | letter :: rest => do
    if !optionLetters.contains letter then
      abandon ("set: Illegal option " ++ (if on then "-" else "+") ++ String.ofList [letter])
    switch on letter
    switchAll on rest

/-- Set or drop an option by its long name. -/
def switchNamed (on : Bool) (name : Chars) : Act Unit := do
  match longOptions.lookup (String.ofList name) with
  | some letter => switch on letter
  | none =>
    abandon ("set: Illegal option " ++ (if on then "-" else "+") ++ "o " ++ Text.widen name)

/-- Replace the arguments. -/
def setArguments (arguments : List Chars) : Act Unit :=
  modify fun memory => { memory with arguments := arguments, optionIndex := 1, optionOffset := 0 }

/-- Sets options and arguments. -/
def configure : Builtin := fun args =>
  if args.isEmpty then printing "" fun v => v.value.isSome else go args
where
  /-- Take options from the front, then all arguments. -/
  go : List Chars → Act Nat
    | [] => return 0
    | ['-', '-'] :: rest => do setArguments rest; return 0
    | ['-'] :: rest => do
      switchAll false ['x', 'v']
      if !rest.isEmpty then setArguments rest
      return 0
    | ['-', 'o'] :: name :: rest => do
      switchNamed true name
      go rest
    | ['+', 'o'] :: name :: rest => do
      switchNamed false name
      go rest
    | ('-' :: letters) :: rest => do switchAll true letters; go rest
    | ('+' :: letters) :: rest => do switchAll false letters; go rest
    | rest => do setArguments rest; return 0

/-- Takes the next option from the arguments. -/
def getopts : Builtin := fun args => do
  let memory ← get
  match args with
  | options :: name :: given =>
    let arguments := if given.isEmpty then memory.arguments else given
    let isBeyond := arguments.length + 1 < memory.optionIndex
    let index := if isBeyond then 1 else max 1 memory.optionIndex
    let offset := if isBeyond then 0 else memory.optionOffset
    let (found, taken) := Options.take options arguments index offset
    match taken.problem with
    | some problem => lift (Task.complain problem)
    | none => pure ()
    match taken.argument with
    | some (some argument) => assign "OPTARG".toList argument
    | some none => modify fun memory => memory.setVariable "OPTARG".toList none
    | none => pure ()
    assign "OPTIND".toList (numeral (Int.ofNat taken.index))
    modify fun memory => { memory with optionOffset := taken.offset }
    assign name [taken.value]
    return Tool.statusOf found
  | _ => refuse "getopts: Usage: getopts optstring var [arg...]" 2

/-! ## Reading -/

/-- Read a line, character by character, behind what was read already, last first. Unless it is read
    raw, a backslash protects a character and joins lines. Tells whether the line was ended. -/
def readMarks (raw : Bool) : Nat → List Mark → Task (List Mark × Bool)
  | 0, sofar => return (sofar.reverse, false)
  | rounds + 1, sofar => do
    match ← next with
    | none => return (sofar.reverse, false)
    | some c =>
      if c = '\n' then return (sofar.reverse, true)
      else if c = '\x00' then readMarks raw rounds sofar
      else if c = '\\' ∧ !raw then
        match ← next with
        | none => return (sofar.reverse, false)
        | some d => readMarks raw rounds (if d = '\n' then sofar else ⟨d, true⟩ :: sofar)
      else readMarks raw rounds (⟨c, false⟩ :: sofar)
where
  /-- The next character from descriptor 0. -/
  next : Task (Option Char) := do
    match ← Task.read 0 1 with
    | .ok (b :: _) => return some (Char.ofNat b.toNat)
    | _ => return none

/-- Give variables values one by one. -/
def assignEach : List (Chars × Chars) → Act Unit
  | [] => return ()
  | (name, value) :: rest => do
    assign name value
    assignEach rest

/-- Reads a line into variables. -/
def read : Builtin := fun args => do
  match Tool.arguments? "r" "p" args with
  | .error option => refuse ("read: Illegal option " ++ Text.widen option) 2
  | .ok found =>
    let names := found.operands
    if names.isEmpty then return ← refuse "read: arg count" 2
    if !names.all isName then return ← refuse "read: bad variable name" 2
    let (marks, ended) ← lift (readMarks (found.has 'r') lifetime [])
    let values := distribute (← get).separators names.length marks
    assignEach (names.zip values)
    return Tool.statusOf ended

/-! ## Surroundings -/

/-- Enters another directory. -/
def cd : Builtin := fun args => do
  let memory ← get
  let args := args.filter fun arg => arg ≠ ['-', 'P'] ∧ arg ≠ ['-', 'L'] ∧ arg ≠ ['-', '-']
  let target :=
    match args with
    | [] => memory.value? "HOME".toList
    | ['-'] :: _ => memory.value? "OLDPWD".toList
    | target :: _ => some target
  match target with
  | none => return 0
  | some target =>
    let old ← lift Task.whereAmI
    match ← lift (Task.change (.enter (Text.widen (if target.isEmpty then ['.'] else target)))) with
    | .error _ => refuse ("cd: can't cd to " ++ Text.widen target) 2
    | .ok () =>
      let new ← lift Task.whereAmI
      assign "OLDPWD".toList (Text.narrow old)
      assign "PWD".toList (Text.narrow new)
      if args.head? = some ['-'] then lift (Tool.putText (new ++ "\n"))
      return 0

/-- Wait for all processes that were started. -/
def waitAll : Nat → Task Unit
  | 0 => return ()
  | rounds + 1 => do
    match ← Task.await none with
    | some _ => waitAll rounds
    | none => return ()

/-- Waits for processes. -/
def wait : Builtin := fun args => do
  match args with
  | [] => lift (waitAll lifetime); return 0
  | args => waitEach 0 args
where
  /-- Wait for processes one after the other; the status is that of the last. -/
  waitEach (status : Nat) : List Chars → Act Nat
    | [] => return status
    | arg :: rest => do
      match Text.digits? arg with
      | some process => waitEach (← awaitStatus process) rest
      | none => waitEach 127 rest

/-- Prints or sets which permissions new files lack. -/
def umask : Builtin := fun args => do
  if args.isEmpty then lift (Tool.putText "0022\n")
  return 0

/-- Prints the processor time that was used. -/
def times : Builtin := fun _ => do
  lift (Tool.putText "0m0.000000s 0m0.000000s\n0m0.000000s 0m0.000000s\n")
  return 0

/-! ## Jumps -/

/-- The count that an argument gives, one if there is none. -/
def countOf (args : List Chars) : Option Nat :=
  match args with
  | [] => some 1
  | arg :: _ => (Text.digits? arg).filter (0 < ·)

/-- Leave loops or go on with them. Outside loops nothing happens. -/
def jump (name : String) (make : Nat → Jump) : Builtin := fun args => do
  match countOf args with
  | none => abandon (name ++ ": Illegal number: " ++ Text.widen (args.head?.getD []))
  | some n =>
    let memory ← get
    if memory.loops = 0 then return 0
    setStatus 0
    throw (make (min n memory.loops))

/-- Leave a function, a script or the shell, with the status that an argument gives. -/
def ending (name : String) (how : Jump) : Builtin := fun args => do
  match args with
  | [] => pure ()
  | arg :: _ =>
    match Text.digits? arg with
    | some n => setStatus n
    | none => abandon (name ++ ": Illegal number: " ++ Text.widen arg)
  throw how

/-- Print what is done when signals come. -/
def printTraps : List (Nat × Chars) → Act Nat
  | [] => return 0
  | (signal, script) :: rest => do
    let name := ((Tool.signals.find? (·.2 = signal)).map (·.1)).getD ""
    lift (Tool.put ("trap -- ".toList ++ quotedText script ++ ' ' :: name.toList ++ ['\n']))
    printTraps rest

/-- Set what is done when signals come. -/
def setTraps (script : Option Chars) : List Chars → Act Nat
  | [] => return 0
  | name :: rest => do
    match Tool.signal? name with
    | some signal =>
      setTrap signal script
      setTraps script rest
    | none =>
      complain ("trap: " ++ Text.widen name ++ ": bad trap")
      return 1

/-- Sets what is done when signals come or the shell ends. -/
def trap : Builtin := fun args => do
  let args := if args.head? = some ['-', '-'] then args.tail else args
  match args with
  | [] => printTraps (← get).traps
  | ['-'] :: signals => setTraps none signals
  | [only] => setTraps none [only]
  | script :: signals =>
    if (Text.digits? script).isSome then setTraps none args else setTraps (some script) signals

/-- The commands whose misuse ends the shell. -/
def special? (name : String) : Option Builtin :=
  match name with
  | ":" => some fun _ => return 0
  | "break" => some (jump "break" .leave)
  | "continue" => some (jump "continue" .goOn)
  | "exit" => some (ending "exit" .exit)
  | "return" => some (ending "return" .back)
  | "export" => some passOn
  | "local" => some hide
  | "readonly" => some readOnly
  | "set" => some configure
  | "shift" => some shift
  | "times" => some times
  | "trap" => some trap
  | "unset" => some unset
  | _ => none

/-- The other commands that need nothing but what the shell knows. -/
def regular? (name : String) : Option Builtin :=
  match name with
  | "[" => some (judging "[" Tool.judgeBracket)
  | "cd" | "chdir" => some cd
  | "echo" => some (ofTool Tool.echo)
  | "false" => some (ofTool Tool.fail)
  | "getopts" => some getopts
  | "hash" => some fun _ => return 0
  | "kill" => some (judging "kill" Tool.judgeKill)
  | "printf" => some (judging "printf" Tool.judgePrintf)
  | "pwd" => some (ofTool Tool.pwd)
  | "read" => some read
  | "test" => some (judging "test" Tool.judgeCondition)
  | "true" => some (ofTool Tool.succeed)
  | "umask" => some umask
  | "ulimit" => some fun _ => return 0
  | "wait" => some wait
  | _ => none

end Builtin

end Conformance.Shell
