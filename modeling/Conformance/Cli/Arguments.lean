import Conformance.Cli.Footprint
import Conformance.Suite.Basic

/-!
# The command line

Arguments are taken one by one. An option gets its value as the next argument or after an equals sign;
flags of one letter may share a dash; two dashes alone make everything after them a plain argument. The
first argument that does not fit ends the reading, unless a request for help came before it.
-/

namespace Conformance.Cli

/-! ## Options -/

/-- Why reading arguments ends early: a request for help or for the version, or a mistake. -/
inductive Stop where
  | help
  | version
  | usage
deriving DecidableEq, Repr

/-- What a command understands: flags with their letter if they have one, options with a value, and
    which plain arguments it takes. -/
structure Grammar where
  flags : List (String × Option Char)
  options : List String
  accepts : String → Bool

/-- What has been read: flags, options with their values, plain arguments, the option whose value comes
    next, and whether everything from here on is a plain argument. -/
structure Reading where
  flags : List String
  values : List (String × String)
  plain : List String
  awaiting : Option String
  literal : Bool
deriving DecidableEq, Repr

namespace Reading

/-- Before the first argument. -/
def start : Reading := ⟨[], [], [], none, false⟩

/-- Take a flag, which may be given once. -/
def addFlag (reading : Reading) (name : String) : Except Stop Reading :=
  if name ∈ reading.flags then .error .usage
  else .ok { reading with flags := name :: reading.flags }

/-- Take an option with its value, which may be given once and not be empty. -/
def addValue (reading : Reading) (name value : String) : Except Stop Reading :=
  if value = "" ∨ (reading.values.lookup name).isSome then .error .usage
  else .ok { reading with values := (name, value) :: reading.values, awaiting := none }

/-- Take a plain argument. -/
def addPlain (grammar : Grammar) (reading : Reading) (text : String) : Except Stop Reading :=
  if grammar.accepts text then .ok { reading with plain := reading.plain ++ [text] }
  else .error .usage

/-- Take flags that share a dash. -/
def addLetters (grammar : Grammar) (reading : Reading) : List Char → Except Stop Reading
  | [] => .ok reading
  | letter :: rest =>
    if letter = 'h' then .error .help
    else
      match grammar.flags.find? (·.2 = some letter) with
      | none => .error .usage
      | some (name, _) =>
        match reading.addFlag name with
        | .error stop => .error stop
        | .ok reading => addLetters grammar reading rest

/-- Take an option or flag by its long name, with what stands after the equals sign. -/
def addLong (grammar : Grammar) (reading : Reading) (name : String) :
    Option String → Except Stop Reading
  | some value => if name ∈ grammar.options then reading.addValue name value else .error .usage
  | none =>
    if name = "help" then .error .help
    else if name ∈ grammar.options then
      if (reading.values.lookup name).isSome then .error .usage
      else .ok { reading with awaiting := some name }
    else if (grammar.flags.lookup name).isSome then reading.addFlag name
    else .error .usage

end Reading

/-- An argument by its dashes. -/
inductive Argument where
  | escape
  | long (name : String) (value : Option String)
  | letters (cs : List Char)
  | plain (text : String)
deriving DecidableEq, Repr

/-- A long option cut at its first equals sign, if it has one. -/
def Argument.cutEquals (cs : List Char) : Argument :=
  match cs.span (· ≠ '=') with
  | (name, _ :: value) => .long (String.ofList name) (some (String.ofList value))
  | (name, []) => .long (String.ofList name) none

/-- Tell an argument by its dashes. A single dash is a plain argument. -/
def Argument.classify (text : String) : Argument :=
  match text.toList with
  | ['-', '-'] => escape
  | '-' :: '-' :: rest => cutEquals rest
  | ['-'] => plain text
  | '-' :: rest => letters rest
  | _ => plain text

/-- Take one argument of a command. -/
def Reading.step (grammar : Grammar) (reading : Reading) (text : String) : Except Stop Reading :=
  if reading.literal then reading.addPlain grammar text
  else match reading.awaiting, Argument.classify text with
    | some name, .plain value => reading.addValue name value
    | some _, _ => .error .usage
    | none, .escape => .ok { reading with literal := true }
    | none, .long name value => reading.addLong grammar name value
    | none, .letters cs => reading.addLetters grammar cs
    | none, .plain text => reading.addPlain grammar text

/-- Read the arguments of a command; an option that still awaits its value is a mistake. -/
def Grammar.read (grammar : Grammar) (args : List String) : Except Stop Reading :=
  match args.foldlM (Reading.step grammar) Reading.start with
  | .error stop => .error stop
  | .ok reading => if reading.awaiting.isSome then .error .usage else .ok reading

/-! ## Commands -/

/-- Where a command takes its configuration from. -/
structure ConfigArgs where
  configPath : Option Path
  workDir : Option Path
deriving DecidableEq, Repr

/-- The arguments of a run; no suites means all of them. -/
structure RunArgs where
  suites : Option (List Suite)
  config : ConfigArgs
  serverExe : Option Path
  clientExe : Option Path
  verbose : Bool
  json : Bool
  jsonOut : Option Path
deriving DecidableEq, Repr

/-- What the program is asked to do. -/
inductive Command where
  | run (args : RunArgs)
  | list
  | expectSize (users : List Directory.Footprint)
  | clean (args : ConfigArgs)
deriving DecidableEq, Repr

/-- A command, and whether diagnostics are wanted as JSON. -/
structure Invocation where
  logJson : Bool
  command : Command
deriving DecidableEq, Repr

/-- The flag that every command takes. -/
def logFlag : String × Option Char := ("log-json", none)

/-- The options of commands that need a configuration. -/
def configOptions : List String := ["config", "work-dir"]

/-- The grammar of a run. -/
def runGrammar : Grammar where
  flags := [logFlag, ("verbose", some 'v'), ("json", none)]
  options := configOptions ++ ["server-exe", "client-exe", "json-out"]
  accepts text := (Suite.ofName? text).isSome

/-- The grammar of the list of suites. -/
def listGrammar : Grammar := ⟨[logFlag], [], fun _ => false⟩

/-- The grammar of a size prediction. -/
def expectSizeGrammar : Grammar where
  flags := [logFlag]
  options := []
  accepts text := (Directory.Footprint.parse text).toOption.isSome

/-- The grammar of the removal of generated files. -/
def cleanGrammar : Grammar := ⟨[logFlag], configOptions, fun _ => false⟩

/-- The configuration's arguments among those read. -/
def Reading.configArgs (reading : Reading) : ConfigArgs :=
  ⟨reading.values.lookup "config", reading.values.lookup "work-dir"⟩

/-- The arguments of a run among those read. -/
def Reading.runArgs (reading : Reading) : RunArgs where
  suites := if reading.plain.isEmpty then none else some (reading.plain.filterMap Suite.ofName?)
  config := reading.configArgs
  serverExe := reading.values.lookup "server-exe"
  clientExe := reading.values.lookup "client-exe"
  verbose := "verbose" ∈ reading.flags
  json := "json" ∈ reading.flags
  jsonOut := reading.values.lookup "json-out"

/-- The users among the arguments read, of which there has to be one. -/
def Reading.footprints (reading : Reading) : Except Stop (List Directory.Footprint) :=
  if reading.plain.isEmpty then .error .usage
  else .ok (reading.plain.filterMap fun text => (Directory.Footprint.parse text).toOption)

/-- Read the arguments behind a command's name. -/
def readCommand (name : String) (args : List String) : Except Stop (Reading × Command) :=
  match name with
  | "run" => do let reading ← runGrammar.read args; .ok (reading, .run reading.runArgs)
  | "list" => do let reading ← listGrammar.read args; .ok (reading, .list)
  | "expect-size" => do
    let reading ← expectSizeGrammar.read args
    .ok (reading, .expectSize (← reading.footprints))
  | "clean" => do let reading ← cleanGrammar.read args; .ok (reading, .clean reading.configArgs)
  | _ => .error .usage

/-- The names that help can be asked for. -/
def helpTopics : List String := ["run", "list", "expect-size", "clean", "help"]

/-- Read a request for help: of the program, or of one command. -/
def readHelp : List String → Stop
  | [] => .help
  | [topic] => if topic ∈ helpTopics then .help else .usage
  | _ => .usage

/-- Take the letters that share a dash before the command's name. -/
def programLetters : List Char → Stop
  | 'h' :: _ => .help
  | 'V' :: _ => .version
  | _ => .usage

/-- Read the arguments of the program. -/
def parseFrom (logJson : Bool) : List String → Except Stop Invocation
  | [] => .error .usage
  | text :: rest =>
    match Argument.classify text with
    | .escape => .error .usage
    | .letters cs => .error (programLetters cs)
    | .long "help" none => .error .help
    | .long "version" none => .error .version
    | .long "log-json" none => if logJson then .error .usage else parseFrom true rest
    | .long _ _ => .error .usage
    | .plain "help" => .error (readHelp rest)
    | .plain name =>
      match readCommand name rest with
      | .error stop => .error stop
      | .ok (reading, command) => .ok ⟨logJson || "log-json" ∈ reading.flags, command⟩

/-- Read the arguments of the program. -/
def parse (args : List String) : Except Stop Invocation := parseFrom false args

end Conformance.Cli
