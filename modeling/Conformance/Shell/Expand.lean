import Conformance.Shell.Sequence

/-!
# Expansion

What the pieces of a word stand for: values of parameters, output of commands, results of arithmetic.
The result is a list of glyphs, of which fields, patterns or plain text are made.
-/

namespace Conformance.Shell

open Act

/-- The glyphs of a value. -/
def valueGlyphs (isQuoted : Bool) (value : Chars) : List Glyph :=
  value.map (if isQuoted then Glyph.quoted else Glyph.soft)

/-- The glyphs of the arguments, which stay apart. -/
def argumentGlyphs (isQuoted : Bool) (arguments : List Chars) : List Glyph :=
  let each := arguments.map fun argument =>
    (if isQuoted then [Glyph.presence] else []) ++ valueGlyphs isQuoted argument
  List.intercalate [Glyph.border] each

/-- The glyphs of a parameter, if it has a value. -/
def parameterGlyphs? (memory : Memory) (isQuoted : Bool) (name : Chars) : Option (List Glyph) :=
  match memory.parameter? name with
  | none => none
  | some value =>
    if name = ['@'] ∨ (name = ['*'] ∧ !isQuoted) then
      some (argumentGlyphs isQuoted memory.arguments)
    else some (valueGlyphs isQuoted value)

/-- The glyphs of a parameter; none if it has no value, unless that is not allowed. -/
def parameterGlyphs (isQuoted : Bool) (name : Chars) : Act (List Glyph) := do
  let memory ← get
  match parameterGlyphs? memory isQuoted name with
  | some glyphs => return glyphs
  | none =>
    if memory.hasOption 'u' ∧ name ≠ ['@'] ∧ name ≠ ['*'] then
      abandon (Text.widen name ++ ": parameter not set")
    return []

/-- Glyphs that were written in the other word of an expansion: outside quotes they are split too. -/
def softened (isQuoted : Bool) (glyphs : List Glyph) : List Glyph :=
  if isQuoted then glyphs
  else
    glyphs.map fun glyph =>
      match glyph with
      | .bare c => .soft c
      | glyph => glyph

/-- An expansion that takes another word in some cases. -/
def choose (evaluator : Evaluator) (isQuoted : Bool) (name : Chars) (choice : Choice) (orEmpty : Bool)
    (word : Word) : Act (List Glyph) := do
  let memory ← get
  let isMissing :=
    match memory.parameter? name with
    | none => true
    | some value => orEmpty && value.isEmpty
  match choice, isMissing with
  | .alternative, true => return []
  | .alternative, false => return softened isQuoted (← evaluator.expand isQuoted word)
  | _, false => parameterGlyphs isQuoted name
  | .default, true => return softened isQuoted (← evaluator.expand isQuoted word)
  | .assign, true =>
    if !isName name then abandon (Text.widen name ++ ": bad variable name")
    let value := text (joined (← evaluator.expand isQuoted word))
    assign name value
    return valueGlyphs isQuoted value
  | .demand, true =>
    let reason := text (joined (← evaluator.expand isQuoted word))
    let reason := if reason.isEmpty then "parameter not set" else Text.widen reason
    abandon (Text.widen name ++ ": " ++ reason)

/-- A text without the line feeds at its end. -/
def withoutFeeds (output : Chars) : Chars := (output.reverse.dropWhile (· = '\n')).reverse

/-- Make a descriptor refer to what another one refers to, which is closed. -/
def moveDescriptor (source target : Nat) : Act Unit := do
  if source ≠ target then
    let _ ← lift (Task.change (.duplicate source target))
    lift (Task.close source)

/-- The output of commands, run by a process of their own. -/
def outputOf (evaluator : Evaluator) (body : List Command) : Act Chars := do
  if body.isEmpty then return []
  let (source, target) ← lift Task.makeChannel
  let child ← fork evaluator do
    lift (Task.close source)
    moveDescriptor target 1
    evaluator.run true body
  lift (Task.close target)
  let output ← lift (Task.readAll source)
  lift (Task.close source)
  let status ← awaitStatus child
  modify fun memory => { memory with takenStatus := status }
  let bytes := (output.toOption.getD []).filter (· ≠ 0)
  return withoutFeeds (Text.octets bytes)

/-- The value of an arithmetic expression; the variables that it assigns are changed. -/
def calculate (expression : Chars) : Act Chars := do
  let memory ← get
  let outcome :=
    match Expression.read? expression with
    | none => Except.error ArithmeticError.malformed
    | some found =>
      Expression.evaluate (fun name => (memory.value? name).getD []) [] found
  match outcome with
  | .error .malformed =>
    abandon ("arithmetic expression: expecting primary: \"" ++ Text.widen expression ++ "\"")
  | .error .divisionByZero =>
    abandon ("arithmetic expression: division by zero: \"" ++ Text.widen expression ++ "\"")
  | .ok (value, changes) =>
    assignAll changes.reverse
    return numeral value
where
  /-- Give variables their new values. -/
  assignAll : List (Chars × Int) → Act Unit
    | [] => return ()
    | (name, value) :: rest => do
      assign name (numeral value)
      assignAll rest

/-- Whether pieces hold nothing but all arguments, of which there are none. -/
def isVanishing (memory : Memory) (pieces : Word) : Bool :=
  memory.arguments.isEmpty &&
    match pieces with
    | [.value ['@']] => true
    | _ => false

/-- Expand one piece. -/
def expandPiece (evaluator : Evaluator) (isQuoted : Bool) (piece : Piece) : Act (List Glyph) := do
  match piece with
  | .bare text => return text.map Glyph.bare
  | .quoted text => return Glyph.presence :: text.map Glyph.quoted
  | .double pieces =>
    let inner ← evaluator.expand true pieces
    if isVanishing (← get) pieces then return inner else return Glyph.presence :: inner
  | .value name => parameterGlyphs isQuoted name
  | .length name =>
    let memory ← get
    match memory.parameter? name with
    | some value => return valueGlyphs isQuoted (numeral (Int.ofNat value.length))
    | none =>
      if memory.hasOption 'u' then abandon (Text.widen name ++ ": parameter not set")
      return valueGlyphs isQuoted ['0']
  | .choose name choice orEmpty word => choose evaluator isQuoted name choice orEmpty word
  | .trim name side longest word =>
    let marks := joined (← evaluator.expand false word)
    let memory ← get
    match memory.parameter? name with
    | some value => return valueGlyphs isQuoted (trimmed side longest marks value)
    | none => parameterGlyphs isQuoted name
  | .output body => return valueGlyphs isQuoted (← outputOf evaluator body)
  | .arithmetic pieces =>
    let expression := text (joined (← evaluator.expand true pieces))
    return valueGlyphs isQuoted (← calculate expression)

/-- Expand pieces one after the other. -/
def expandPieces (evaluator : Evaluator) (isQuoted : Bool) : Word → Act (List Glyph)
  | [] => return []
  | piece :: rest => do
    let first ← expandPiece evaluator isQuoted piece
    return first ++ (← expandPieces evaluator isQuoted rest)

/-- A word with the home directory in place of a tilde in front. -/
def withHome (memory : Memory) (word : Word) : Word :=
  match word with
  | .bare ('~' :: rest) :: more =>
    if rest.head?.all (· = '/') ∧ (more.isEmpty ∨ !rest.isEmpty) then
      match memory.value? "HOME".toList with
      | some home => .quoted home :: .bare rest :: more
      | none => word
    else word
  | word => word

/-- The marks of a word that is not split into fields. -/
def marksOf (evaluator : Evaluator) (word : Word) : Act (List Mark) := do
  return joined (← expandPieces evaluator false (withHome (← get) word))

/-- The text of a word that is not split into fields. -/
def textOf (evaluator : Evaluator) (word : Word) : Act Chars := do
  return text (← marksOf evaluator word)

/-! ## Paths -/

/-- Marks cut at separators of paths. -/
def pathParts (marks : List Mark) : List (List Mark) := marks.splitOnP fun mark => mark.char = '/'

/-- Whether marks have anything active in them, as a pattern. -/
def isActive (marks : List Mark) : Bool := (pattern marks).any Matcher.isActive

/-- The names in a directory that a part of a path stands for, in order. Names that begin with a dot
    have to be named with it. -/
def matchingNames (directory : Chars) (part : List Mark) : Task (List Chars) := do
  let place := if directory.isEmpty then "." else Text.widen directory
  match ← Task.names place with
  | .error _ => return []
  | .ok names =>
    let names := ['.'] :: ['.', '.'] :: names.map Text.narrow
    let isVisible := fun (name : Chars) =>
      name.head? ≠ some '.' || (part.head?.map Mark.char) = some '.'
    return (names.filter fun name => isVisible name && isMatch part name).mergeSort
      fun a b => !decide (b < a)

/-- The paths that parts stand for, behind what was found of the path so far. -/
def pathsFrom : List (List Mark) → Chars → Task (List Chars)
  | [], _ => return []
  | [last], front =>
    if isActive last then do
      return (← matchingNames front last).map fun name => front ++ name
    else do
      let path := front ++ text last
      return if (← Task.inspect (Text.widen path)).toBool then [path] else []
  | part :: rest, front =>
    if isActive part then do
      let names ← matchingNames front part
      onward (pathsFrom rest) (names.map fun name => front ++ name ++ ['/'])
    else pathsFrom rest (front ++ text part ++ ['/'])
where
  /-- The paths behind each of some beginnings. -/
  onward (paths : Chars → Task (List Chars)) : List Chars → Task (List Chars)
    | [] => return []
    | front :: rest => do
      let found ← paths front
      return found ++ (← onward paths rest)

/-- What a field stands for: the paths that match it, or itself. -/
def pathsOf (marks : List Mark) : Task (List Chars) := do
  if !isActive marks then return [text marks]
  let found ← pathsFrom (pathParts marks) []
  return if found.isEmpty then [text marks] else found

/-- What fields stand for. -/
def pathsOfAll : List (List Mark) → Task (List Chars)
  | [] => return []
  | marks :: rest => do
    let found ← pathsOf marks
    return found ++ (← pathsOfAll rest)

/-- The fields of a word. -/
def fieldsOf (evaluator : Evaluator) (word : Word) : Act (List Chars) := do
  let glyphs ← expandPieces evaluator false (withHome (← get) word)
  let memory ← get
  let fields := split memory.separators glyphs
  if memory.hasOption 'f' then return fields.map text else lift (pathsOfAll fields)

/-- The fields of words, one word after the other. -/
def fieldsOfAll (evaluator : Evaluator) : List Word → Act (List Chars)
  | [] => return []
  | word :: rest => do
    let first ← fieldsOf evaluator word
    return first ++ (← fieldsOfAll evaluator rest)

end Conformance.Shell
