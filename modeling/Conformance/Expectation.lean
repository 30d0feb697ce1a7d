import Conformance.Launch
import Conformance.LineReader
import Conformance.Outcome

/-!
# Expected lines

As many lines are read as are expected, and each line read gives one outcome. Where the order is open
the lines are matched as a multiset: a line takes an expected token equal to it out of those that are
left, and every line that finds none is compared with one of the tokens that nobody took.

A connection to the server shows as a pair of lines on its output. These pairs are not what a scenario
checks, so lines that are out of place there are reported as failures of the environment.
-/

namespace Conformance

/-- Whether the order of lines or entries counts. -/
inductive ListOrder where
  | sorted
  | asEmitted
deriving DecidableEq, Repr

namespace Expectation

/-- Compare one line with one token. -/
def line (description expected : String) (seen : ReadLine) : Outcome :=
  .compare description expected seen.actual

/-- The description of one of several lines; a single line needs no number. -/
def label (description : String) (count index : Nat) : String :=
  if count = 1 then description
  else description ++ " [line " ++ Text.decimal (index + 1) ++ "]"

/-- Which lines find a token equal to them, taking it, and the tokens that are left. -/
def claim (tokens : List String) : List String → List Bool × List String
  | [] => ([], tokens)
  | text :: rest =>
    if text ∈ tokens then
      let (claims, left) := claim (tokens.erase text) rest
      (true :: claims, left)
    else
      let (claims, left) := claim tokens rest
      (false :: claims, left)

/-- The token that each line is compared with: a line that took a token with itself, any other with the
    next token that nobody took. -/
def opposite : List String → List (String × Bool) → List String
  | _, [] => []
  | tokens, (text, true) :: rest => text :: opposite tokens rest
  | token :: tokens, (_, false) :: rest => token :: opposite tokens rest
  | [], (_, false) :: rest => "" :: opposite [] rest

/-- The tokens that lines are compared with, line by line. -/
def tokens (expected actual : List String) : ListOrder → List String
  | .asEmitted => expected
  | .sorted =>
    let (claims, left) := claim expected actual
    opposite left (actual.zip claims)

/-- Compare lines with as many tokens. -/
def lines (description : String) (expected : List String) (order : ListOrder)
    (seen : List ReadLine) : List Outcome :=
  let actual := seen.map ReadLine.actual
  (tokens expected actual order |>.zip actual).mapIdx fun index pair =>
    .compare (label description expected.length index) pair.1 pair.2

/-! ## Connections -/

/-- What a line that is out of place is shown as. -/
def shownMisplaced : ReadLine → String
  | .line text => "Unexpected server output: " ++ text
  | .eof => "Unexpected server output: <end of stream>"
  | .timedOut => "Unexpected server output: <timed out>"

/-- The outcome for a line that is out of place in a connection. -/
def misplaced (expected : String) (seen : ReadLine) : Outcome :=
  .infrastructure "Server handshake" expected (shownMisplaced seen)

/-- How a line that announces a connection may read. -/
def connectedPattern : String := connectedPrefix ++ "|".intercalate connectedAddresses

/-- The outcomes for the two lines of a connection: one for each line that is out of place. -/
def handshake (waiting connected : ReadLine) : List Outcome :=
  (if waiting.actual = waitingLine then [] else [misplaced waitingLine waiting]) ++
  (if isConnectedLine connected.actual then [] else [misplaced connectedPattern connected])

/-- Compare a line with the one that the server prints at its end. -/
def termination (description : String) (seen : ReadLine) : Outcome :=
  line description terminatedLine seen

end Expectation

/-! ## Reading what is expected -/

namespace LineReader

/-- Compare the next line with a token. -/
def expectLine (reader : LineReader) (description expected : String) : Outcome × LineReader :=
  let (seen, reader) := reader.read
  (Expectation.line description expected seen, reader)

/-- Compare the next lines with tokens, reading as many as there are tokens. -/
def expectLines (reader : LineReader) (description : String) (expected : List String)
    (order : ListOrder) : List Outcome × LineReader :=
  let (seen, reader) := reader.readMany expected.length
  (Expectation.lines description expected order seen, reader)

/-- Read the two lines of a connection. -/
def expectHandshake (reader : LineReader) : List Outcome × LineReader :=
  let (waiting, reader) := reader.read
  let (connected, reader) := reader.read
  (Expectation.handshake waiting connected, reader)

/-- Compare the next line with the one that the server prints at its end. -/
def expectTermination (reader : LineReader) (description : String) : Outcome × LineReader :=
  reader.expectLine description terminatedLine

end LineReader

end Conformance
