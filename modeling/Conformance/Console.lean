import Conformance.Config
import Conformance.Outcome
import Conformance.Text.Lines

/-!
# The console

How a run looks while it goes on. Everything a run shows is one of the blocks of text below; the
verdict of an outcome stands at a fixed column, unless the text before it is longer. Nothing here
decides whether anything passed.
-/

namespace Conformance

/-- Where a run is shown: its layout, all that was printed, and whether printing fails. -/
structure Console where
  style : ReportStyle
  broken : Bool
  printed : String
deriving DecidableEq, Repr

namespace Console

/-- A console on which nothing was printed. -/
def fresh (style : ReportStyle) (broken : Bool) : Console := ⟨style, broken, ""⟩

/-- Print a block of text; a broken console shows nothing. -/
def print (console : Console) (block : ReportStyle → String) : Console :=
  if console.broken then console
  else { console with printed := console.printed ++ block console.style }

/-! ## Blocks of text -/

/-- A text padded with spaces to a number of characters. -/
def padded (width : Nat) (text : String) : String :=
  text ++ String.ofList (List.replicate (width - text.length) ' ')

/-- A text as a line. -/
def terminated (text : String) : String := text ++ "\n"

variable (style : ReportStyle)

/-- A line of dashes as wide as a passed outcome. -/
def rule : String :=
  terminated (String.ofList (List.replicate (style.indentation.toNat + 4) '-'))

/-- The title of a scenario between rules, after a blank line. -/
def heading (title : String) : String :=
  "\n" ++ rule style ++ terminated title ++ rule style

/-- A line of text. -/
def note (text : String) : String := terminated text

/-- A piece of housekeeping, which cannot fail. -/
def step (label : String) : String :=
  terminated (padded style.indentation.toNat label ++ "[OK]")

/-- A command line, where these are shown. -/
def command (line : CommandLine) : String :=
  if style.verbose then terminated line.display else ""

/-- Whether an outcome compares texts of several lines. -/
def isMultiline (outcome : Outcome) : Bool :=
  outcome.expected.contains '\n' || outcome.actual.contains '\n'

/-- What stands before the verdict of an outcome. -/
def outcomeLabel (outcome : Outcome) : String :=
  if isMultiline outcome then outcome.description
  else outcome.description ++ " Expect: '" ++ outcome.expected ++ "'"

/-- Both sides of a comparison, line by line. -/
def bothSides (outcome : Outcome) : String :=
  "[ERR] contents differ\nactual:\n" ++
    String.join ((Text.lines outcome.actual).map terminated) ++
  "expected:\n" ++
    String.join ((Text.lines outcome.expected).map terminated)

/-- The verdict of an outcome, with what was seen if it failed. -/
def outcomeVerdict (outcome : Outcome) : String :=
  if outcome.passed then "[OK]\n"
  else match outcome.kind with
    | .infrastructure => "[ERR] " ++ terminated outcome.actual
    | .protocol =>
      if isMultiline outcome then bothSides outcome
      else "[ERR] '" ++ outcome.actual ++ "'\n"

/-- An outcome. -/
def outcome (result : Outcome) : String :=
  padded style.indentation.toNat (outcomeLabel result) ++ outcomeVerdict result

end Console

end Conformance
