import Conformance.Directory.Layout
import Conformance.Text.Quoted
import Conformance.Text.Word

/-!
# Footprints on the command line

A user is given as a name, or as a name and the length of a content with a colon between them. The
first colon counts; a name cannot hold one.
-/

namespace Conformance.Directory

/-- Why an argument is no footprint. -/
inductive FootprintError where
  | badLength (text : String) (error : Text.WordError)
  | emptyName
deriving DecidableEq, Repr

/-- The message of the error. -/
def FootprintError.message : FootprintError → String
  | badLength text error =>
    "bad content length " ++ Text.quoted text ++ ": " ++ error.message
  | emptyName => "empty username"

/-- A text cut at its first colon, if it has one. -/
def cutColon? (text : String) : Option (String × String) :=
  match text.toList.span (· ≠ ':') with
  | (before, _ :: after) => some (String.ofList before, String.ofList after)
  | (_, []) => none

/-- A footprint unless its name is empty. -/
def Footprint.named (name : String) (length : Nat) : Except FootprintError Footprint :=
  if name = "" then .error .emptyName else .ok ⟨name, UInt64.ofNat length⟩

/-- Read a footprint. A bad length is reported before an empty name. -/
def Footprint.parse (text : String) : Except FootprintError Footprint :=
  match cutColon? text with
  | none => named text 0
  | some (name, length) =>
    match Text.word length with
    | .error e => .error (.badLength length e)
    | .ok n => named name n

end Conformance.Directory
