import Conformance.Directory.Layout
import Conformance.Stage

/-!
# What suites start from

The users that suites act as, and the files whose content they store and fetch: two texts and two files
of arbitrary bytes. One of these has an odd length, so that its record needs padding.
-/

namespace Conformance

/-- The users that suites act as; `impostor` is alice with a wrong password. -/
structure Players where
  alice : Credential
  impostor : Credential
  bob : Credential
  chris : Credential
  diana : Credential
deriving DecidableEq, Repr

/-- The players of a cast, or the first alias that is missing. -/
def Cast.players (cast : Cast) : Except Fault Players :=
  match cast.user "alice", cast.user "fakealice", cast.user "bob", cast.user "chris",
      cast.user "diana" with
  | .ok alice, .ok impostor, .ok bob, .ok chris, .ok diana =>
    .ok ⟨alice, impostor, bob, chris, diana⟩
  | .error e, _, _, _, _ => .error e
  | _, .error e, _, _, _ => .error e
  | _, _, .error e, _, _ => .error e
  | _, _, _, .error e, _ => .error e
  | _, _, _, _, .error e => .error e

/-- A file that a suite starts from. -/
structure Fixture where
  name : Path
  content : Bytes
deriving DecidableEq, Repr

namespace Fixture

/-- A line of the longer text. -/
def textLine (number : Nat) : String :=
  "line " ++ Text.decimal number ++ ": the quick brown fox\n"

/-- A short text without a line feed. -/
def shortText : Fixture := ⟨"kvconf_text1.txt", Text.encode "hello, world"⟩

/-- A text of forty lines. -/
def longText : Fixture :=
  ⟨"kvconf_text2.txt",
    (List.range 40).flatMap fun i => Text.encode (textLine (i + 1))⟩

/-- Every byte four times over. -/
def everyByte : Fixture := ⟨"kvconf_bin1.dat", (List.range 1024).map UInt8.ofNat⟩

/-- Scattered bytes, an odd number of them. -/
def oddLength : Fixture :=
  ⟨"kvconf_bin2.dat", (List.range 3001).map fun i => UInt8.ofNat ((i * 31 + 7) % 251)⟩

/-- All fixtures in the order in which they are made. -/
def all : List Fixture := [shortText, longText, everyByte, oddLength]

/-- The footprint of a user with the fixture as content. -/
def footprint (fixture : Fixture) (user : Credential) : Directory.Footprint :=
  ⟨user.name, UInt64.ofNat fixture.content.length⟩

end Fixture

/-- The footprint of a user without content. -/
def Credential.footprint (user : Credential) : Directory.Footprint := ⟨user.name, 0⟩

/-- An upload that is as large as a content may be. -/
def notTooBig : Path := "nottoobig.dat"

/-- An upload that is one byte larger than a content may be. -/
def tooBig : Path := "toobig.dat"

end Conformance
