import Conformance.Text.Octets

/-!
# Scripts

What a shell script says, once it has been read: commands, and the words in them. A word is a list of
pieces, because quoting and expansions may change in the middle of it. Text is kept octet by octet.
-/

namespace Conformance.Shell

/-- When the other word of an expansion is taken. -/
inductive Choice where
  | default
  | assign
  | demand
  | alternative
deriving DecidableEq, Repr

/-- The end of a value at which an expansion cuts. -/
inductive Side where
  | front
  | back
deriving DecidableEq, Repr

/-- How a redirection opens its target. -/
inductive RedirectKind where
  | input
  | output
  | append
  | both
  | copy
  | here
deriving DecidableEq, Repr

mutual

/-- A piece of a word. -/
inductive Piece where
  | bare (text : Chars)
  | quoted (text : Chars)
  | double (pieces : List Piece)
  | value (name : Chars)
  | length (name : Chars)
  | choose (name : Chars) (choice : Choice) (orEmpty : Bool) (word : List Piece)
  | trim (name : Chars) (side : Side) (longest : Bool) (pattern : List Piece)
  | output (body : List Command)
  | arithmetic (pieces : List Piece)

/-- A redirection of a descriptor. -/
inductive Redirect where
  | mk (descriptor : Nat) (kind : RedirectKind) (target : List Piece)

/-- A command. -/
inductive Command where
  | simple (assignments : List (Chars × List Piece)) (words : List (List Piece))
      (redirects : List Redirect)
  | group (body : List Command)
  | subshell (body : List Command)
  | conditional (test thenBody elseBody : List Command)
  | loop (isUntil : Bool) (test body : List Command)
  | each (name : Chars) (words : Option (List (List Piece))) (body : List Command)
  | select (subject : List Piece) (branches : List (List (List Piece) × List Command))
  | define (name : Chars) (body : Command)
  | redirected (body : Command) (redirects : List Redirect)
  | pipeline (negated : Bool) (stages : List Command)
  | both (first second : Command)
  | either (first second : Command)
  | background (body : Command)

end

/-- A word. -/
abbrev Word := List Piece

end Conformance.Shell
