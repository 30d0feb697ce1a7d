import Conformance.Text.Lines

/-!
# Reading lines as they arrive

The output of another program arrives in pieces, may fail for a moment, and ends when the program
closes it. A line reader turns what has arrived so far into lines. It keeps an unfinished line for
the next time, so it does not matter where the pieces were cut, and it can look one line ahead.
-/

namespace Conformance

/-- What arrives: some bytes, or a failure to read. -/
inductive Arrival where
  | bytes (chunk : Bytes)
  | failure
deriving DecidableEq, Repr

/-- What a read gives: a line without its terminator, the end of the output, or nothing because no
    complete line has arrived. -/
inductive ReadLine where
  | line (text : String)
  | eof
  | timedOut
deriving DecidableEq, Repr

/-- The text that a read gives for a comparison. -/
def ReadLine.actual : ReadLine → String
  | line text => text
  | eof | timedOut => ""

/-- What has arrived and was not read yet, whether more can come, the beginning of a line whose end
    has not arrived, and a line that was looked at and not taken. -/
structure LineReader where
  arrived : List Arrival
  closed : Bool
  unfinished : Bytes
  peeked : Option ReadLine
deriving DecidableEq, Repr

namespace LineReader

/-- Before anything has arrived. -/
def fresh : LineReader := ⟨[], false, [], none⟩

/-- Something more has arrived. -/
def arrive (reader : LineReader) (arrival : Arrival) : LineReader :=
  { reader with arrived := reader.arrived ++ [arrival] }

/-- Nothing more will come. -/
def close (reader : LineReader) : LineReader := { reader with closed := true }

/-- A chunk cut behind its first line feed, if it has one. -/
def cutLine? (chunk : Bytes) : Option (Bytes × Bytes) :=
  match chunk.span (· ≠ 10) with
  | (before, feed :: rest) => some (before ++ [feed], rest)
  | (_, []) => none

/-- The text of a line from its bytes. -/
def lineText (bytes : Bytes) : String := Text.trimTerminator (Text.decode bytes)

/-- The next line of what has arrived, after the beginning of a line. A failure ends the line that was
    begun, which is lost; so does the end of the output, which gives it as a line. -/
def scan (closed : Bool) (unfinished : Bytes) : List Arrival → ReadLine × LineReader
  | [] =>
    if !closed then (.timedOut, ⟨[], closed, unfinished, none⟩)
    else if unfinished = [] then (.eof, ⟨[], closed, [], none⟩)
    else (.line (lineText unfinished), ⟨[], closed, [], none⟩)
  | .failure :: rest => (.eof, ⟨rest, closed, [], none⟩)
  | .bytes chunk :: rest =>
    match cutLine? chunk with
    | some (line, left) =>
      let rest := if left = [] then rest else .bytes left :: rest
      (.line (lineText (unfinished ++ line)), ⟨rest, closed, [], none⟩)
    | none => scan closed (unfinished ++ chunk) rest

/-- Take the next line. -/
def read (reader : LineReader) : ReadLine × LineReader :=
  match reader.peeked with
  | some line => (line, { reader with peeked := none })
  | none => scan reader.closed reader.unfinished reader.arrived

/-- Look at the next line. A line that has not arrived yet is not kept as missing. -/
def peek (reader : LineReader) : ReadLine × LineReader :=
  match reader.peeked with
  | some line => (line, reader)
  | none =>
    match scan reader.closed reader.unfinished reader.arrived with
    | (.timedOut, reader) => (.timedOut, reader)
    | (line, reader) => (line, { reader with peeked := some line })

/-- Take a number of lines. -/
def readMany : Nat → LineReader → List ReadLine × LineReader
  | 0, reader => ([], reader)
  | n + 1, reader =>
    let (line, reader) := reader.read
    let (lines, reader) := readMany n reader
    (line :: lines, reader)

/-- Whether a read needs nothing more to arrive. -/
def isReady (reader : LineReader) : Bool :=
  reader.peeked.isSome || reader.closed || reader.arrived.any fun arrival =>
    match arrival with
    | .failure => true
    | .bytes chunk => chunk.contains 10

end LineReader

end Conformance
