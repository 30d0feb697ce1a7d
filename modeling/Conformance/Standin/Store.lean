import Conformance.Machine.Tasks
import Conformance.Text.Echo

/-!
# What the stand-ins share

The stand-in server and client know each other through files in one directory. Clients announce their
connections as lines of one file; what users have stored is kept in a tree that the server sets up, and
a copy of that tree stands for what is in the directory file.
-/

namespace Conformance.Standin

/-- The file to which clients append a line for each connection. -/
def wireFile : Path := ".fake/wire"

/-- The file that holds the name of the directory file. -/
def nameFile : Path := ".fake/dirfile"

/-- What users have stored. -/
def liveTree : Path := ".fake/live"

/-- What users had stored when the directory file was written. -/
def savedTree : Path := ".fake/saved"

/-- The file with the names of users in the order in which they registered. -/
def orderFile : Path := liveTree ++ "/order"

/-- The file with a user's password. -/
def passwordFile (user : String) : Path := liveTree ++ "/users/" ++ user

/-- The file with a user's content. -/
def contentFile (user : String) : Path := liveTree ++ "/content/" ++ user

/-- The line for a connection that carries a request. -/
def requestWord : String := "CMD"

/-- The line for a connection that fetches the public key. -/
def keyWord : String := "KEY"

/-- The line for a connection that carries the request to exit. -/
def exitWord : String := "EXIT"

/-- Bytes without the line feeds at their end. -/
def withoutFeeds (bytes : Bytes) : Bytes := (bytes.reverse.dropWhile (· = 10)).reverse

/-- The pieces of bytes that line feeds end. -/
def feedLines (bytes : Bytes) : List Bytes := (bytes.splitOn 10).dropLast

/-- The content of a file; nothing if it cannot be read. -/
def loadOrNothing (path : Path) : Task Bytes := do
  match ← Task.load path with
  | .ok content => return content
  | .error _ => return []

/-- Write a line into a file that is opened in some way; that this fails is ignored. -/
def writeLine (path : Path) (mode : OpenMode) (line : String) : Task Unit := do
  let _ ← Task.save path mode (Text.echoLine line)

end Conformance.Standin
