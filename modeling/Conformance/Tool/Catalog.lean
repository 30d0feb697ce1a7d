import Conformance.Tool.Condition
import Conformance.Tool.Files
import Conformance.Tool.Printf
import Conformance.Tool.Search
import Conformance.Tool.Simple
import Conformance.Tool.Streams

/-!
# The tools by name

The names under which tools are found, alone or in the directories where they stand.
-/

namespace Conformance.Tool

/-- The tool of a name. -/
def named (name : String) : Option Tool :=
  match name with
  | "[" => some bracket
  | "basename" => some basename
  | "cat" => some cat
  | "chmod" => some chmod
  | "cmp" => some cmp
  | "cp" => some cp
  | "cut" => some cut
  | "dd" => some dd
  | "dirname" => some dirname
  | "echo" => some plainEcho
  | "expr" => some expr
  | "false" => some fail
  | "grep" => some grep
  | "head" => some head
  | "kill" => some kill
  | "ls" => some ls
  | "mkdir" => some mkdir
  | "mkfifo" => some mkfifo
  | "mv" => some mv
  | "printf" => some printf
  | "pwd" => some pwd
  | "rev" => some rev
  | "rm" => some rm
  | "rmdir" => some rmdir
  | "sed" => some sed
  | "seq" => some seq
  | "sleep" => some sleep
  | "sort" => some sort
  | "sync" => some succeed
  | "tac" => some tac
  | "tail" => some tail
  | "tee" => some tee
  | "test" => some test
  | "touch" => some touch
  | "tr" => some tr
  | "true" => some succeed
  | "truncate" => some truncate
  | "uniq" => some uniq
  | "unlink" => some unlink
  | "wc" => some wc
  | "yes" => some yes
  | _ => none

/-- The directories in which installed programs stand. -/
def directories : List String := ["/bin/", "/usr/bin/"]

/-- A name without the directory of installed programs in front of it. -/
def plainName (name : String) : String :=
  match directories.find? fun directory => directory.toList.isPrefixOf name.toList with
  | some directory => String.ofList (name.toList.drop directory.length)
  | none => name

/-- The tools as installed programs, with those that start other programs. -/
def catalog : Catalog := fun name =>
  match plainName name with
  | "env" => some env
  | "nohup" => some (becomeNamed "nohup")
  | "timeout" => some timeout
  | plain => (named plain).map program

end Conformance.Tool
