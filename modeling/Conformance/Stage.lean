import Conformance.Fault

/-!
# The stage of a run

A run has a configuration and a cast: users that scenarios know by an alias. Two aliases may stand for
one name with different passwords, which is how an impostor is written.
-/

namespace Conformance

/-- The users of a run, each under an alias, in the order in which they joined. -/
structure Cast where
  members : List (String × Credential)
deriving DecidableEq, Repr

namespace Cast

/-- Nobody. -/
def empty : Cast := ⟨[]⟩

/-- The aliases in use. -/
def aliases (cast : Cast) : List String := cast.members.map (·.1)

/-- The user under an alias, if there is one. -/
def find? (cast : Cast) (name : String) : Option Credential := cast.members.lookup name

/-- The user under an alias. -/
def user (cast : Cast) (name : String) : Except Fault Credential :=
  match cast.find? name with
  | some credential => .ok credential
  | none => .error (.config (.unknownAlias name))

/-- Let a user join under an alias. That the alias is taken is reported before what is wrong with the
    credential. -/
def add (cast : Cast) (name user password : String) : Except Fault (Credential × Cast) :=
  if name ∈ cast.aliases then .error (.config (.duplicateAlias name))
  else
    match Credential.new user password with
    | .error e => .error (.protocol e)
    | .ok credential => .ok (credential, ⟨cast.members ++ [(name, credential)]⟩)

/-- The users that the built-in suites know: `fakealice` has a wrong password for alice. -/
def standard : Cast where
  members :=
    [("alice", ⟨"alice", "alice_is_awesome"⟩),
      ("fakealice", ⟨"alice", "not_alice_password"⟩),
      ("bob", ⟨"bob", "bob_is_the_best"⟩),
      ("chris", ⟨"chris", "i_heart_cats"⟩),
      ("diana", ⟨"diana", "p@S$$$$sw0rd"⟩)]

end Cast

/-- A usable configuration and a cast. -/
structure Stage where
  config : Config
  cast : Cast
deriving DecidableEq, Repr

namespace Stage

/-- A stage for a cast, unless the configuration has a fault. -/
def new (config : Config) (cast : Cast) : Except Fault Stage :=
  match config.fault? with
  | some fault => .error (.config fault)
  | none => .ok ⟨config, cast⟩

variable (stage : Stage)

/-- Let a user join. -/
def addUser (name user password : String) : Except Fault (Credential × Stage) :=
  match stage.cast.add name user password with
  | .error e => .error e
  | .ok (credential, cast) => .ok (credential, { stage with cast := cast })

/-- Where the client leaves a user's content when it fetches it, seen from the working directory. -/
def fetchedFile (user : String) : Path := user ++ ".file.dat"

/-- The files that server and client are known to make: both keys, the directory file, and the client's
    copy of the public key. -/
def generatedFiles : List Path :=
  [stage.config.server.privateKeyPath, stage.config.server.publicKeyPath,
    stage.config.server.directoryFile].map stage.config.resolve ++
    stage.config.publicKeyFile?.toList

end Stage

/-- The file to which suites have the names of all users written. -/
def allUsersFile : Path := "allfile"

end Conformance
