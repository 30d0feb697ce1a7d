import Conformance.Config
import Conformance.Machine.Host
import Conformance.Standin.Client
import Conformance.Standin.Server
import Conformance.Shell.Program

/-!
# Installed programs

The programs that a host finds under a name.
-/

namespace Conformance

/-- The stand-ins under the names by which executable files refer to them. The first argument is the
    path of the file. -/
def Standin.catalog : Catalog
  | "/standin/server" => some fun args => Standin.Server.program args.tail
  | "/standin/client" => some fun args => Standin.Client.program args.tail
  | _ => none

/-- The content of an executable file that stands for a program of a name. -/
def executableFor (name : String) : Bytes := Text.encode ("#!" ++ name ++ "\n")

namespace Standin

variable (home : Place)

/-- Install a stand-in as an executable file of a name. -/
def install (fs : FileSystem) (name program : String) : FileSystem :=
  fs.put (home ++ ["bin", name]) (.file (executableFor program) true)

/-- A working directory that holds both stand-ins as executable files, and nothing else. -/
def deployment : FileSystem :=
  let fs := (FileSystem.bare home).makeDirectories home ["bin"]
  install home (install home fs "server.exe" "/standin/server") "client.exe" "/standin/client"

/-- The path of an installed stand-in, from the root. -/
def executable (name : String) : Path := "/" ++ "/".intercalate (home ++ ["bin", name])

/-- The configuration that finds both stand-ins. -/
def deployedConfig : Config :=
  (({} : Config).withServerExe (executable home "server.exe")).withClientExe
    (executable home "client.exe")

/-- A host on which the stand-ins are deployed. -/
def deployed : Host := Host.new catalog (deployment home)

/-- Whether the server on a host knows a user with a password. -/
def knows (host : Host) (credential : Credential) : Bool :=
  match host.files.read (passwordFile credential.name) with
  | .ok stored => withoutFeeds stored == Text.encode credential.password
  | .error _ => false

end Standin

/-- Every program that is installed. -/
def installed : Catalog := fun name =>
  (Standin.catalog name).orElse fun _ => (Shell.catalog name).orElse fun _ => Tool.catalog name

end Conformance
