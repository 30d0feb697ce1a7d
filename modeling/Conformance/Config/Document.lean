import Conformance.Data.Stored
import Conformance.Toml.Read

/-!
# Configuration documents

A configuration is written as a TOML document with a section for each of its parts. Every section
and every field may be missing. A section may also be a list of its fields in order, of which a
surplus is ignored.
-/

namespace Conformance.Config

open Data (defaulted fields?)

/-- The fields of the client's section. The port is kept apart, because its default is the port of
    the server. -/
def clientSection? (serverPort : UInt16) (data : Data) : Option ClientSpec :=
  ClientSpec.ofData? .ignored { port := serverPort } data

/-- Read a configuration from the data of a document. -/
def ofData? (data : Data) : Option Config :=
  match fields? .ignored ["work_dir", "server", "client", "report", "timeouts"] data with
  | some [workDir, server, client, report, timeouts] => do
    let server ← defaulted {} (ServerSpec.ofData? .ignored {}) server
    some
      { workDir := ← defaulted "." Data.text? workDir
        server := server
        client := ← defaulted { port := server.port } (clientSection? server.port) client
        report := ← defaulted {} (ReportStyle.ofData? .ignored {}) report
        timeouts := ← defaulted {} (Timeouts.ofData? .ignored {}) timeouts }
  | _ => none

/-- Read a configuration from the text of a document. -/
def ofDocument? (text : String) : Option Config := (Toml.read? text).bind ofData?

end Conformance.Config
