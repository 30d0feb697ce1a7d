import Conformance.Config
import Conformance.Directory.Layout
import Conformance.Json.Read
import Conformance.Json.Write
import Conformance.Report

/-!
# Values in documents

How opcodes, credentials, launch specifications, settings and reports are written as JSON, and how
they are read from the data of a document. The specifications and settings have a default for every
field; of everything else each field has to be there.
-/

namespace Conformance

open Data (required defaulted fields? oneOf?)

/-! ## Named values -/

/-- The opcode under its name. -/
def Opcode.toJson (opcode : Opcode) : Json := .text opcode.label

/-- Read an opcode. -/
def Opcode.ofData? : Data → Option Opcode := oneOf? Opcode.all Opcode.label

/-- The reply under its name. -/
def Reply.toJson (reply : Reply) : Json := .text reply.label

/-- Read a reply. -/
def Reply.ofData? : Data → Option Reply := oneOf? Reply.all Reply.label

/-- The kind of start under its name. -/
def Banner.toJson (banner : Banner) : Json := .text banner.label

/-- Read a kind of start. -/
def Banner.ofData? : Data → Option Banner := oneOf? Banner.all Banner.label

/-- The kind of outcome under its name. -/
def OutcomeKind.toJson (kind : OutcomeKind) : Json := .text kind.label

/-- Read a kind of outcome. -/
def OutcomeKind.ofData? : Data → Option OutcomeKind := oneOf? OutcomeKind.all OutcomeKind.label

/-! ## Credentials and footprints -/

/-- A credential as a table. -/
def Credential.toJson (credential : Credential) : Json :=
  .table [("name", .text credential.name), ("password", .text credential.password)]

/-- Read a credential; its halves may be empty here. -/
def Credential.ofData? (data : Data) : Option Credential :=
  match fields? .refused ["name", "password"] data with
  | some [name, password] => do
    some ⟨← required Data.text? name, ← required Data.text? password⟩
  | _ => none

/-- A footprint as a table. -/
def Directory.Footprint.toJson (user : Directory.Footprint) : Json :=
  .table [("name", .text user.name), ("content_len", .count user.contentLength.toNat)]

/-- Read a footprint. -/
def Directory.Footprint.ofData? (data : Data) : Option Directory.Footprint :=
  match fields? .refused ["name", "content_len"] data with
  | some [name, length] => do
    some ⟨← required Data.text? name, ← required Data.word64? length⟩
  | _ => none

/-! ## Specifications and settings -/

/-- Read a path that is written as a text. -/
def NativePath.ofData? (data : Data) : Option NativePath := data.text?.map .ofPath

/-- A client specification as a table. -/
def ClientSpec.toJson (spec : ClientSpec) : Json :=
  .table
    [("executable", .text spec.executable), ("server_address", .text spec.serverAddress),
      ("port", .count spec.port.toNat), ("public_key_file", .text spec.publicKeyFile.display)]

/-- The names of a client specification's fields. -/
def ClientSpec.fieldNames : List String :=
  ["executable", "server_address", "port", "public_key_file"]

/-- Read a client specification whose missing fields are those of another. -/
def ClientSpec.ofData? (surplus : Data.Surplus) (base : ClientSpec) (data : Data) :
    Option ClientSpec :=
  match fields? surplus fieldNames data with
  | some [executable, address, port, key] => do
    some
      { executable := ← defaulted base.executable Data.text? executable
        serverAddress := ← defaulted base.serverAddress Data.text? address
        port := ← defaulted base.port Data.word16? port
        publicKeyFile := ← defaulted base.publicKeyFile NativePath.ofData? key }
  | _ => none

/-- A server specification as a table. -/
def ServerSpec.toJson (spec : ServerSpec) : Json :=
  .table
    [("executable", .text spec.executable), ("port", .count spec.port.toNat),
      ("key_file_stem", .text spec.keyFileStem), ("directory_file", .text spec.directoryFile),
      ("threads", .count spec.threads.toNat), ("buckets", .count spec.buckets.toNat),
      ("quota_interval_secs", .count spec.quotaIntervalSecs.toNat),
      ("upload_quota_bytes", .count spec.uploadQuotaBytes.toNat),
      ("download_quota_bytes", .count spec.downloadQuotaBytes.toNat),
      ("request_quota", .count spec.requestQuota.toNat), ("top_k", .count spec.topK.toNat),
      ("admin_name", .text spec.adminName)]

/-- The names of a server specification's fields. -/
def ServerSpec.fieldNames : List String :=
  ["executable", "port", "key_file_stem", "directory_file", "threads", "buckets",
    "quota_interval_secs", "upload_quota_bytes", "download_quota_bytes", "request_quota", "top_k",
    "admin_name"]

/-- Read a server specification whose missing fields are those of another. -/
def ServerSpec.ofData? (surplus : Data.Surplus) (base : ServerSpec) (data : Data) :
    Option ServerSpec :=
  match fields? surplus fieldNames data with
  | some [executable, port, stem, directory, threads, buckets, interval, upload, download, requests,
      topK, admin] => do
    some
      { executable := ← defaulted base.executable Data.text? executable
        port := ← defaulted base.port Data.word16? port
        keyFileStem := ← defaulted base.keyFileStem Data.text? stem
        directoryFile := ← defaulted base.directoryFile Data.text? directory
        threads := ← defaulted base.threads Data.word32? threads
        buckets := ← defaulted base.buckets Data.word32? buckets
        quotaIntervalSecs := ← defaulted base.quotaIntervalSecs Data.word64? interval
        uploadQuotaBytes := ← defaulted base.uploadQuotaBytes Data.word64? upload
        downloadQuotaBytes := ← defaulted base.downloadQuotaBytes Data.word64? download
        requestQuota := ← defaulted base.requestQuota Data.word64? requests
        topK := ← defaulted base.topK Data.word32? topK
        adminName := ← defaulted base.adminName Data.text? admin }
  | _ => none

/-- A layout of outcomes as a table. -/
def ReportStyle.toJson (style : ReportStyle) : Json :=
  .table [("indentation", .count style.indentation.toNat), ("verbose", .flag style.verbose)]

/-- Read a layout of outcomes whose missing fields are those of another. -/
def ReportStyle.ofData? (surplus : Data.Surplus) (base : ReportStyle) (data : Data) :
    Option ReportStyle :=
  match fields? surplus ["indentation", "verbose"] data with
  | some [indentation, verbose] => do
    some
      { indentation := ← defaulted base.indentation Data.word64? indentation
        verbose := ← defaulted base.verbose Data.flag? verbose }
  | _ => none

/-- Bounds on waiting as a table. -/
def Timeouts.toJson (timeouts : Timeouts) : Json :=
  .table
    [("read_secs", .count timeouts.readSecs.toNat),
      ("shutdown_secs", .count timeouts.shutdownSecs.toNat)]

/-- Read bounds on waiting whose missing fields are those of others. -/
def Timeouts.ofData? (surplus : Data.Surplus) (base : Timeouts) (data : Data) : Option Timeouts :=
  match fields? surplus ["read_secs", "shutdown_secs"] data with
  | some [readSecs, shutdownSecs] => do
    some
      { readSecs := ← defaulted base.readSecs Data.word64? readSecs
        shutdownSecs := ← defaulted base.shutdownSecs Data.word64? shutdownSecs }
  | _ => none

/-- A configuration as a table. -/
def Config.toJson (config : Config) : Json :=
  .table
    [("work_dir", .text config.workDir), ("server", config.server.toJson),
      ("client", config.client.toJson), ("report", config.report.toJson),
      ("timeouts", config.timeouts.toJson)]

/-! ## Outcomes and reports -/

/-- An outcome as a table. -/
def Outcome.toJson (outcome : Outcome) : Json :=
  .table
    [("description", .text outcome.description), ("expected", .text outcome.expected),
      ("actual", .text outcome.actual), ("passed", .flag outcome.passed),
      ("kind", outcome.kind.toJson)]

/-- Read an outcome. -/
def Outcome.ofData? (data : Data) : Option Outcome :=
  match fields? .refused ["description", "expected", "actual", "passed", "kind"] data with
  | some [description, expected, actual, passed, kind] => do
    some
      { description := ← required Data.text? description
        expected := ← required Data.text? expected
        actual := ← required Data.text? actual
        passed := ← required Data.flag? passed
        kind := ← required OutcomeKind.ofData? kind }
  | _ => none

/-- A scenario as a table. -/
def Scenario.toJson (scenario : Scenario) : Json :=
  .table
    [("title", .text scenario.title), ("outcomes", .list (scenario.outcomes.map Outcome.toJson))]

/-- Read a scenario. -/
def Scenario.ofData? (data : Data) : Option Scenario :=
  match fields? .refused ["title", "outcomes"] data with
  | some [title, outcomes] => do
    some ⟨← required Data.text? title, ← required (Data.listOf? Outcome.ofData?) outcomes⟩
  | _ => none

/-- A report as a table. -/
def Report.toJson (report : Report) : Json :=
  .table [("scenarios", .list (report.scenarios.map Scenario.toJson))]

/-- Read a report. -/
def Report.ofData? (data : Data) : Option Report :=
  match fields? .refused ["scenarios"] data with
  | some [scenarios] => do some ⟨← required (Data.listOf? Scenario.ofData?) scenarios⟩
  | _ => none

/-- The report as the text of a JSON document, laid out over lines. -/
def Report.document (report : Report) : String := report.toJson.pretty

/-- Read a report from the text of a JSON document. -/
def Report.ofDocument? (text : String) : Option Report := (Json.read? text).bind ofData?

end Conformance
