import Conformance.Main
import Conformance.Proofs.Data.Stored
import Conformance.Proofs.Directory.Corruption
import Conformance.Proofs.Directory.Structure
import Conformance.Proofs.Directory.Words
import Conformance.Proofs.Expectation.Unordered
import Conformance.Proofs.FileCheck.Contents
import Conformance.Proofs.FileCheck.Listing
import Conformance.Proofs.LineReader.Transcript
import Conformance.Proofs.Registry.Executables
import Conformance.Proofs.Report.Building
import Conformance.Proofs.Report.Summary
import Conformance.Proofs.Request.Arguments
import Conformance.Proofs.Session.InStep
import Conformance.Proofs.Session.OnRecord
import Conformance.Proofs.Standin.Persist
import Conformance.Proofs.Suite.CleanUp
import Conformance.Proofs.Directory.Limits
import Conformance.Proofs.Cli.Footprint
import Conformance.Proofs.Registry.Handles
import Conformance.Proofs.Stage
