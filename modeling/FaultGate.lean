import FaultGate.Report
import FaultGate.Resolver
import FaultGate.Text.Utf8
import FaultGate.Number.Shortest
import FaultGate.Number.Reading
import FaultGate.Form
import FaultGate.Http.Message
import FaultGate.Handler
import FaultGate.Json.Value
import FaultGate.Main
import FaultGate.Server.Router
import FaultGate.Settings.Server
import FaultGate.Yaml.Reading
import FaultGate.Yaml.Merge
import FaultGate.Proofs.Rendering
import FaultGate.Proofs.NonDisclosure
import FaultGate.Proofs.Pipeline
import FaultGate.Proofs.Json.Grammar
import FaultGate.Proofs.Json.Skipping
import FaultGate.Proofs.SwitchRequest
import FaultGate.Proofs.SwitchRuns
import FaultGate.Proofs.Declarations
import FaultGate.Proofs.MaintenanceGate
import FaultGate.Proofs.Json.Document
import FaultGate.Proofs.Text.Utf8
import FaultGate.Proofs.Json.Reading
import FaultGate.Proofs.Json.Writing
import FaultGate.Proofs.ErrorBodyText
import FaultGate.Proofs.Json.Recognition
import FaultGate.Proofs.BodyInspection
import FaultGate.Proofs.BodyAnnouncement
import FaultGate.Proofs.FormText
import FaultGate.Proofs.TestMode
import FaultGate.Proofs.TestModeEncodings
import FaultGate.Proofs.SteadyKinds
import FaultGate.Proofs.Answers
import FaultGate.Proofs.ServerLog
import FaultGate.Proofs.Yaml.Paths
import FaultGate.Proofs.Yaml.Layers
import FaultGate.Proofs.Yaml.Documents
import FaultGate.Proofs.Settings.Files
import FaultGate.Proofs.Settings.Sections
import FaultGate.Proofs.Settings.Effective
import FaultGate.Proofs.CallHistory
import FaultGate.Proofs.Settings.Validation
import FaultGate.Proofs.Settings.Registration
import FaultGate.Proofs.Kinds
import FaultGate.Proofs.RegistryViews
import FaultGate.Proofs.LaunchStages
import FaultGate.Proofs.DisclosureGate
import FaultGate.Proofs.HandledOnce
import FaultGate.Proofs.RequestId
import FaultGate.Proofs.ReportingPolicy
import FaultGate.Proofs.StatusAgreement
import FaultGate.Proofs.FlagFiles
import FaultGate.Proofs.LogFilter
