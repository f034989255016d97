import Telemetry.Main
import Telemetry.Proofs.Offences
import Telemetry.Proofs.Announcements
import Telemetry.Proofs.NearestValues
import Telemetry.Proofs.Mirror
import Telemetry.Proofs.Linearization
import Telemetry.Proofs.ExactValues
import Telemetry.Proofs.Holdings
import Telemetry.Proofs.Lifecycle
import Telemetry.Proofs.Exclusiveness
import Telemetry.Proofs.Deliveries
import Telemetry.Proofs.DisabledPast
import Telemetry.Proofs.RunningTotals
import Telemetry.Proofs.Dimensions
import Telemetry.Proofs.SampleLog
import Telemetry.Proofs.Startup
import Telemetry.Proofs.JsonGrammar
import Telemetry.Proofs.JsonScanning
import Telemetry.Proofs.DocumentReading
import Telemetry.Proofs.SettingsDocument
import Telemetry.Proofs.Separation
import Telemetry.Proofs.Choices
import Telemetry.Proofs.LastSample
import Telemetry.Proofs.Queueing
import Telemetry.Proofs.Serving
import Telemetry.Proofs.Batching
import Telemetry.Proofs.StandIn
import Telemetry.Proofs.ListForm
import Telemetry.Proofs.FirstProblem
import Telemetry.Proofs.Enabling
import Telemetry.Proofs.Permanence
import Telemetry.Proofs.CounterAmounts
