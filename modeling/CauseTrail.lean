import CauseTrail.Main
import CauseTrail.Proofs.Command.NewFile
import CauseTrail.Proofs.Command.ShownOptions
import CauseTrail.Proofs.Config.EventPath
import CauseTrail.Proofs.Config.Failures
import CauseTrail.Proofs.Event.CauseRecords
import CauseTrail.Proofs.Event.ContextLinks
import CauseTrail.Proofs.Event.FailureOrder
import CauseTrail.Proofs.Event.PayloadRefusals
import CauseTrail.Proofs.Event.TypeNames
import CauseTrail.Proofs.Telemetry.Block
import CauseTrail.Proofs.Telemetry.CaptureLaw
import CauseTrail.Proofs.Telemetry.ConsoleLines
import CauseTrail.Proofs.Telemetry.CurrentHub
import CauseTrail.Proofs.Telemetry.Dispatching
import CauseTrail.Proofs.Telemetry.Exits
import CauseTrail.Proofs.Telemetry.FileLines
import CauseTrail.Proofs.Telemetry.Gaps
import CauseTrail.Proofs.Telemetry.LineReports
import CauseTrail.Proofs.Telemetry.RequiredPath
