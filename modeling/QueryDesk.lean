import QueryDesk.Benchmark.Comparison
import QueryDesk.Benchmark.Metrics
import QueryDesk.Benchmark.Report
import QueryDesk.Main
import QueryDesk.Proofs.Agreement
import QueryDesk.Proofs.Aliases
import QueryDesk.Proofs.Calls
import QueryDesk.Proofs.Controls
import QueryDesk.Proofs.JoinTables
import QueryDesk.Proofs.Mentions
import QueryDesk.Proofs.NarrowedSchema
import QueryDesk.Proofs.OuterJoins
import QueryDesk.Proofs.OutputNames
import QueryDesk.Proofs.PatchLaws
import QueryDesk.Proofs.PlainColumns
import QueryDesk.Proofs.Progress
import QueryDesk.Proofs.Refusals
import QueryDesk.Proofs.RemainingIssues
import QueryDesk.Proofs.RunLimits
import QueryDesk.Proofs.SettingsFile
import QueryDesk.Proofs.ThreadHistory
import QueryDesk.Proofs.TimeWindows
import QueryDesk.Proofs.Wishes
import QueryDesk.Schema.Form
import QueryDesk.Service.Logging
import QueryDesk.Service.Settings
import QueryDesk.Service.Web
