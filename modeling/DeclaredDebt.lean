import DeclaredDebt.Main
import DeclaredDebt.Proofs.StableSort
import DeclaredDebt.Proofs.Registry
import DeclaredDebt.Proofs.Order
import DeclaredDebt.Proofs.Accounting
import DeclaredDebt.Proofs.Collection
import DeclaredDebt.Proofs.Merge
import DeclaredDebt.Proofs.ExitCode
import DeclaredDebt.Proofs.JsonText
import DeclaredDebt.Proofs.ReportJson
import DeclaredDebt.Proofs.Provenance
import DeclaredDebt.Proofs.SarifDocument
import DeclaredDebt.Proofs.IntegerLiteral
import DeclaredDebt.Proofs.TreeWalk
import DeclaredDebt.Proofs.TokenPlaces
import DeclaredDebt.Proofs.ParsedTrees
import DeclaredDebt.Proofs.AttributePlaces
import DeclaredDebt.Proofs.DiagnosticOrder
import DeclaredDebt.Proofs.UsageDebt
import DeclaredDebt.Proofs.Decomposition
import DeclaredDebt.Proofs.Examination
import DeclaredDebt.Proofs.RealLiteral
import DeclaredDebt.Proofs.NumberText
import DeclaredDebt.Proofs.AttributeNames
import DeclaredDebt.Proofs.DiagnosticId
import DeclaredDebt.Proofs.MessageText
import DeclaredDebt.Proofs.UsageSpans
import DeclaredDebt.Proofs.Relabelling
import DeclaredDebt.Proofs.TokenGaps
import DeclaredDebt.Proofs.ArgumentText
import DeclaredDebt.Proofs.Retention
import DeclaredDebt.Proofs.SummaryCounts
import DeclaredDebt.Proofs.ExcludeLists
import DeclaredDebt.Proofs.GlobMatching
import DeclaredDebt.Proofs.PlainPatterns
import DeclaredDebt.Proofs.SeverityOverride
import DeclaredDebt.Proofs.WrittenReport
import DeclaredDebt.Proofs.PathSteps
import DeclaredDebt.Proofs.TreeChange
import DeclaredDebt.Proofs.SettingsChoice
import DeclaredDebt.Proofs.DirectorySetup
