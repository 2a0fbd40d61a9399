import BenchmarkHistory.Float
import BenchmarkHistory.Python
import BenchmarkHistory.Store
import BenchmarkHistory.Overlay
import BenchmarkHistory.Ingest
import BenchmarkHistory.Series
import BenchmarkHistory.Release
import BenchmarkHistory.Load
import BenchmarkHistory.Jmh
import BenchmarkHistory.Plots
import BenchmarkHistory.Report
import BenchmarkHistory.Comparison
import BenchmarkHistory.Proofs.Rounding
import BenchmarkHistory.Proofs.StoreInvariant
import BenchmarkHistory.Proofs.Changes
import BenchmarkHistory.Proofs.FileOrder
import BenchmarkHistory.Proofs.Contribution
import BenchmarkHistory.Proofs.Agreement
import BenchmarkHistory.Proofs.RaggedRows
import BenchmarkHistory.Proofs.JmhSummary
import BenchmarkHistory.Proofs.LastWrite
import BenchmarkHistory.Proofs.MetricSeries
import BenchmarkHistory.Proofs.Plots
import BenchmarkHistory.Proofs.Report
import BenchmarkHistory.Proofs.Comparison
import BenchmarkHistory.Proofs.ReleaseLabel
import BenchmarkHistory.Proofs.ReleaseOrder
