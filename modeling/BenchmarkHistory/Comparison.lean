import BenchmarkHistory.Plots
import BenchmarkHistory.Load
import Mathlib.Data.Finset.Card

/-! `generate_summary_report` of `compare_benchmark_iterations`, kept as the
data its sections print, and `main`, which loads the two directories, draws the
comparison figures and writes the summary. The system information (`psutil`,
`platform`) and the fixed text around the data are not modelled. -/

namespace BenchmarkHistory.Compare

/-- The status `generate_summary_report` writes for a dataset of either run. -/
def datasetStatus (run1Label run2Label : String) (inRun1 inRun2 : Bool) : String :=
  if inRun1 && inRun2 then "✓ Both runs"
  else if inRun1 then "✓ " ++ run1Label ++ " only"
  else "✓ " ++ run2Label ++ " only"

/-- What `generate_summary_report` writes: the two labels of the title, the
release and dataset counts of each run, the metrics compared, each dataset
with its status, and each run's releases. -/
structure SummaryReport where
  run1Label : String
  run2Label : String
  releaseCount1 : ℕ
  datasetCount1 : ℕ
  releaseCount2 : ℕ
  datasetCount2 : ℕ
  metrics : List String
  datasets : List (DatasetLabel × String)
  releases1 : List String
  releases2 : List String
  deriving DecidableEq, Repr

/-- `generate_summary_report(benchmark_data1, benchmark_data2, output_file,
run1_label, run2_label)`; `datasets` and `metrics` are
`sorted(benchmark_data1.datasets | benchmark_data2.datasets)` and
`sorted(benchmark_data1.metrics | benchmark_data2.metrics)`. -/
def generateSummaryReport (data1 data2 : BenchmarkData) (datasets : List DatasetLabel) (metrics : List String)
    (run1Label run2Label : String) : SummaryReport where
  run1Label := run1Label
  run2Label := run2Label
  releaseCount1 := data1.releases.length
  datasetCount1 := data1.datasets.card
  releaseCount2 := data2.releases.length
  datasetCount2 := data2.datasets.card
  metrics := metrics
  datasets := datasets.map fun dataset =>
    (dataset, datasetStatus run1Label run2Label (dataset ∈ data1.datasets) (dataset ∈ data2.datasets))
  releases1 := data1.releases
  releases2 := data2.releases

variable (P : FloatParser)

/-- `main` once its arguments are parsed: load both directories, where a
missing directory, one without CSV files or an exception ends the script, then
draw, where an exception ends it too, and write the summary. `order` gives
`sorted` of the union of the two runs' datasets and of their metrics. -/
def main (output : OutputDir) (dir1 dir2 : Option Directory) (run1Label run2Label : String)
    (order : Finset DatasetLabel → Finset String → List DatasetLabel × List String) :
    Except LoadFailure SummaryReport := do
  let data1 ← loadBenchmarkData P dir1
  let data2 ← loadBenchmarkData P dir2
  let plotted := order (data1.datasets ∪ data2.datasets) (data1.metrics ∪ data2.metrics)
  let (_, _, data1, data2) ← (generateComparisonPlots output data1 data2 plotted.1 plotted.2 run1Label run2Label).mapError
    .raised
  let reported := order (data1.datasets ∪ data2.datasets) (data1.metrics ∪ data2.metrics)
  pure (generateSummaryReport data1 data2 reported.1 reported.2 run1Label run2Label)

end BenchmarkHistory.Compare
