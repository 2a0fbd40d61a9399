import BenchmarkHistory.Plots
import BenchmarkHistory.Load

/-! The end of `visualize_benchmarks.main`: `detect_changes`, then
`generate_plots`, then `generate_report`. The report is kept as the data its
sections print; the fixed text around them and the number formats are not
modelled. -/

namespace BenchmarkHistory

/-- `', '.join(names)` over dataset labels: `TypeError` at the first `None`. -/
def joinNames : List DatasetLabel → Except PyError (List String)
  | [] => .ok []
  | some name :: names => (joinNames names).map (name :: ·)
  | none :: _ => .error .typeError

theorem joinNames_eq : ∀ names : List DatasetLabel,
    joinNames names = if none ∈ names then .error .typeError else .ok (names.filterMap id)
  | [] => rfl
  | some name :: names => by
    rw [joinNames, joinNames_eq names]
    by_cases named : none ∈ names <;> simp [named, Except.map]
  | none :: _ => by simp [joinNames]

/-- A row of the table under "Latest Results": the dataset and its `QPS`,
`Mean Latency` and `Recall@10`, `none` standing for "N/A". -/
abbrev LatestRow := DatasetLabel × Option PyFloat × Option PyFloat × Option PyFloat

/-- The body of the loop over `benchmark_data.datasets` under "Latest Results". -/
def latestRow (s : BenchmarkData) (latest : String) (dataset : DatasetLabel) : Option LatestRow :=
  if (s.data latest).isSome ∧ (s.datasetValues latest dataset).isSome then
    some (dataset, s.lookup latest dataset "QPS", s.lookup latest dataset "Mean Latency",
      s.lookup latest dataset "Recall@10")
  else none

theorem latestRow_eq (s : BenchmarkData) (latest : String) (dataset : DatasetLabel) :
    latestRow s latest dataset =
      (s.datasetValues latest dataset).map fun values =>
        (dataset, values "QPS", values "Mean Latency", values "Recall@10") := by
  unfold latestRow BenchmarkData.lookup BenchmarkData.metricValues
  cases entry : s.data latest <;> cases found : s.datasetValues latest dataset <;>
    simp_all [BenchmarkData.datasetValues]

/-- What `generate_report` writes: the summary's release count and names, the
tables of improvements and regressions, the latest release and its table, and
the plot file linked for each metric. -/
structure Report where
  releaseCount : ℕ
  datasets : List String
  metrics : List String
  improvements : List ChangeRecord
  regressions : List ChangeRecord
  latestRelease : String
  latestRows : List LatestRow
  graphs : List String
  deriving DecidableEq, Repr

/-- `generate_report(benchmark_data, changes, output_file)`; `datasets` and
`metrics` are the orders in which Python enumerates the two sets. The join of
the dataset names, in the summary, raises before any table is written. -/
def generateReport (s : BenchmarkData) (changes : List ChangeRecord) (datasets : List DatasetLabel)
    (metrics : List String) : Except PyError Report := do
  let names ← joinNames datasets
  let latestRelease := s.releases.getLast?.getD "N/A"
  pure { releaseCount := s.releases.length, datasets := names, metrics,
         improvements := changes.filter (·.status = .improvement),
         regressions := changes.filter (·.status = .regression),
         latestRelease,
         latestRows := datasets.filterMap (latestRow s latestRelease),
         graphs := metrics.map safeMetricName }

theorem generateReport_eq (s : BenchmarkData) (changes : List ChangeRecord) (datasets : List DatasetLabel)
    (metrics : List String) :
    generateReport s changes datasets metrics =
      if none ∈ datasets then .error .typeError
      else .ok
        { releaseCount := s.releases.length, datasets := datasets.filterMap id, metrics,
          improvements := changes.filter (·.status = .improvement),
          regressions := changes.filter (·.status = .regression),
          latestRelease := s.releases.getLast?.getD "N/A",
          latestRows := datasets.filterMap (latestRow s (s.releases.getLast?.getD "N/A")),
          graphs := metrics.map safeMetricName } := by
  unfold generateReport
  rw [joinNames_eq]
  split <;> rfl

namespace Visualize
variable (P : FloatParser)

/-- `main` once its arguments are parsed: load the files in order, detect the
changes, draw the plots and write the report. -/
def main (output : OutputDir) (files : List (String × CsvFile)) (thresholdPercent : PyFloat)
    (datasets : List DatasetLabel) (metrics : List String) : Except PyError Report := do
  let (changes, s) := (mainLoad P files).detectChanges thresholdPercent datasets metrics
  let (_, s) ← s.generatePlots output datasets metrics
  generateReport s changes datasets metrics

end Visualize

end BenchmarkHistory
