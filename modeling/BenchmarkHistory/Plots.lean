import BenchmarkHistory.Series

/-! `generate_plots` of `visualize_benchmarks` and `generate_comparison_plots`
of `compare_benchmark_iterations`: the figures they draw and save, and the
reads they make of the stores. The first draws a figure per metric with a line
per dataset, the `QPS` lines with error bars taken from the `QPS StdDev`
series, then the aggregated figure, a row per metric, with each line divided by
its first value; the second draws a figure per metric with, for each dataset, a
line of each run. `plt.errorbar` and `plt.savefig` can raise, which ends the
script. Styles, colours, sizes, legends and the system information printed
under the last row are not modelled. -/

namespace BenchmarkHistory

/-- `text.replace(old, new)` for a one-character `old`. -/
def replaceChar (text : String) (old : Char) (new : String) : String :=
  ⟨text.toList.flatMap fun c => if c = old then new.toList else [c]⟩

/-- `safe_metric_name`, which names the plot file of a metric. -/
def safeMetricName (metric : String) : String := replaceChar (replaceChar metric '@' "_at_") ' ' "_"

/-- The output directory, which `os.makedirs` has made, as `plt.savefig` finds
it: the names under it that can be written. Which cannot depends on the file
system; a name with a `/` needs a subdirectory that the scripts never make. -/
structure OutputDir where
  saves : String → Bool

/-- `plt.savefig(os.path.join(output_dir, name))`: the `OSError` of `open`,
`FileNotFoundError` for a missing subdirectory, where the file cannot be
written. -/
def OutputDir.savefig (output : OutputDir) (name : String) : Except PyError Unit :=
  if output.saves name then pure () else throw (.fileError name)

/-- A line drawn by `plt.plot` or `plt.errorbar`: the `label` argument as the
code passes it, the releases along the x axis, the values, and the `yerr` of a
line drawn with error bars. -/
structure Line where
  label : Option String
  releases : List String
  values : List PyFloat
  errors : Option (List PyFloat)
  deriving DecidableEq, Repr

/-- A figure of the first loop: the file `savefig` writes, the title and the lines. -/
structure Figure where
  file : String
  title : String
  lines : List Line
  deriving DecidableEq, Repr

/-- A row of the aggregated figure: `plt.subplot(len(metrics), 1, position)`,
the title, the lines, and whether the row carries the x label `Release`. -/
structure Subplot where
  position : ℕ
  title : String
  lines : List Line
  xlabel : Bool
  deriving DecidableEq, Repr

/-- `f"{dataset}"`: Python prints `None` for a missing dataset. -/
def datasetText : DatasetLabel → String
  | some name => name
  | none => "None"

/-- `{r: v for r, v in zip(std_releases, std_values)}` -/
def stdMap (stdReleases : List String) (stdValues : List PyFloat) : List (String × PyFloat) :=
  (stdReleases.zip stdValues).foldl (fun d entry => dictSet d entry.1 entry.2) []

/-- `plt.errorbar(releases, values, yerr=yerr, ..., label=dataset)`, which
raises matplotlib's `ValueError` when an error bar is below zero; `nan` is let
through. -/
def errorbar (label : Option String) (releases : List String) (values yerr : List PyFloat) :
    Except PyError Line :=
  if yerr.any fun error => decide (error < 0) then throw (.valueError "'yerr' must not contain negative values")
  else pure ⟨label, releases, values, some yerr⟩

/-- A `for` loop of the plotting functions: each pass reads the store and draws
what it returns, in order, and an exception ends the loop. -/
def drawAll {σ α β : Type} (pass : σ → α → Except PyError (List β × σ)) : List α → σ → Except PyError (List β × σ)
  | [], s => pure ([], s)
  | item :: items, s => do
    let (drawn, s) ← pass s item
    let (rest, s) ← drawAll pass items s
    pure (drawn ++ rest, s)

namespace BenchmarkData

/-- The body of the loop over `benchmark_data.datasets` in the figure of
`metric`: the line drawn, if any, and the store after the reads. -/
def plotLine (s : BenchmarkData) (metric : String) (dataset : DatasetLabel) :
    Except PyError (Option Line × BenchmarkData) :=
  let ((releases, values), s) := s.getMetricDataForDataset metric dataset
  if releases ≠ [] ∧ values ≠ [] then
    if metric = "QPS" then
      let ((stdReleases, stdValues), s) := s.getMetricDataForDataset "QPS StdDev" dataset
      if stdReleases ≠ [] ∧ stdValues ≠ [] then
        let yerr := releases.map fun release => ((stdMap stdReleases stdValues).lookup release).getD 0
        (errorbar dataset releases values yerr).map fun line => (some line, s)
      else pure (some ⟨dataset, releases, values, none⟩, s)
    else pure (some ⟨dataset, releases, values, none⟩, s)
  else pure (none, s)

/-- The figure of `metric`, saved as `{safe_metric_name}.png`. -/
def metricFigure (output : OutputDir) (s : BenchmarkData) (datasets : List DatasetLabel) (metric : String) :
    Except PyError (Figure × BenchmarkData) := do
  let (lines, s) ← drawAll (fun s dataset => (s.plotLine metric dataset).map fun drawn => (drawn.1.toList, drawn.2))
    datasets s
  output.savefig (safeMetricName metric ++ ".png")
  pure (⟨safeMetricName metric ++ ".png", metric ++ " Over Time", lines⟩, s)

/-- The body of the loop over `benchmark_data.datasets` in the aggregated
figure: the values divided by the first, when it is not zero. -/
def aggregatedLine (s : BenchmarkData) (metric : String) (dataset : DatasetLabel) : Option Line × BenchmarkData :=
  let ((releases, values), s) := s.getMetricDataForDataset metric dataset
  match releases, values with
  | _ :: _, first :: _ =>
    if first ≠ 0 then (some ⟨some (datasetText dataset), releases, values.map (· / first), none⟩, s)
    else (none, s)
  | _, _ => (none, s)

/-- The row of `metric` in the aggregated figure; `metrics` is the enumeration
of the set that `list(benchmark_data.metrics)` gives, the same at every call. -/
def aggregatedSubplot (s : BenchmarkData) (datasets : List DatasetLabel) (metrics : List String)
    (metric : String) : Except PyError (Subplot × BenchmarkData) := do
  let (lines, s) ← drawAll (fun s dataset => let drawn := s.aggregatedLine metric dataset; pure (drawn.1.toList, drawn.2))
    datasets s
  pure (⟨metrics.indexOf metric + 1, "Aggregated " ++ metric, lines, metrics.getLast? = some metric⟩, s)

/-- `generate_plots(benchmark_data, output_dir)`: the figure of each metric,
the rows of `aggregated_comparison.png`, and the store after the reads. -/
def generatePlots (output : OutputDir) (s : BenchmarkData) (datasets : List DatasetLabel) (metrics : List String) :
    Except PyError ((List Figure × List Subplot) × BenchmarkData) := do
  let (figures, s) ← drawAll (fun s metric => (s.metricFigure output datasets metric).map fun drawn => ([drawn.1], drawn.2))
    metrics s
  let (rows, s) ← drawAll (fun s metric => (s.aggregatedSubplot datasets metrics metric).map fun drawn => ([drawn.1], drawn.2))
    metrics s
  output.savefig "aggregated_comparison.png"
  pure ((figures, rows), s)

end BenchmarkData

namespace Compare

/-- The loop building `all_releases`: `list(benchmark_data1.releases)`, then
each release of the second run that is not already in it. -/
def mergeReleases (first second : List String) : List String :=
  second.foldl (fun all release => if release ∈ all then all else all ++ [release]) first

/-- `get_metric_data_for_dataset` on one run's store in the loop over
`sorted(all_datasets)`, and the line `plt.plot` draws when both lists are
non-empty, labelled `f"{dataset} ({run_label})"`. -/
def runLine (runLabel : String) (s : BenchmarkData) (metric : String) (dataset : DatasetLabel) :
    Option Line × BenchmarkData :=
  let ((releases, values), s) := s.getMetricDataForDataset metric dataset
  if releases ≠ [] ∧ values ≠ [] then
    (some ⟨some (datasetText dataset ++ " (" ++ runLabel ++ ")"), releases, values, none⟩, s)
  else (none, s)

/-- The body of the loop over `sorted(all_datasets)`: the first run's line, then
the second run's, each read from its own store. -/
def comparisonLines (run1Label run2Label : String) (stores : BenchmarkData × BenchmarkData) (metric : String)
    (dataset : DatasetLabel) : List Line × (BenchmarkData × BenchmarkData) :=
  let first := runLine run1Label stores.1 metric dataset
  let second := runLine run2Label stores.2 metric dataset
  (first.1.toList ++ second.1.toList, (first.2, second.2))

/-- The figure of `metric`, saved as `{safe_metric_name}_comparison.png`. -/
def comparisonFigure (output : OutputDir) (run1Label run2Label : String) (datasets : List DatasetLabel)
    (stores : BenchmarkData × BenchmarkData) (metric : String) :
    Except PyError (Figure × (BenchmarkData × BenchmarkData)) := do
  let (lines, stores) ← drawAll (fun stores dataset => pure (comparisonLines run1Label run2Label stores metric dataset))
    datasets stores
  output.savefig (safeMetricName metric ++ "_comparison.png")
  pure (⟨safeMetricName metric ++ "_comparison.png", metric ++ " Over Time - Comparison", lines⟩, stores)

/-- `generate_comparison_plots(benchmark_data1, benchmark_data2, output_dir,
run1_label, run2_label)`: the axis `all_releases`, which no figure uses, the
figure of each metric of `sorted(all_metrics)`, and the two stores after the
reads; `datasets` is `sorted(all_datasets)`. -/
def generateComparisonPlots (output : OutputDir) (data1 data2 : BenchmarkData) (datasets : List DatasetLabel)
    (metrics : List String) (run1Label run2Label : String) :
    Except PyError (List String × List Figure × (BenchmarkData × BenchmarkData)) := do
  let allReleases := mergeReleases data1.releases data2.releases
  let (figures, stores) ← drawAll (fun stores metric =>
      (comparisonFigure output run1Label run2Label datasets stores metric).map fun drawn => ([drawn.1], drawn.2))
    metrics (data1, data2)
  pure (allReleases, figures, stores)

end Compare

end BenchmarkHistory
