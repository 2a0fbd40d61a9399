import BenchmarkHistory.Python
import Mathlib.Data.Finset.Basic
import Mathlib.Logic.Function.Basic

/-! The class `BenchmarkData` that both scripts define with the same layout,
with the operations on it that their methods perform. The nested `defaultdict`
is a partial map per level; a read that creates a missing entry is `touch`. -/

namespace BenchmarkHistory

/-- A dataset label as a script holds it: the text of a row's dataset cell, or
`none` for Python's `None`, which a short row gives `visualize_benchmarks`. -/
abbrev DatasetLabel := Option String

abbrev MetricValues := String → Option PyFloat

abbrev DatasetValues := DatasetLabel → Option MetricValues

/-- `{release: {dataset: {metric: value}}}` with the release list and the two sets. -/
@[ext]
structure BenchmarkData where
  data : String → Option DatasetValues
  releases : List String
  datasets : Finset DatasetLabel
  metrics : Finset String

namespace BenchmarkData

/-- `__init__` -/
def empty : BenchmarkData := ⟨fun _ => none, [], ∅, ∅⟩

/-- `self.data[release]`, empty when the key is absent. -/
def datasetValues (s : BenchmarkData) (release : String) : DatasetValues :=
  (s.data release).getD fun _ => none

/-- `self.data[release][dataset]`, empty when a key is absent. -/
def metricValues (s : BenchmarkData) (release : String) (dataset : DatasetLabel) : MetricValues :=
  (s.datasetValues release dataset).getD fun _ => none

/-- `self.data[release][dataset][metric]` when all three keys are present. -/
def lookup (s : BenchmarkData) (release : String) (dataset : DatasetLabel) (metric : String) :
    Option PyFloat :=
  s.metricValues release dataset metric

/-- `if release not in self.releases: self.releases.append(release)` -/
def appendRelease (s : BenchmarkData) (release : String) : BenchmarkData :=
  if release ∈ s.releases then s else { s with releases := s.releases ++ [release] }

/-- `self.datasets.add(dataset)` -/
@[simps]
def addDataset (s : BenchmarkData) (dataset : DatasetLabel) : BenchmarkData :=
  { s with datasets := insert dataset s.datasets }

/-- `self.metrics.add(metric)` -/
@[simps]
def addMetric (s : BenchmarkData) (metric : String) : BenchmarkData :=
  { s with metrics := insert metric s.metrics }

/-- `self.data[release][dataset][metric] = value`; the two reads on the left
create the release and dataset entries when they are absent. -/
@[simps]
def setValue (s : BenchmarkData) (release : String) (dataset : DatasetLabel) (metric : String)
    (value : PyFloat) : BenchmarkData :=
  { s with data := Function.update s.data release (some (Function.update (s.datasetValues release)
      dataset (some (Function.update (s.metricValues release dataset) metric (some value))))) }

/-- The read `self.data[release]`, which creates an empty entry when absent. -/
@[simps]
def touch (s : BenchmarkData) (release : String) : BenchmarkData :=
  { s with data := Function.update s.data release (some (s.datasetValues release)) }

@[simp] theorem appendRelease_data (s : BenchmarkData) (release : String) :
    (s.appendRelease release).data = s.data := by
  unfold appendRelease; split <;> rfl

@[simp] theorem appendRelease_datasets (s : BenchmarkData) (release : String) :
    (s.appendRelease release).datasets = s.datasets := by
  unfold appendRelease; split <;> rfl

@[simp] theorem appendRelease_metrics (s : BenchmarkData) (release : String) :
    (s.appendRelease release).metrics = s.metrics := by
  unfold appendRelease; split <;> rfl

theorem appendRelease_releases (s : BenchmarkData) (release : String) :
    (s.appendRelease release).releases =
      if release ∈ s.releases then s.releases else s.releases ++ [release] := by
  unfold appendRelease; split <;> rfl

theorem mem_appendRelease (s : BenchmarkData) (release other : String) :
    other ∈ (s.appendRelease release).releases ↔ other ∈ s.releases ∨ other = release := by
  rw [appendRelease_releases]
  split <;> simp_all [or_iff_left_of_imp]

theorem nodup_appendRelease {s : BenchmarkData} (release : String) (nodup : s.releases.Nodup) :
    (s.appendRelease release).releases.Nodup := by
  rw [appendRelease_releases]
  split
  · exact nodup
  · exact nodup.append (List.nodup_singleton _) (List.disjoint_singleton.mpr ‹_›)

@[simp] theorem datasetValues_touch (s : BenchmarkData) (release : String) :
    (s.touch release).datasetValues = s.datasetValues := by
  funext other
  by_cases same : other = release
  · subst same; simp [datasetValues]
  · simp [datasetValues, same]

@[simp] theorem lookup_touch (s : BenchmarkData) (release : String) :
    (s.touch release).lookup = s.lookup := by
  funext; simp [lookup, metricValues]

@[simp] theorem lookup_appendRelease (s : BenchmarkData) (release : String) :
    (s.appendRelease release).lookup = s.lookup := by
  funext; simp [lookup, metricValues, datasetValues]

@[simp] theorem lookup_addDataset (s : BenchmarkData) (dataset : DatasetLabel) :
    (s.addDataset dataset).lookup = s.lookup := rfl

@[simp] theorem lookup_addMetric (s : BenchmarkData) (metric : String) :
    (s.addMetric metric).lookup = s.lookup := rfl

theorem lookup_setValue (s : BenchmarkData) (release : String) (dataset : DatasetLabel)
    (metric : String) (value : PyFloat) (release' : String) (dataset' : DatasetLabel) (metric' : String) :
    (s.setValue release dataset metric value).lookup release' dataset' metric' =
      if release' = release ∧ dataset' = dataset ∧ metric' = metric then some value
      else s.lookup release' dataset' metric' := by
  by_cases r : release' = release
  · subst r
    by_cases d : dataset' = dataset
    · subst d
      by_cases m : metric' = metric
      · subst m; simp [lookup, metricValues, datasetValues]
      · simp [lookup, metricValues, datasetValues, m]
    · simp [lookup, metricValues, datasetValues, d]
  · simp [lookup, metricValues, datasetValues, r]

theorem isSome_data_setValue (s : BenchmarkData) (release : String) (dataset : DatasetLabel)
    (metric : String) (value : PyFloat) (release' : String) :
    ((s.setValue release dataset metric value).data release').isSome ↔
      release' = release ∨ (s.data release').isSome := by
  by_cases r : release' = release <;> simp [Function.update_apply, r]

theorem isSome_datasetValues_setValue (s : BenchmarkData) (release : String) (dataset : DatasetLabel)
    (metric : String) (value : PyFloat) (release' : String) (dataset' : DatasetLabel) :
    ((s.setValue release dataset metric value).datasetValues release' dataset').isSome ↔
      release' = release ∧ dataset' = dataset ∨ (s.datasetValues release' dataset').isSome := by
  by_cases r : release' = release
  · subst r
    by_cases d : dataset' = dataset <;> simp [datasetValues, Function.update_apply, d]
  · simp [datasetValues, Function.update_apply, r]

theorem isSome_data_touch (s : BenchmarkData) (release release' : String) :
    ((s.touch release).data release').isSome ↔ release' = release ∨ (s.data release').isSome := by
  by_cases r : release' = release <;> simp [Function.update_apply, r]

theorem data_eq_of_lookup {s t : BenchmarkData}
    (releases : ∀ release, (s.data release).isSome = (t.data release).isSome)
    (datasets : ∀ release dataset,
      (s.datasetValues release dataset).isSome = (t.datasetValues release dataset).isSome)
    (lookups : ∀ release dataset metric, s.lookup release dataset metric = t.lookup release dataset metric) :
    s.data = t.data := by
  have entries : ∀ {α : Type} {a b : Option α}, a.isSome = b.isSome → (∀ x y, a = some x → b = some y → x = y) →
      a = b := fun {α a b} same values => by
    cases a <;> cases b <;> simp_all
  funext release
  refine entries (releases release) fun sValues tValues sData tData => funext fun dataset => ?_
  refine entries (by simpa [datasetValues, sData, tData] using datasets release dataset)
    fun sMetrics tMetrics sFound tFound => funext fun metric => ?_
  simpa [lookup, metricValues, datasetValues, sData, tData, sFound, tFound] using lookups release dataset metric

end BenchmarkData

end BenchmarkHistory
