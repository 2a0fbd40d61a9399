import BenchmarkHistory.Store

/-! `get_metric_data_for_dataset` and `detect_changes` of `visualize_benchmarks`.
The first reads `self.data[release]` for every release, which creates the
missing entries; the second walks the series of each dataset and metric. -/

namespace BenchmarkHistory

/-- `HIGHER_IS_BETTER` -/
def higherIsBetter : List String := ["QPS", "Recall@10"]

/-- `LOWER_IS_BETTER` -/
def lowerIsBetter : List String := ["Mean Latency", "Index Build Time"]

inductive Status
  | improvement
  | regression
  | unknown
  deriving DecidableEq, Repr

/-- One dict that `detect_changes` appends to `changes`. -/
structure ChangeRecord where
  dataset : DatasetLabel
  metric : String
  currentRelease : String
  previousRelease : String
  currentValue : PyFloat
  previousValue : PyFloat
  changePct : PyFloat
  status : Status
  deriving DecidableEq, Repr

/-- The status `detect_changes` gives a change of `changePct` percent in `metric`. -/
def statusOf (metric : String) (changePct : PyFloat) : Status :=
  if metric ∈ higherIsBetter then (if changePct > 0 then .improvement else .regression)
  else if metric ∈ lowerIsBetter then (if changePct < 0 then .improvement else .regression)
  else .unknown

/-- The body of `for i in range(1, len(releases))`, given the entries at `i - 1`
and `i` of the series; the percentage is computed in doubles, each operation
rounded. -/
def changeAt (dataset : DatasetLabel) (metric : String) (thresholdPercent : PyFloat)
    (previous current : String × PyFloat) : Option ChangeRecord :=
  if previous.2 = 0 then none
  else
    let changePct := (current.2 - previous.2) / previous.2 * 100
    if changePct.abs ≥ thresholdPercent then
      some { dataset, metric, currentRelease := current.1, previousRelease := previous.1,
             currentValue := current.2, previousValue := previous.2, changePct,
             status := statusOf metric changePct }
    else none

namespace BenchmarkData

/-- The body of `for release in self.releases` in `get_metric_data_for_dataset`. -/
def collectRelease (metric : String) (dataset : DatasetLabel) :
    (List String × List PyFloat) × BenchmarkData → String → (List String × List PyFloat) × BenchmarkData
  | ((releases, values), s), release =>
    let s := s.touch release
    match s.lookup release dataset metric with
    | some value => ((releases ++ [release], values ++ [value]), s)
    | none => ((releases, values), s)

/-- `get_metric_data_for_dataset(metric, dataset)`: the releases that carry a
value and the values, together with the store, in which the read
`self.data[release]` has created an entry for every release. -/
def getMetricDataForDataset (s : BenchmarkData) (metric : String) (dataset : DatasetLabel) :
    (List String × List PyFloat) × BenchmarkData :=
  s.releases.foldl (collectRelease metric dataset) (([], []), s)

/-- The body of `for metric in self.metrics` in `detect_changes`. -/
def detectMetric (thresholdPercent : PyFloat) (dataset : DatasetLabel) :
    List ChangeRecord × BenchmarkData → String → List ChangeRecord × BenchmarkData
  | (changes, s), metric =>
    let ((releases, values), s) := s.getMetricDataForDataset metric dataset
    let series := releases.zip values
    (changes ++ (series.zip series.tail).filterMap
      (fun pair => changeAt dataset metric thresholdPercent pair.1 pair.2), s)

/-- `detect_changes(threshold_percent)`, whose default threshold is `5.0`.
`datasets` and `metrics` are the orders in which Python enumerates the two sets. -/
def detectChanges (s : BenchmarkData) (thresholdPercent : PyFloat) (datasets : List DatasetLabel)
    (metrics : List String) : List ChangeRecord × BenchmarkData :=
  datasets.foldl (fun acc dataset => metrics.foldl (detectMetric thresholdPercent dataset) acc) ([], s)

/-- The series of `(release, value)` pairs that `get_metric_data_for_dataset`
returns as two lists. -/
def series (s : BenchmarkData) (metric : String) (dataset : DatasetLabel) : List (String × PyFloat) :=
  s.releases.filterMap fun release => (s.lookup release dataset metric).map (release, ·)

/-- The records `detect_changes` emits for one dataset and metric. -/
def seriesChanges (s : BenchmarkData) (thresholdPercent : PyFloat) (dataset : DatasetLabel)
    (metric : String) : List ChangeRecord :=
  let entries := s.series metric dataset
  (entries.zip entries.tail).filterMap fun pair => changeAt dataset metric thresholdPercent pair.1 pair.2

/-- Reads that create an entry for each release of a list, in turn. -/
def touchAll (s : BenchmarkData) (releases : List String) : BenchmarkData :=
  releases.foldl touch s

@[simp] theorem touchAll_nil (s : BenchmarkData) : s.touchAll [] = s := rfl

theorem touchAll_append (s : BenchmarkData) (first second : List String) :
    s.touchAll (first ++ second) = (s.touchAll first).touchAll second := by
  simp [touchAll]

@[simp] theorem lookup_touchAll (s : BenchmarkData) (releases : List String) :
    (s.touchAll releases).lookup = s.lookup := by
  induction releases generalizing s with
  | nil => rfl
  | cons release releases ih => exact (ih _).trans (lookup_touch s release)

theorem data_touchAll (s : BenchmarkData) (releases : List String) (release : String) :
    (s.touchAll releases).data release = if release ∈ releases then some (s.datasetValues release) else s.data release := by
  induction releases generalizing s with
  | nil => rfl
  | cons first releases ih =>
    have step : s.touchAll (first :: releases) = (s.touch first).touchAll releases := rfl
    rw [step, ih, datasetValues_touch, touch_data, Function.update_apply]
    by_cases here : release = first <;> simp [here]

@[simp] theorem datasetValues_touchAll (s : BenchmarkData) (releases : List String) :
    (s.touchAll releases).datasetValues = s.datasetValues := by
  induction releases generalizing s with
  | nil => rfl
  | cons release releases ih => exact (ih _).trans (datasetValues_touch s release)

@[simp] theorem releases_touchAll (s : BenchmarkData) (releases : List String) :
    (s.touchAll releases).releases = s.releases := by
  induction releases generalizing s with
  | nil => rfl
  | cons release releases ih => exact ih _

@[simp] theorem datasets_touchAll (s : BenchmarkData) (releases : List String) :
    (s.touchAll releases).datasets = s.datasets := by
  induction releases generalizing s with
  | nil => rfl
  | cons release releases ih => exact ih _

@[simp] theorem metrics_touchAll (s : BenchmarkData) (releases : List String) :
    (s.touchAll releases).metrics = s.metrics := by
  induction releases generalizing s with
  | nil => rfl
  | cons release releases ih => exact ih _

@[simp] theorem series_touchAll (s : BenchmarkData) (releases : List String) :
    (s.touchAll releases).series = s.series := by
  funext metric dataset; simp [series]

private theorem foldl_collectRelease (s : BenchmarkData) (metric : String) (dataset : DatasetLabel) :
    ∀ (pending releases : List String) (values : List PyFloat) (t : BenchmarkData), t.lookup = s.lookup →
      pending.foldl (collectRelease metric dataset) ((releases, values), t) =
        let entries := pending.filterMap fun release => (s.lookup release dataset metric).map (release, ·)
        ((releases ++ entries.map Prod.fst, values ++ entries.map Prod.snd), t.touchAll pending)
  | [], releases, values, t, _ => by simp
  | release :: pending, releases, values, t, lookups => by
    have touched : (t.touch release).lookup = s.lookup := by simp [lookups]
    rw [List.foldl_cons]
    cases found : s.lookup release dataset metric <;>
      simp [collectRelease, touched, found, foldl_collectRelease s metric dataset pending _ _ _ touched, touchAll]

/-- What `get_metric_data_for_dataset` returns and does to the store. -/
theorem getMetricDataForDataset_eq (s : BenchmarkData) (metric : String) (dataset : DatasetLabel) :
    s.getMetricDataForDataset metric dataset =
      (((s.series metric dataset).map Prod.fst, (s.series metric dataset).map Prod.snd),
        s.touchAll s.releases) := by
  simpa using foldl_collectRelease s metric dataset s.releases [] [] s rfl

private theorem zip_map_fst_snd {α β : Type} (l : List (α × β)) : (l.map Prod.fst).zip (l.map Prod.snd) = l := by
  simpa [List.unzip_eq_map] using List.zip_unzip l

private theorem foldl_detectMetric (s : BenchmarkData) (thresholdPercent : PyFloat) (dataset : DatasetLabel) :
    ∀ (metrics : List String) (changes : List ChangeRecord) (touched : List String),
      metrics.foldl (detectMetric thresholdPercent dataset) (changes, s.touchAll touched) =
        (changes ++ metrics.flatMap (s.seriesChanges thresholdPercent dataset),
          s.touchAll (touched ++ metrics.flatMap fun _ => s.releases))
  | [], changes, touched => by simp
  | metric :: metrics, changes, touched => by
    rw [List.foldl_cons]
    have step : detectMetric thresholdPercent dataset (changes, s.touchAll touched) metric =
        (changes ++ s.seriesChanges thresholdPercent dataset metric, s.touchAll (touched ++ s.releases)) := by
      simp [detectMetric, getMetricDataForDataset_eq, zip_map_fst_snd, seriesChanges, touchAll_append]
    rw [step, foldl_detectMetric s thresholdPercent dataset metrics]
    simp

/-- What `detect_changes` returns and does to the store: the records of each
dataset and metric in the order of enumeration, and one read of every release
per pair. -/
theorem detectChanges_eq (s : BenchmarkData) (thresholdPercent : PyFloat) (datasets : List DatasetLabel)
    (metrics : List String) :
    s.detectChanges thresholdPercent datasets metrics =
      (datasets.flatMap fun dataset => metrics.flatMap (s.seriesChanges thresholdPercent dataset),
        s.touchAll (datasets.flatMap fun _ => metrics.flatMap fun _ => s.releases)) := by
  suffices loop : ∀ (pending : List DatasetLabel) (changes : List ChangeRecord) (touched : List String),
      pending.foldl (fun acc dataset => metrics.foldl (detectMetric thresholdPercent dataset) acc)
          (changes, s.touchAll touched) =
        (changes ++ pending.flatMap fun dataset => metrics.flatMap (s.seriesChanges thresholdPercent dataset),
          s.touchAll (touched ++ pending.flatMap fun _ => metrics.flatMap fun _ => s.releases)) by
    simpa using loop datasets [] []
  intro pending
  induction pending with
  | nil => simp
  | cons dataset pending ih =>
    intro changes touched
    rw [List.foldl_cons, foldl_detectMetric, ih]
    simp

end BenchmarkData

end BenchmarkHistory
