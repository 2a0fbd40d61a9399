import BenchmarkHistory.Series

/-! What `get_metric_data_for_dataset` returns and what it does to the store;
both scripts define it alike. The two lists are the releases that hold a value
for the dataset and metric, in the order of `releases`, and those values. The
read `self.data[release]` adds an empty entry for a release that had none and
changes nothing else. -/

namespace BenchmarkHistory.Proofs.MetricSeries
open BenchmarkData

theorem map_fst_filterMap {α β : Type} (f : α → Option β) (l : List α) :
    (l.filterMap fun a => (f a).map (a, ·)).map Prod.fst = l.filter fun a => (f a).isSome := by
  induction l with
  | nil => rfl
  | cons a l ih => cases found : f a <;> simp [List.filterMap_cons, List.filter_cons, found, ih]

theorem lookup_of_mem_series {s : BenchmarkData} {metric : String} {dataset : DatasetLabel}
    {entry : String × PyFloat} (member : entry ∈ s.series metric dataset) :
    s.lookup entry.1 dataset metric = some entry.2 := by
  obtain ⟨release, -, found⟩ := List.mem_filterMap.mp member
  obtain ⟨value, stored, rfl⟩ := Option.map_eq_some'.mp found
  exact stored

/-- The only entries that reads change are those of releases read that had
none, and each becomes empty. -/
theorem data_touchAll_of_ne {s : BenchmarkData} {releases : List String} {release : String}
    (changed : (s.touchAll releases).data release ≠ s.data release) :
    release ∈ releases ∧ s.data release = none ∧ (s.touchAll releases).data release = some fun _ => none := by
  rw [data_touchAll] at changed ⊢
  split at changed
  · next read =>
    cases entry : s.data release
    · simp [read, datasetValues, entry]
    · simp [datasetValues, entry] at changed
  · exact absurd rfl changed

/-- For every store of either script, `get_metric_data_for_dataset(metric,
dataset)` returns the releases, in order, whose `data[release][dataset][metric]`
exists, and the value of each; and it changes no release, dataset, metric,
dataset entry or value, its reads adding only empty entries for releases of the
list. -/
theorem getMetricDataForDataset_series_and_frame (s : BenchmarkData) (metric : String) (dataset : DatasetLabel) :
    let releases := (s.getMetricDataForDataset metric dataset).1.1
    let values := (s.getMetricDataForDataset metric dataset).1.2
    let t := (s.getMetricDataForDataset metric dataset).2
    releases = s.releases.filter (fun release => (s.lookup release dataset metric).isSome) ∧
      values.length = releases.length ∧
      (∀ i (inValues : i < values.length) (inReleases : i < releases.length),
        s.lookup releases[i] dataset metric = some values[i]) ∧
      t.releases = s.releases ∧ t.datasets = s.datasets ∧ t.metrics = s.metrics ∧
      (∀ release label, (t.datasetValues release label).isSome ↔ (s.datasetValues release label).isSome) ∧
      (∀ release label name, t.lookup release label name = s.lookup release label name) ∧
      ∀ release, t.data release ≠ s.data release →
        release ∈ s.releases ∧ s.data release = none ∧ t.data release = some fun _ => none := by
  dsimp only
  rw [getMetricDataForDataset_eq]
  refine ⟨map_fst_filterMap _ _, by simp, fun i _ _ => ?_, by simp, by simp, by simp, by simp, by simp,
    fun release => data_touchAll_of_ne⟩
  rw [List.getElem_map, List.getElem_map]
  exact lookup_of_mem_series (List.getElem_mem _)

end BenchmarkHistory.Proofs.MetricSeries
