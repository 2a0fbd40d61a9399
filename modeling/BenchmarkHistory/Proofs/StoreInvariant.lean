import BenchmarkHistory.Ingest
import BenchmarkHistory.Series

/-! The shape of a store after any sequence of method calls of either script,
`add_file` calls that fail or raise halfway through a file included. Every
write happens after its release and dataset are recorded, and a metric enters
the set together with its first value, so no exception can split them. -/

namespace BenchmarkHistory

/-- The two scripts; their stores differ only in `add_file`. -/
inductive Script
  | visualize
  | compare
  deriving DecidableEq, Repr

/-- The stores a script can hold: built from `__init__` by any sequence of its
method calls, including `add_file` calls that return `False` or raise. Only
`visualize_benchmarks` has `detect_changes`. -/
inductive Reachable (P : FloatParser) : Script → BenchmarkData → Prop
  | empty (script : Script) : Reachable P script .empty
  | visualizeAddFile {s : BenchmarkData} (file : CsvFile) (release : String) :
      Reachable P .visualize s → Reachable P .visualize (Visualize.addFile P s file release).1
  | compareAddFile {s : BenchmarkData} (file : CsvFile) (release : String) :
      Reachable P .compare s → Reachable P .compare (Compare.addFile P s file release).1
  | getMetricDataForDataset {script : Script} {s : BenchmarkData} (metric : String)
      (dataset : DatasetLabel) :
      Reachable P script s → Reachable P script (s.getMetricDataForDataset metric dataset).2
  | detectChanges {s : BenchmarkData} (thresholdPercent : PyFloat) (datasets : List DatasetLabel)
      (metrics : List String) :
      Reachable P .visualize s → Reachable P .visualize (s.detectChanges thresholdPercent datasets metrics).2

namespace Proofs.StoreInvariant
open BenchmarkData

/-- No release twice, every key of `data` a recorded release, every dataset
key a recorded dataset, `metrics` exactly the metric keys, and no dataset entry
without a value: the reads that create entries create release entries only. -/
structure Inv (s : BenchmarkData) : Prop where
  nodup : s.releases.Nodup
  releaseKeys : ∀ release, (s.data release).isSome → release ∈ s.releases
  datasetKeys : ∀ release dataset, (s.datasetValues release dataset).isSome → dataset ∈ s.datasets
  metricKeys : ∀ metric, metric ∈ s.metrics ↔ ∃ release dataset, (s.lookup release dataset metric).isSome
  valued : ∀ release dataset, (s.datasetValues release dataset).isSome →
    ∃ metric, (s.lookup release dataset metric).isSome

theorem inv_empty : Inv .empty where
  nodup := List.nodup_nil
  releaseKeys _ present := by simp [empty] at present
  datasetKeys _ _ present := by simp [empty, datasetValues] at present
  metricKeys _ := by simp [empty, lookup, metricValues, datasetValues]
  valued _ _ present := by simp [empty, datasetValues] at present

variable {s : BenchmarkData}

theorem inv_appendRelease (valid : Inv s) (release : String) : Inv (s.appendRelease release) where
  nodup := nodup_appendRelease release valid.nodup
  releaseKeys other present := (mem_appendRelease s release other).mpr
    (.inl (valid.releaseKeys other (by simpa using present)))
  datasetKeys := by simpa [datasetValues] using valid.datasetKeys
  metricKeys := by simpa using valid.metricKeys
  valued := by simpa [datasetValues] using valid.valued

theorem inv_addDataset (valid : Inv s) (dataset : DatasetLabel) : Inv (s.addDataset dataset) where
  nodup := valid.nodup
  releaseKeys := valid.releaseKeys
  datasetKeys release other present := Finset.mem_insert_of_mem (valid.datasetKeys release other present)
  metricKeys := valid.metricKeys
  valued := valid.valued

theorem inv_store (valid : Inv s) {release : String} {dataset : DatasetLabel}
    (recorded : release ∈ s.releases) (known : dataset ∈ s.datasets) (metric : String) (value : PyFloat) :
    Inv ((s.addMetric metric).setValue release dataset metric value) where
  nodup := valid.nodup
  releaseKeys other present := by
    rcases (isSome_data_setValue _ _ _ _ _ _).mp present with rfl | old
    · exact recorded
    · exact valid.releaseKeys other old
  datasetKeys other label present := by
    rcases (isSome_datasetValues_setValue _ _ _ _ _ _ _).mp present with ⟨-, rfl⟩ | old
    · exact known
    · exact valid.datasetKeys other label old
  metricKeys other := by
    simp only [setValue_metrics, addMetric_metrics, Finset.mem_insert, valid.metricKeys,
      lookup_setValue, lookup_addMetric]
    constructor
    · rintro (rfl | ⟨release', dataset', found⟩)
      · exact ⟨release, dataset, by simp⟩
      · exact ⟨release', dataset', by split <;> simp_all⟩
    · rintro ⟨release', dataset', found⟩
      split at found
      · exact .inl ‹_ ∧ _ ∧ _›.2.2
      · exact .inr ⟨release', dataset', found⟩
  valued other label present := by
    rcases (isSome_datasetValues_setValue _ _ _ _ _ _ _).mp present with ⟨rfl, rfl⟩ | old
    · exact ⟨metric, by simp [lookup_setValue]⟩
    · obtain ⟨other', found⟩ := valid.valued other label old
      exact ⟨other', by rw [lookup_setValue]; split; exacts [rfl, found]⟩

theorem inv_touch (valid : Inv s) {release : String} (recorded : release ∈ s.releases) :
    Inv (s.touch release) where
  nodup := valid.nodup
  releaseKeys other present := by
    rcases (isSome_data_touch _ _ _).mp present with rfl | old
    · exact recorded
    · exact valid.releaseKeys other old
  datasetKeys := by simpa using valid.datasetKeys
  metricKeys := by simpa using valid.metricKeys
  valued := by simpa using valid.valued

theorem inv_touchAll (valid : Inv s) {releases : List String}
    (recorded : ∀ release ∈ releases, release ∈ s.releases) : Inv (s.touchAll releases) := by
  induction releases generalizing s with
  | nil => exact valid
  | cons release releases ih =>
    exact ih (inv_touch valid (recorded release (List.mem_cons_self _ _)))
      (fun other member => recorded other (List.mem_cons_of_mem _ member))

variable (P : FloatParser)

/-- The invariant while a file is read under `release`. -/
def Ready (release : String) (s : BenchmarkData) : Prop := Inv s ∧ release ∈ s.releases

/-- The invariant while a row of dataset `dataset` is read under `release`. -/
def InRow (release : String) (dataset : DatasetLabel) (s : BenchmarkData) : Prop :=
  Ready release s ∧ dataset ∈ s.datasets

theorem ready_appendRelease (valid : Inv s) (release : String) : Ready release (s.appendRelease release) :=
  ⟨inv_appendRelease valid release, (mem_appendRelease s release release).mpr (.inr rfl)⟩

theorem inRow_addDataset {release : String} (ready : Ready release s) (dataset : DatasetLabel) :
    InRow release dataset (s.addDataset dataset) :=
  ⟨⟨inv_addDataset ready.1 dataset, ready.2⟩, Finset.mem_insert_self _ _⟩

theorem inRow_store {release : String} {dataset : DatasetLabel} (row : InRow release dataset s)
    (metric : String) (value : PyFloat) :
    InRow release dataset ((s.addMetric metric).setValue release dataset metric value) :=
  ⟨⟨inv_store row.1.1 row.1.2 row.2 metric value, row.1.2⟩, row.2⟩

theorem visualize_addCell {release : String} {dataset : DatasetLabel} (row : InRow release dataset s)
    (cell : String × Option String) : InRow release dataset (Visualize.addCell P release dataset s cell).1 := by
  rw [Visualize.addCell_eq]
  cases Visualize.cellNumber P cell
  · exact row
  · exact inRow_store row cell.1 _

theorem compare_addCell {release : String} {dataset : String} (row : InRow release (some dataset) s)
    (cell : String × Option String) : InRow release (some dataset) (Compare.addCell P release dataset s cell).1 := by
  rw [Compare.addCell_eq]
  cases Compare.cellNumber P cell
  · exact row
  · exact inRow_store row cell.1 _

theorem visualize_addRow {release : String} (ready : Ready release s) (row : Row) :
    Ready release (Visualize.addRow P release s row).1 := by
  unfold Visualize.addRow
  split
  · exact ready
  · next dataset _ =>
    exact (forRaising_invariant _ (InRow release dataset) (fun _ _ inRow => visualize_addCell P inRow _)
      _ _ (inRow_addDataset ready _)).1

theorem compare_addRow {release : String} (ready : Ready release s) (row : Row) :
    Ready release (Compare.addRow P release s row).1 := by
  unfold Compare.addRow
  split
  · exact ready
  · split
    · exact ready
    · next name _ _ =>
      exact (forRaising_invariant _ (InRow release (some name)) (fun _ _ inRow => compare_addCell P inRow _)
        _ _ (inRow_addDataset ready _)).1

theorem inv_visualize_addFile (valid : Inv s) (file : CsvFile) (release : String) :
    Inv (Visualize.addFile P s file release).1 :=
  (forRaising_invariant _ (Ready release) (fun _ _ ready => visualize_addRow P ready _) _ _
    (ready_appendRelease valid release)).1

theorem inv_compare_addFile (valid : Inv s) (file : CsvFile) (release : String) :
    Inv (Compare.addFile P s file release).1 :=
  (forRaising_invariant _ (Ready release) (fun _ _ ready => compare_addRow P ready _) _ _
    (ready_appendRelease valid release)).1

theorem inv_getMetricDataForDataset (valid : Inv s) (metric : String) (dataset : DatasetLabel) :
    Inv (s.getMetricDataForDataset metric dataset).2 := by
  rw [getMetricDataForDataset_eq]
  exact inv_touchAll valid fun _ member => member

theorem inv_detectChanges (valid : Inv s) (thresholdPercent : PyFloat) (datasets : List DatasetLabel)
    (metrics : List String) : Inv (s.detectChanges thresholdPercent datasets metrics).2 := by
  rw [detectChanges_eq]
  exact inv_touchAll valid fun _ member => by simp_all

/-- Every store either script can reach keeps the invariant. -/
theorem reachable_inv {script : Script} {s : BenchmarkData} (reachable : Reachable P script s) : Inv s := by
  induction reachable with
  | empty => exact inv_empty
  | visualizeAddFile file release _ ih => exact inv_visualize_addFile P ih file release
  | compareAddFile file release _ ih => exact inv_compare_addFile P ih file release
  | getMetricDataForDataset metric dataset _ ih => exact inv_getMetricDataForDataset ih metric dataset
  | detectChanges thresholdPercent datasets metrics _ ih => exact inv_detectChanges ih _ _ _

/-- The shape of every reachable store of either script. -/
theorem reachable_store_shape {script : Script} {s : BenchmarkData} (reachable : Reachable P script s) :
    s.releases.Nodup ∧ (∀ release, (s.data release).isSome → release ∈ s.releases) ∧
      (∀ release dataset, (s.datasetValues release dataset).isSome → dataset ∈ s.datasets) ∧
      ∀ metric, metric ∈ s.metrics ↔ ∃ release dataset, (s.lookup release dataset metric).isSome :=
  let valid := reachable_inv P reachable
  ⟨valid.nodup, valid.releaseKeys, valid.datasetKeys, valid.metricKeys⟩

/-- A `compare_benchmark_iterations` store whose `add_file` raised on the short
row `b` after storing the row `a`, then read back. -/
def raisedLoad : BenchmarkData :=
  ((Compare.addFile integerFloat .empty ⟨[["dataset", "QPS"], ["a", "1"], ["b"]], false⟩ "1.0").1
    |>.getMetricDataForDataset "QPS" (some "a")).2

theorem reachable_store_shape_raisedLoad :
    Reachable integerFloat .compare raisedLoad ∧
      (raisedLoad.releases.Nodup ∧ (∀ release, (raisedLoad.data release).isSome → release ∈ raisedLoad.releases) ∧
        (∀ release dataset, (raisedLoad.datasetValues release dataset).isSome → dataset ∈ raisedLoad.datasets) ∧
        ∀ metric, metric ∈ raisedLoad.metrics ↔
          ∃ release dataset, (raisedLoad.lookup release dataset metric).isSome) :=
  have reachable : Reachable integerFloat .compare raisedLoad :=
    .getMetricDataForDataset _ _ (.compareAddFile _ _ (.empty _))
  ⟨reachable, reachable_store_shape integerFloat reachable⟩

end Proofs.StoreInvariant

end BenchmarkHistory
