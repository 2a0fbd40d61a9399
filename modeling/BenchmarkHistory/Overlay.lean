import BenchmarkHistory.Store

/-! Laying one store over another: what a load adds to a store, described by
the store the same load builds from nothing. Every operation `add_file`
performs commutes with laying its target over a fixed store. -/

namespace BenchmarkHistory.BenchmarkData

/-- `s` with `t` laid over it: `t`'s releases that `s` lacks appended in `t`'s
order, the sets joined, the entries of both present, and `t`'s values in place
of `s`'s. -/
def overlay (s t : BenchmarkData) : BenchmarkData where
  data release :=
    if (t.data release).isSome then
      some fun dataset =>
        if (t.datasetValues release dataset).isSome then
          some fun metric => (t.lookup release dataset metric).orElse fun _ => s.lookup release dataset metric
        else s.datasetValues release dataset
    else s.data release
  releases := s.releases ++ t.releases.filter (· ∉ s.releases)
  datasets := s.datasets ∪ t.datasets
  metrics := s.metrics ∪ t.metrics

variable (s t : BenchmarkData)

@[simp] theorem overlay_releases : (s.overlay t).releases = s.releases ++ t.releases.filter (· ∉ s.releases) :=
  rfl

@[simp] theorem overlay_datasets : (s.overlay t).datasets = s.datasets ∪ t.datasets := rfl

@[simp] theorem overlay_metrics : (s.overlay t).metrics = s.metrics ∪ t.metrics := rfl

theorem isSome_data_overlay (release : String) :
    ((s.overlay t).data release).isSome = ((t.data release).isSome || (s.data release).isSome) := by
  by_cases present : (t.data release).isSome <;> simp [overlay, present]

theorem datasetValues_overlay (release : String) (dataset : DatasetLabel) :
    (s.overlay t).datasetValues release dataset =
      if (t.datasetValues release dataset).isSome then
        some fun metric => (t.lookup release dataset metric).orElse fun _ => s.lookup release dataset metric
      else s.datasetValues release dataset := by
  by_cases present : (t.data release).isSome
  · simp [overlay, datasetValues, present]
  · simp only [Option.not_isSome_iff_eq_none] at present
    simp [overlay, datasetValues, present]

theorem isSome_datasetValues_overlay (release : String) (dataset : DatasetLabel) :
    ((s.overlay t).datasetValues release dataset).isSome =
      ((t.datasetValues release dataset).isSome || (s.datasetValues release dataset).isSome) := by
  rw [datasetValues_overlay]
  split <;> simp_all

@[simp] theorem lookup_overlay (release : String) (dataset : DatasetLabel) (metric : String) :
    (s.overlay t).lookup release dataset metric =
      (t.lookup release dataset metric).orElse fun _ => s.lookup release dataset metric := by
  unfold lookup metricValues
  rw [datasetValues_overlay]
  split
  · rfl
  · next absent => simp [Option.not_isSome_iff_eq_none.mp absent]

@[simp] theorem overlay_empty : s.overlay .empty = s := by
  ext1
  · funext release; simp [overlay, empty]
  · simp [empty]
  · simp [empty]
  · simp [empty]

theorem overlay_appendRelease (release : String) :
    s.overlay (t.appendRelease release) = (s.overlay t).appendRelease release := by
  ext1
  · simp [overlay, datasetValues]
  · simp only [overlay_releases, appendRelease_releases, List.mem_append, List.mem_filter]
    by_cases inT : release ∈ t.releases
    · by_cases inS : release ∈ s.releases <;> simp [inT, inS]
    · by_cases inS : release ∈ s.releases <;> simp [inT, inS, List.filter_append]
  · simp
  · simp

theorem overlay_addDataset (dataset : DatasetLabel) :
    s.overlay (t.addDataset dataset) = (s.overlay t).addDataset dataset := by
  ext1 <;> first | rfl | simp [Finset.union_insert]

theorem overlay_addMetric (metric : String) :
    s.overlay (t.addMetric metric) = (s.overlay t).addMetric metric := by
  ext1 <;> first | rfl | simp [Finset.union_insert]

theorem overlay_setValue (release : String) (dataset : DatasetLabel) (metric : String) (value : PyFloat) :
    s.overlay (t.setValue release dataset metric value) = (s.overlay t).setValue release dataset metric value := by
  ext1
  · apply data_eq_of_lookup
    · intro release'
      apply Bool.eq_iff_iff.mpr
      rw [isSome_data_overlay, isSome_data_setValue, Bool.or_eq_true, isSome_data_setValue,
        isSome_data_overlay, Bool.or_eq_true, or_assoc]
    · intro release' dataset'
      apply Bool.eq_iff_iff.mpr
      rw [isSome_datasetValues_overlay, Bool.or_eq_true, isSome_datasetValues_setValue,
        isSome_datasetValues_setValue, isSome_datasetValues_overlay, Bool.or_eq_true, or_assoc]
    · intro release' dataset' metric'
      simp only [lookup_overlay, lookup_setValue]
      split <;> simp
  all_goals rfl

/-- A loop whose body commutes with laying its state over `s` commutes with it too. -/
theorem forRaising_overlay {α : Type} (body : BenchmarkData → α → BenchmarkData × Option PyError)
    (commutes : ∀ t item, body (s.overlay t) item = (s.overlay (body t item).1, (body t item).2)) :
    ∀ (items : List α) (t : BenchmarkData),
      forRaising body (s.overlay t) items = (s.overlay (forRaising body t items).1, (forRaising body t items).2)
  | [], _ => rfl
  | item :: items, t => by
    rw [forRaising_cons, forRaising_cons, commutes]
    split
    · exact forRaising_overlay body commutes items _
    · rfl

end BenchmarkHistory.BenchmarkData
