import BenchmarkHistory.Proofs.StoreInvariant
import BenchmarkHistory.Proofs.Rounding
import Mathlib.Data.List.Nodup

/-! `detect_changes` emits one record for each pair of consecutive valued
releases of a dataset and metric whose percentage, computed in doubles,
reaches the threshold, and nothing else, whatever order Python enumerates the
two sets in. Consecutive entries of the filtered series are releases with no
valued release between them; a record is told apart from every other by its
releases, so a store without repeated releases gives no record twice. Rounding
can put a change of exactly the threshold below it. The percentage has the sign
of the exact one, so the status of a record follows the direction of its values
when the previous value is positive, and is reversed when it is negative. -/

namespace BenchmarkHistory.Proofs.Changes
open BenchmarkData StoreInvariant PyFloat Rounding

/-- `list` enumerates `set`: every element once, in some order. -/
def IsEnumeration {α : Type} (list : List α) (set : Finset α) : Prop := (list : Multiset α) = set.val

theorem IsEnumeration.nodup {α : Type} {list : List α} {set : Finset α} (order : IsEnumeration list set) :
    list.Nodup := by
  rw [← Multiset.coe_nodup, order]
  exact set.nodup

theorem IsEnumeration.mem_iff {α : Type} {list : List α} {set : Finset α} (order : IsEnumeration list set)
    {a : α} : a ∈ list ↔ a ∈ set := by
  rw [← Multiset.mem_coe, order, Finset.mem_val]

/-- `previous` and `current` are releases of the store in this order, and no
release between them carries a value for the dataset and metric. -/
def Consecutive (s : BenchmarkData) (dataset : DatasetLabel) (metric : String) (previous current : String) :
    Prop :=
  ∃ before between after, s.releases = before ++ previous :: between ++ current :: after ∧
    ∀ release ∈ between, s.lookup release dataset metric = none

/-- What a record says of the store: its two releases are consecutive valued
releases holding its two values, the previous one not `0`, its percentage is
`(current - previous) / previous * 100` computed in doubles and at least the
threshold in size, and its status is read off the sign of the percentage for
the metrics of the two ranked lists. -/
def Expected (s : BenchmarkData) (thresholdPercent : PyFloat) (x : ChangeRecord) : Prop :=
  Consecutive s x.dataset x.metric x.previousRelease x.currentRelease ∧
  s.lookup x.previousRelease x.dataset x.metric = some x.previousValue ∧
  s.lookup x.currentRelease x.dataset x.metric = some x.currentValue ∧
  x.previousValue ≠ 0 ∧
  x.changePct = (x.currentValue - x.previousValue) / x.previousValue * 100 ∧
  thresholdPercent ≤ x.changePct.abs ∧
  x.status =
    if x.metric ∈ higherIsBetter then (if 0 < x.changePct then .improvement else .regression)
    else if x.metric ∈ lowerIsBetter then (if x.changePct < 0 then .improvement else .regression)
    else .unknown

section Lists
variable {α β : Type}

theorem mem_zip_tail {l : List α} {first second : α} :
    (first, second) ∈ l.zip l.tail ↔ ∃ before after, l = before ++ first :: second :: after := by
  induction l with
  | nil => simp
  | cons head rest ih =>
    cases rest with
    | nil => simp [List.cons_eq_append_iff]
    | cons next rest =>
      simp only [List.tail_cons, List.zip_cons_cons, List.mem_cons, Prod.mk.injEq] at ih ⊢
      rw [ih]
      constructor
      · rintro (⟨rfl, rfl⟩ | ⟨before, after, split⟩)
        · exact ⟨[], rest, rfl⟩
        · exact ⟨head :: before, after, by rw [split]; rfl⟩
      · rintro ⟨_ | ⟨_, before⟩, after, split⟩
        · simp only [List.nil_append, List.cons.injEq] at split
          exact .inl ⟨split.1.symm, split.2.1.symm⟩
        · exact .inr ⟨before, after, (List.cons.inj split).2⟩

theorem consecutive_filterMap {f : α → Option β} {l : List α} {first second : β} :
    (∃ before after, l.filterMap f = before ++ first :: second :: after) ↔
      ∃ before a between b after, l = before ++ a :: between ++ b :: after ∧
        f a = some first ∧ f b = some second ∧ ∀ x ∈ between, f x = none := by
  constructor
  · rintro ⟨before, after, split⟩
    obtain ⟨kept, rest, rfl, -, tail⟩ := List.filterMap_eq_append_iff.mp split
    obtain ⟨skipped, a, rest, rfl, dropped, kept₁, tail⟩ := List.filterMap_eq_cons_iff.mp tail
    obtain ⟨between, b, after, rfl, gap, kept₂, -⟩ := List.filterMap_eq_cons_iff.mp tail
    exact ⟨kept ++ skipped, a, between, b, after, by simp, kept₁, kept₂, gap⟩
  · rintro ⟨before, a, between, b, after, rfl, kept₁, kept₂, gap⟩
    exact ⟨before.filterMap f, after.filterMap f, by
      simp [List.filterMap_append, kept₁, kept₂, List.filterMap_eq_nil_iff.mpr gap]⟩

theorem nodup_zip_tail {l : List α} (nodup : l.Nodup) : (l.zip l.tail).Nodup := by
  induction l with
  | nil => simp
  | cons head rest ih =>
    cases rest with
    | nil => simp
    | cons next rest =>
      simp only [List.tail_cons, List.zip_cons_cons] at ih ⊢
      exact List.nodup_cons.mpr ⟨fun member => (List.nodup_cons.mp nodup).1 (List.of_mem_zip member).1,
        ih nodup.of_cons⟩

end Lists

theorem changeAt_eq_some {dataset : DatasetLabel} {metric : String} {thresholdPercent : PyFloat}
    {previous current : String × PyFloat} {x : ChangeRecord} :
    changeAt dataset metric thresholdPercent previous current = some x ↔
      previous.2 ≠ 0 ∧ thresholdPercent ≤ ((current.2 - previous.2) / previous.2 * 100).abs ∧
      x = { dataset, metric, currentRelease := current.1, previousRelease := previous.1,
            currentValue := current.2, previousValue := previous.2,
            changePct := (current.2 - previous.2) / previous.2 * 100,
            status := statusOf metric ((current.2 - previous.2) / previous.2 * 100) } := by
  unfold changeAt
  by_cases zero : previous.2 = 0
  · simp [zero]
  · simp [zero, eq_comm]

theorem nodup_series {s : BenchmarkData} (nodup : s.releases.Nodup) (metric : String) (dataset : DatasetLabel) :
    (s.series metric dataset).Nodup :=
  nodup.filterMap fun release release' entry found found' => by
    simp only [Option.mem_def, Option.map_eq_some'] at found found'
    obtain ⟨_, -, rfl⟩ := found
    obtain ⟨_, -, same⟩ := found'
    exact (Prod.mk.inj same).1.symm

theorem mem_seriesChanges {s : BenchmarkData} {thresholdPercent : PyFloat} {dataset : DatasetLabel}
    {metric : String} {x : ChangeRecord} :
    x ∈ s.seriesChanges thresholdPercent dataset metric ↔
      x.dataset = dataset ∧ x.metric = metric ∧ Expected s thresholdPercent x := by
  simp only [seriesChanges, List.mem_filterMap, Prod.exists]
  constructor
  · rintro ⟨previous, a, current, b, pair, found⟩
    obtain ⟨before, _, between, _, after, split, kept₁, kept₂, gap⟩ :=
      consecutive_filterMap.mp (mem_zip_tail.mp pair)
    obtain ⟨nonzero, significant, rfl⟩ := changeAt_eq_some.mp found
    simp only [Option.map_eq_some', Prod.mk.injEq, Option.map_eq_none'] at kept₁ kept₂ gap
    obtain ⟨_, found₁, rfl, rfl⟩ := kept₁
    obtain ⟨_, found₂, rfl, rfl⟩ := kept₂
    exact ⟨rfl, rfl, ⟨before, between, after, split, gap⟩, found₁, found₂, nonzero, rfl, significant, rfl⟩
  · rintro ⟨rfl, rfl, ⟨before, between, after, split, gap⟩, found₁, found₂, nonzero, percent, significant,
      status⟩
    refine ⟨x.previousRelease, x.previousValue, x.currentRelease, x.currentValue,
      mem_zip_tail.mpr (consecutive_filterMap.mpr ⟨before, _, between, _, after, split, by simp [found₁],
        by simp [found₂], fun release member => by simp [gap release member]⟩),
      changeAt_eq_some.mpr ⟨nonzero, percent ▸ significant, ?_⟩⟩
    cases x
    dsimp only at percent status ⊢
    rw [← percent, status, statusOf]

theorem nodup_seriesChanges {s : BenchmarkData} (nodup : s.releases.Nodup) (thresholdPercent : PyFloat)
    (dataset : DatasetLabel) (metric : String) : (s.seriesChanges thresholdPercent dataset metric).Nodup := by
  refine (nodup_zip_tail (nodup_series nodup metric dataset)).filterMap fun pair pair' x found found' => ?_
  obtain ⟨-, -, rfl⟩ := changeAt_eq_some.mp found
  obtain ⟨-, -, same⟩ := changeAt_eq_some.mp found'
  simp only [ChangeRecord.mk.injEq] at same
  obtain ⟨-, -, current, previous, currentValue, previousValue, -⟩ := same
  exact Prod.ext (Prod.ext previous previousValue) (Prod.ext current currentValue)

theorem mem_detectChanges {s : BenchmarkData} {thresholdPercent : PyFloat} {datasets : List DatasetLabel}
    {metrics : List String} {x : ChangeRecord} :
    x ∈ (s.detectChanges thresholdPercent datasets metrics).1 ↔
      x.dataset ∈ datasets ∧ x.metric ∈ metrics ∧ Expected s thresholdPercent x := by
  simp only [detectChanges_eq, List.mem_flatMap, mem_seriesChanges]
  constructor
  · rintro ⟨_, inDatasets, _, inMetrics, rfl, rfl, expected⟩
    exact ⟨inDatasets, inMetrics, expected⟩
  · rintro ⟨inDatasets, inMetrics, expected⟩
    exact ⟨_, inDatasets, _, inMetrics, rfl, rfl, expected⟩

theorem nodup_detectChanges {s : BenchmarkData} (nodup : s.releases.Nodup) (thresholdPercent : PyFloat)
    {datasets : List DatasetLabel} {metrics : List String} (datasetsOnce : datasets.Nodup)
    (metricsOnce : metrics.Nodup) : (s.detectChanges thresholdPercent datasets metrics).1.Nodup := by
  rw [detectChanges_eq, List.nodup_flatMap]
  refine ⟨fun dataset _ => List.nodup_flatMap.mpr ⟨fun metric _ => nodup_seriesChanges nodup _ _ _, ?_⟩, ?_⟩
  · refine metricsOnce.imp fun different x first second => different ?_
    exact (mem_seriesChanges.mp first).2.1.symm.trans (mem_seriesChanges.mp second).2.1
  · refine datasetsOnce.imp fun different x first second => different ?_
    obtain ⟨_, _, first⟩ := List.mem_flatMap.mp first
    obtain ⟨_, _, second⟩ := List.mem_flatMap.mp second
    exact (mem_seriesChanges.mp first).1.symm.trans (mem_seriesChanges.mp second).1

/-- For every reachable store of `visualize_benchmarks`, every threshold and
every enumeration of its two sets, `detect_changes` emits each expected record
exactly once and nothing else. -/
theorem detectChanges_exactly {P : FloatParser} {s : BenchmarkData} (reachable : Reachable P .visualize s)
    (thresholdPercent : PyFloat) {datasets : List DatasetLabel} {metrics : List String}
    (datasetOrder : IsEnumeration datasets s.datasets) (metricOrder : IsEnumeration metrics s.metrics) :
    (s.detectChanges thresholdPercent datasets metrics).1.Nodup ∧
      ∀ x, x ∈ (s.detectChanges thresholdPercent datasets metrics).1 ↔
        x.dataset ∈ s.datasets ∧ x.metric ∈ s.metrics ∧ Expected s thresholdPercent x :=
  ⟨nodup_detectChanges (reachable_inv P reachable).nodup thresholdPercent datasetOrder.nodup
      metricOrder.nodup,
    fun _ => by rw [mem_detectChanges, datasetOrder.mem_iff, metricOrder.mem_iff]⟩

/-- Two files, releases `r1` then `r2`, giving dataset `a` a `QPS` of `-10` then `-5`. -/
def negativeQps : BenchmarkData :=
  (Visualize.addFile integerFloat
    (Visualize.addFile integerFloat .empty ⟨[["dataset", "QPS"], ["a", "-10"]], false⟩ "r1").1
    ⟨[["dataset", "QPS"], ["a", "-5"]], false⟩ "r2").1

theorem reachable_negativeQps : Reachable integerFloat .visualize negativeQps :=
  .visualizeAddFile _ _ (.visualizeAddFile _ _ (.empty _))

theorem detectChanges_exactly_negativeQps :
    (Reachable integerFloat .visualize negativeQps ∧ IsEnumeration [some "a"] negativeQps.datasets ∧
      IsEnumeration ["QPS"] negativeQps.metrics) ∧
    ((negativeQps.detectChanges 5 [some "a"] ["QPS"]).1.Nodup ∧
      ∀ x, x ∈ (negativeQps.detectChanges 5 [some "a"] ["QPS"]).1 ↔
        x.dataset ∈ negativeQps.datasets ∧ x.metric ∈ negativeQps.metrics ∧ Expected negativeQps 5 x) :=
  have datasetOrder : IsEnumeration [some "a"] negativeQps.datasets := by unfold IsEnumeration; decide
  have metricOrder : IsEnumeration ["QPS"] negativeQps.metrics := by unfold IsEnumeration; decide
  ⟨⟨reachable_negativeQps, datasetOrder, metricOrder⟩,
    detectChanges_exactly reachable_negativeQps 5 datasetOrder metricOrder⟩

/-- Two files, releases `r1` then `r2`, giving dataset `a` a `QPS` of `50` then `79`. -/
def boundaryQps : BenchmarkData :=
  (Visualize.addFile integerFloat
    (Visualize.addFile integerFloat .empty ⟨[["dataset", "QPS"], ["a", "50"]], false⟩ "r1").1
    ⟨[["dataset", "QPS"], ["a", "79"]], false⟩ "r2").1

/-- The double `57.99999999999999` that Python prints for `(79 - 50) / 50 * 100`. -/
def boundaryPercent : PyFloat :=
  finite (8162774324609023 * 2 ^ (-47 : ℤ)) ⟨⟨8162774324609023, -47, by norm_num, by norm_num, by norm_num⟩,
    by norm_num [abs_of_nonneg]⟩

/-- `29 / 50` rounds down to `5224175567749775 * 2 ^ -53` and that times `100`
down again, so the percentage misses `58`. -/
theorem boundary_percent_eq : ((79 : PyFloat) - 50) / 50 * 100 = boundaryPercent := by
  have sub : (79 : PyFloat) - 50 = finite (29 : ℕ) (isDouble_natCast (by norm_num)) :=
    roundDouble_eq_of_eq (by norm_num) _
  have quotient : roundToUlp ((29 : ℕ) / (50 : ℕ)) = 5224175567749775 * 2 ^ (-53 : ℤ) := by
    rw [roundToUlp, ulpExponent_eq (e := -1) (by norm_num [abs_of_nonneg]) (by norm_num [abs_of_nonneg]) (by norm_num),
      roundHalfEven_eq_floor (n := 5224175567749775) (by rw [Int.floor_eq_iff]; norm_num) (by norm_num)]
    norm_num
  have product : roundToUlp (5224175567749775 * 2 ^ (-53 : ℤ) * (100 : ℕ)) = 8162774324609023 * 2 ^ (-47 : ℤ) := by
    rw [roundToUlp, ulpExponent_eq (e := 5) (by norm_num [abs_of_nonneg]) (by norm_num [abs_of_nonneg]) (by norm_num),
      roundHalfEven_eq_floor (n := 8162774324609023) (by rw [Int.floor_eq_iff]; norm_num) (by norm_num)]
    norm_num
  rw [sub, ofNat_eq (n := 50) (by norm_num), finite_div_finite (by norm_num),
    roundDouble_eq_finite ⟨⟨5224175567749775, -53, by norm_num, by norm_num, by norm_num⟩, by norm_num [abs_of_nonneg]⟩
      quotient]
  exact roundDouble_eq_finite _ product

/-- `QPS` rises from `50` to `79`, by `58` percent exactly, between two
consecutive releases, but the percentage computed in doubles is below `58`:
`detect_changes(58)` emits no record. -/
theorem detectChanges_misses_exact_threshold :
    (Reachable integerFloat .visualize boundaryQps ∧ IsEnumeration [some "a"] boundaryQps.datasets ∧
      IsEnumeration ["QPS"] boundaryQps.metrics) ∧
    boundaryQps.releases = ["r1", "r2"] ∧ boundaryQps.lookup "r1" (some "a") "QPS" = some 50 ∧
    boundaryQps.lookup "r2" (some "a") "QPS" = some 79 ∧ (58 : ℚ) * |50| ≤ 100 * |79 - 50| ∧
    (boundaryQps.detectChanges 58 [some "a"] ["QPS"]).1 = [] := by
  have series : boundaryQps.series "QPS" (some "a") = [("r1", 50), ("r2", 79)] := by decide
  have below : ¬(58 : PyFloat) ≤ boundaryPercent.abs := by
    rw [ofNat_eq (by norm_num)]
    simp only [boundaryPercent, PyFloat.abs, finite_le_finite]
    norm_num [abs_of_nonneg]
  refine ⟨⟨.visualizeAddFile _ _ (.visualizeAddFile _ _ (.empty _)), by unfold IsEnumeration; decide,
    by unfold IsEnumeration; decide⟩, by decide, by decide, by decide, by norm_num, ?_⟩
  rw [detectChanges_eq]
  simp only [List.flatMap_cons, List.flatMap_nil, List.append_nil, seriesChanges, series, List.tail_cons,
    List.zip_cons_cons, List.zip_nil_right, List.filterMap_cons, List.filterMap_nil, changeAt]
  rw [if_neg (by decide), boundary_percent_eq, if_neg below]

theorem ratio_pos_iff {a b : ℚ} : 0 < (b - a) / a * 100 ↔ 0 < a ∧ a < b ∨ a < 0 ∧ b < a := by
  have scaled : 0 < (b - a) / a * 100 ↔ 0 < (b - a) / a := by constructor <;> intro <;> linarith
  rw [scaled, div_pos_iff, sub_pos, sub_neg]
  exact or_congr and_comm and_comm

theorem ratio_neg_iff {a b : ℚ} : (b - a) / a * 100 < 0 ↔ 0 < a ∧ b < a ∨ a < 0 ∧ a < b := by
  have scaled : (b - a) / a * 100 < 0 ↔ (b - a) / a < 0 := by constructor <;> intro <;> linarith
  rw [scaled, div_neg_iff, sub_pos, sub_neg]
  exact or_comm.trans (or_congr and_comm and_comm)

theorem percent_of_previous_not_finite {previous : PyFloat} (current : PyFloat)
    (notFinite : ∀ a h, previous ≠ finite a h) : (current - previous) / previous * 100 = nan := by
  rcases previous with ⟨a, h⟩ | p | _
  · exact absurd rfl (notFinite a h)
  · rcases current with ⟨b, hb⟩ | c | _
    · rfl
    · cases c <;> cases p <;> rfl
    · rfl
  · cases current <;> rfl

theorem percent_of_current_nan (previous : PyFloat) : (nan - previous) / previous * 100 = nan := by
  cases previous <;> rfl

theorem percent_self {a : ℚ} {h h' : IsDouble a} (nonzero : a ≠ 0) :
    (finite a h - finite a h') / finite a h' * 100 = 0 := by
  rw [finite_sub_finite, sub_self, roundDouble_of_isDouble isDouble_zero, finite_div_finite nonzero, zero_div,
    roundDouble_of_isDouble isDouble_zero, ofNat_eq (n := 100) (by norm_num), finite_mul_finite, zero_mul,
    roundDouble_of_isDouble isDouble_zero, zero_eq]

theorem percent_inf {a : ℚ} {h : IsDouble a} (negative : Bool) :
    (inf negative - finite a h) / finite a h * 100 = inf (negative != decide (a < 0)) := by
  rw [ofNat_eq (n := 100) (by norm_num)]
  show (if ((100 : ℕ) : ℚ) = 0 then nan else inf ((negative != decide (a < 0)) != decide (((100 : ℕ) : ℚ) < 0))) = _
  rw [if_neg (by norm_num), show decide (((100 : ℕ) : ℚ) < 0) = false by norm_num, Bool.bne_false]

/-- A percentage that is not `nan` has the sign of the exact one: rounding
never takes a change to zero, and an infinite current value keeps its side. -/
theorem percent_sign {previous current : PyFloat} (nonzero : previous ≠ 0)
    (valued : (current - previous) / previous * 100 ≠ nan) :
    (0 < (current - previous) / previous * 100 ↔
      0 < previous ∧ previous < current ∨ previous < 0 ∧ current < previous) ∧
    ((current - previous) / previous * 100 < 0 ↔
      0 < previous ∧ current < previous ∨ previous < 0 ∧ previous < current) := by
  rcases previous with ⟨a, ha⟩ | p | _
  · have apart : a ≠ 0 := fun zero => nonzero (by subst zero; exact zero_eq.symm)
    rcases current with ⟨b, hb⟩ | c | _
    · by_cases moved : b = a
      · subst moved
        simp only [percent_self apart, not_lt_self, and_false, false_and, or_self, and_self]
      · rw [(beyond_percent ha hb apart moved).sign.1, (beyond_percent ha hb apart moved).sign.2]
        simpa only [zero_lt_finite, finite_lt_finite, finite_lt_zero] using ⟨ratio_pos_iff, ratio_neg_iff⟩
    · rw [percent_inf]
      rcases apart.lt_or_lt with sign | sign <;> cases c <;> simp [sign, sign.not_lt]
    · exact absurd (percent_of_current_nan _) valued
  · exact absurd (percent_of_previous_not_finite current fun _ _ => PyFloat.noConfusion) valued
  · exact absurd (percent_of_previous_not_finite current fun _ _ => PyFloat.noConfusion) valued

theorem threshold_nonpos_of_unchanged {value thresholdPercent : PyFloat} (nonzero : value ≠ 0)
    (significant : thresholdPercent ≤ ((value - value) / value * 100).abs) : thresholdPercent ≤ 0 := by
  rcases value with ⟨a, ha⟩ | p | _
  · have apart : a ≠ 0 := fun zero => nonzero (by subst zero; exact zero_eq.symm)
    rwa [percent_self apart, abs_of_zero] at significant
  · rw [percent_of_previous_not_finite _ fun _ _ => PyFloat.noConfusion] at significant
    exact absurd significant (not_le_nan _)
  · rw [percent_of_previous_not_finite _ fun _ _ => PyFloat.noConfusion] at significant
    exact absurd significant (not_le_nan _)

theorem not_mem_higherIsBetter {metric : String} (lower : metric ∈ lowerIsBetter) :
    metric ∉ higherIsBetter := by
  simp only [lowerIsBetter, higherIsBetter, List.mem_cons, List.mem_singleton, List.not_mem_nil,
    or_false] at lower ⊢
  rcases lower with rfl | rfl <;> decide

/-- How the status of an emitted record relates to its two values: it follows
their direction when the previous value is positive, is reversed when it is
negative, and an unchanged value, emitted only under a threshold of at most
zero, is a regression. -/
theorem detectChanges_status {s : BenchmarkData} {thresholdPercent : PyFloat} {datasets : List DatasetLabel}
    {metrics : List String} {x : ChangeRecord}
    (emitted : x ∈ (s.detectChanges thresholdPercent datasets metrics).1) :
    x.previousValue ≠ 0 ∧ (x.currentValue = x.previousValue → thresholdPercent ≤ 0) ∧
    (x.metric ∈ higherIsBetter → x.status =
      if 0 < x.previousValue ∧ x.previousValue < x.currentValue ∨
          x.previousValue < 0 ∧ x.currentValue < x.previousValue
      then .improvement else .regression) ∧
    (x.metric ∈ lowerIsBetter → x.status =
      if 0 < x.previousValue ∧ x.currentValue < x.previousValue ∨
          x.previousValue < 0 ∧ x.previousValue < x.currentValue
      then .improvement else .regression) := by
  obtain ⟨-, -, -, -, -, nonzero, percent, significant, status⟩ := mem_detectChanges.mp emitted
  rw [percent] at significant
  have valued : (x.currentValue - x.previousValue) / x.previousValue * 100 ≠ nan := fun isNan =>
    not_le_nan _ (by rwa [isNan] at significant)
  obtain ⟨rise, fall⟩ := percent_sign nonzero valued
  refine ⟨nonzero, fun unchanged => ?_, fun higher => ?_, fun lower => ?_⟩
  · rw [unchanged] at significant
    exact threshold_nonpos_of_unchanged nonzero significant
  · rw [status, if_pos higher, percent]
    exact if_congr rise rfl rfl
  · rw [status, if_neg (not_mem_higherIsBetter lower), if_pos lower, percent]
    exact if_congr fall rfl rfl

/-- The record of `negativeQps`: `QPS` rose from `-10` to `-5`, a change of `-50` percent. -/
def negativeQpsChange : ChangeRecord :=
  { dataset := some "a", metric := "QPS", currentRelease := "r2", previousRelease := "r1",
    currentValue := -5, previousValue := -10, changePct := -50, status := .regression }

theorem negativeQps_percent : ((-5 : PyFloat) - -10) / -10 * 100 = -50 := by
  have half : IsDouble (-1 / 2) := ⟨⟨-1, -1, by norm_num, by norm_num, by norm_num⟩, by norm_num [abs_of_nonneg]⟩
  have sub : (-5 : PyFloat) - -10 = finite (5 : ℕ) (isDouble_natCast (by norm_num)) :=
    roundDouble_eq_of_eq (by norm_num) _
  have div : finite ((5 : ℕ) : ℚ) (isDouble_natCast (by norm_num)) / -10 = finite (-1 / 2) half :=
    (finite_div_finite (b := -((10 : ℕ) : ℚ)) (by norm_num)).trans (roundDouble_eq_of_eq (by norm_num) half)
  rw [sub, div]
  exact roundDouble_eq_of_eq (by norm_num) _

theorem negativeQpsChange_emitted :
    negativeQpsChange ∈ (negativeQps.detectChanges 5 [some "a"] ["QPS"]).1 := by
  refine mem_detectChanges.mpr ⟨by decide, by decide, ⟨[], [], [], by decide, by simp⟩, by decide,
    by decide, by decide, negativeQps_percent.symm, by decide, by decide⟩

theorem detectChanges_status_negativeQps :
    negativeQpsChange ∈ (negativeQps.detectChanges 5 [some "a"] ["QPS"]).1 ∧
    (negativeQpsChange.previousValue ≠ 0 ∧ (negativeQpsChange.currentValue = negativeQpsChange.previousValue → (5 : PyFloat) ≤ 0) ∧
    (negativeQpsChange.metric ∈ higherIsBetter → negativeQpsChange.status =
      if 0 < negativeQpsChange.previousValue ∧ negativeQpsChange.previousValue < negativeQpsChange.currentValue ∨
          negativeQpsChange.previousValue < 0 ∧ negativeQpsChange.currentValue < negativeQpsChange.previousValue
      then .improvement else .regression) ∧
    (negativeQpsChange.metric ∈ lowerIsBetter → negativeQpsChange.status =
      if 0 < negativeQpsChange.previousValue ∧ negativeQpsChange.currentValue < negativeQpsChange.previousValue ∨
          negativeQpsChange.previousValue < 0 ∧ negativeQpsChange.previousValue < negativeQpsChange.currentValue
      then .improvement else .regression)) :=
  ⟨negativeQpsChange_emitted, detectChanges_status negativeQpsChange_emitted⟩

/-- A `HIGHER_IS_BETTER` metric whose value rises is reported as a regression
when the previous value is negative. -/
theorem detectChanges_rise_reported_as_regression :
    ∃ x ∈ (negativeQps.detectChanges 5 [some "a"] ["QPS"]).1,
      x.metric ∈ higherIsBetter ∧ x.status = .regression ∧ x.previousValue < x.currentValue :=
  ⟨negativeQpsChange, negativeQpsChange_emitted, by decide, rfl, by decide⟩

end BenchmarkHistory.Proofs.Changes
