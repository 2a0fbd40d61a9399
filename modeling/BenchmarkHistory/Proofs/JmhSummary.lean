import BenchmarkHistory.Jmh

/-! The rows of the JMH summary. Each left merge keeps one row per row of
`summary` exactly when at most one counter row shares its subspace count; the
parameter `k` takes no part in the join, so two main rows that differ only in
`k` each receive every counter score of their subspace count. -/

namespace BenchmarkHistory.Proofs.JmhSummary
open Jmh PyFloat

theorem roundDecimals_ofNat (decimals n : ℕ) (scale : 10 ^ decimals < 2 ^ 53) (small : n * 10 ^ decimals < 2 ^ 53) :
    roundDecimals decimals (ofNat n) = ofNat n := by
  have whole : n < 2 ^ 53 := lt_of_le_of_lt (Nat.le_mul_of_pos_right n (by positivity)) small
  have scaled : ((n * 10 ^ decimals : ℕ) : ℚ) = ((n * 10 ^ decimals : ℕ) : ℤ) := rfl
  unfold roundDecimals
  simp only [ofNat, dif_pos whole, dif_pos scale, finite_mul_finite]
  rw [roundDouble_eq_of_eq (Nat.cast_mul n (10 ^ decimals)).symm (isDouble_natCast small), rint, scaled,
    roundHalfEven_intCast, ← scaled, roundDouble_of_isDouble (isDouble_natCast small),
    finite_div_finite (by positivity), roundDouble_eq_of_eq (by push_cast; field_simp) (isDouble_natCast whole)]

/-- How many rows one row of `summary` becomes in a left merge with `results`. -/
def copies (results : List ResultRow) (pq : PyFloat) : ℕ :=
  max 1 (results.filter (·.numberOfPQSubspaces = pq)).length

theorem copies_pos (results : List ResultRow) (pq : PyFloat) : 0 < copies results pq := le_max_left _ _

theorem copies_eq_one_iff (results : List ResultRow) (pq : PyFloat) :
    copies results pq = 1 ↔ (results.filter (·.numberOfPQSubspaces = pq)).length ≤ 1 := max_eq_left_iff

/-- The score of the first of `results` with the subspace count, `NaN` when none has it. -/
def counterScore (results : List ResultRow) (pq : PyFloat) : PyFloat :=
  ((results.find? (·.numberOfPQSubspaces = pq)).map (·.score)).getD .nan

section Merge
variable (results : List ResultRow) (set : SummaryRow → PyFloat → SummaryRow)

theorem mergeRow_of_unique (row : SummaryRow)
    (unique : (results.filter (·.numberOfPQSubspaces = row.numberOfPQSubspaces)).length ≤ 1) :
    mergeRow results set row = [set row (counterScore results row.numberOfPQSubspaces)] := by
  unfold mergeRow counterScore
  rw [← List.filter_head?]
  generalize results.filter (·.numberOfPQSubspaces = row.numberOfPQSubspaces) = matched at unique ⊢
  rcases matched with _ | ⟨result, _ | ⟨other, rest⟩⟩
  · rfl
  · rfl
  · simp at unique

theorem mergeScores_of_unique (summary : List SummaryRow)
    (unique : ∀ row ∈ summary, (results.filter (·.numberOfPQSubspaces = row.numberOfPQSubspaces)).length ≤ 1) :
    mergeScores results set summary = summary.map fun row => set row (counterScore results row.numberOfPQSubspaces) := by
  induction summary with
  | nil => rfl
  | cons row rows ih =>
    simp only [mergeScores, List.flatMap_cons, List.map_cons] at ih ⊢
    rw [mergeRow_of_unique results set row (unique row (List.mem_cons_self _ _)),
      ih fun other member => unique other (List.mem_cons_of_mem _ member)]
    rfl

theorem sum_mergeRow (weight : PyFloat → ℕ) (keeps : ∀ row score, (set row score).numberOfPQSubspaces = row.numberOfPQSubspaces)
    (row : SummaryRow) :
    ((mergeRow results set row).map fun merged => weight merged.numberOfPQSubspaces).sum =
      copies results row.numberOfPQSubspaces * weight row.numberOfPQSubspaces := by
  unfold mergeRow copies
  split
  · next empty => simp [empty, keeps]
  · next nonempty =>
    have matched : 1 ≤ (results.filter (·.numberOfPQSubspaces = row.numberOfPQSubspaces)).length :=
      List.length_pos.mpr nonempty
    simp [Function.comp_def, keeps, matched, List.map_const', List.sum_const_nat]

theorem sum_mergeScores (weight : PyFloat → ℕ) (keeps : ∀ row score, (set row score).numberOfPQSubspaces = row.numberOfPQSubspaces)
    (summary : List SummaryRow) :
    ((mergeScores results set summary).map fun row => weight row.numberOfPQSubspaces).sum =
      (summary.map fun row => copies results row.numberOfPQSubspaces * weight row.numberOfPQSubspaces).sum := by
  induction summary with
  | nil => rfl
  | cons row rows ih =>
    simp only [mergeScores, List.flatMap_cons, List.map_append, List.sum_append, List.map_cons,
      List.sum_cons] at ih ⊢
    rw [sum_mergeRow results set weight keeps, ih]

end Merge

/-- The frames of the four counters, in the order they are merged. -/
def counterFrames (df : List ResultRow) : List (List ResultRow) :=
  [recallResults df, rerankedResults df, visitedResults df, expandedResults df]

/-- Every main row meets at most one row of each counter with its subspace count. -/
def UniqueCounters (df : List ResultRow) : Prop :=
  ∀ main ∈ mainResults df, ∀ results ∈ counterFrames df,
    (results.filter (·.numberOfPQSubspaces = main.numberOfPQSubspaces)).length ≤ 1

instance (df : List ResultRow) : Decidable (UniqueCounters df) :=
  inferInstanceAs (Decidable (∀ main ∈ mainResults df, ∀ results ∈ counterFrames df, _))

theorem summary_of_unique (df : List ResultRow) (unique : UniqueCounters df) :
    summary df = (mainResults df).map fun main =>
      ⟨main.k, main.numberOfPQSubspaces, main.score,
        counterScore (recallResults df) main.numberOfPQSubspaces,
        counterScore (rerankedResults df) main.numberOfPQSubspaces,
        counterScore (visitedResults df) main.numberOfPQSubspaces,
        counterScore (expandedResults df) main.numberOfPQSubspaces⟩ := by
  have merge : ∀ results ∈ counterFrames df, ∀ set (fill : ResultRow → SummaryRow),
      (∀ main, (fill main).numberOfPQSubspaces = main.numberOfPQSubspaces) →
      mergeScores results set ((mainResults df).map fill) =
        (mainResults df).map fun main => set (fill main) (counterScore results (fill main).numberOfPQSubspaces) :=
    fun results listed set fill keeps => by
      refine (mergeScores_of_unique results set _ fun row member => ?_).trans (List.map_map _ _ _)
      obtain ⟨main, found, rfl⟩ := List.mem_map.mp member
      exact (keeps main).symm ▸ unique main found results listed
  simp only [summary]
  rw [merge _ (by simp [counterFrames]) _ _ fun _ => rfl, merge _ (by simp [counterFrames]) _ _ fun _ => rfl,
    merge _ (by simp [counterFrames]) _ _ fun _ => rfl, merge _ (by simp [counterFrames]) _ _ fun _ => rfl]

theorem length_summary (df : List ResultRow) :
    (summary df).length = ((mainResults df).map fun main =>
      copies (recallResults df) main.numberOfPQSubspaces * (copies (rerankedResults df) main.numberOfPQSubspaces *
        (copies (visitedResults df) main.numberOfPQSubspaces * copies (expandedResults df) main.numberOfPQSubspaces))).sum := by
  have lengths : ∀ rows : List SummaryRow, rows.length = (rows.map fun row => (fun _ => 1) row.numberOfPQSubspaces).sum := by
    simp [List.map_const', List.sum_const_nat]
  simp only [summary]
  rw [lengths, sum_mergeScores _ _ (fun _ => 1) (by intros; rfl),
    sum_mergeScores _ _ (fun pq => copies (expandedResults df) pq * 1) (by intros; rfl),
    sum_mergeScores _ _ (fun pq => copies (visitedResults df) pq * (copies (expandedResults df) pq * 1))
      (by intros; rfl),
    sum_mergeScores _ _ (fun pq => copies (rerankedResults df) pq *
      (copies (visitedResults df) pq * (copies (expandedResults df) pq * 1))) (by intros; rfl), List.map_map]
  simp only [Function.comp_def, mul_one]

theorem sum_eq_length_iff {α : Type} (l : List α) (f : α → ℕ) (pos : ∀ a ∈ l, 1 ≤ f a) :
    (l.map f).sum = l.length ↔ ∀ a ∈ l, f a = 1 := by
  induction l with
  | nil => simp
  | cons a l ih =>
    have rest : ∀ b ∈ l, 1 ≤ f b := fun b member => pos b (List.mem_cons_of_mem _ member)
    have bound := List.length_le_sum_of_one_le (l.map f) (by simpa using rest)
    rw [List.length_map] at bound
    have first := pos a (List.mem_cons_self _ _)
    simp only [List.map_cons, List.sum_cons, List.length_cons, List.forall_mem_cons, ← ih rest]
    omega

theorem length_summary_eq_iff (df : List ResultRow) :
    (summary df).length = (mainResults df).length ↔ UniqueCounters df := by
  rw [length_summary, sum_eq_length_iff _ _ fun _ _ => Nat.mul_pos (copies_pos _ _)
    (Nat.mul_pos (copies_pos _ _) (Nat.mul_pos (copies_pos _ _) (copies_pos _ _)))]
  simp only [UniqueCounters, counterFrames, mul_eq_one, copies_eq_one_iff, List.forall_mem_cons,
    List.not_mem_nil, false_implies, implies_true, and_true]

/-- `summary_clean` has one row per main row exactly when no main row meets two
rows of one counter with its subspace count, `k` being compared nowhere; its
rows then hold, in order, the main scores and those counter scores, rounded. -/
theorem summaryClean_one_row_per_main (df : List ResultRow) :
    ((summaryClean df).length = (mainResults df).length ↔ UniqueCounters df) ∧
      (UniqueCounters df → summaryClean df = (mainResults df).map fun main =>
        ⟨main.k, main.numberOfPQSubspaces, roundDecimals 3 main.score,
          roundDecimals 3 (counterScore (recallResults df) main.numberOfPQSubspaces),
          roundDecimals 1 (counterScore (rerankedResults df) main.numberOfPQSubspaces),
          roundDecimals 1 (counterScore (visitedResults df) main.numberOfPQSubspaces),
          roundDecimals 1 (counterScore (expandedResults df) main.numberOfPQSubspaces)⟩) := by
  refine ⟨by rw [summaryClean, List.length_map, length_summary_eq_iff], fun unique => ?_⟩
  rw [summaryClean, summary_of_unique df unique, List.map_map]
  rfl

/-- One main row and its recall counter. -/
def singleRun : List ResultRow :=
  [⟨"testOnHeapRandomVectorsWithRecall", 10, 16, 5⟩, ⟨"testOnHeapRandomVectorsWithRecall:avgRecall", 10, 16, 1⟩]

theorem summaryClean_one_row_per_main_singleRun :
    UniqueCounters singleRun ∧ (summaryClean singleRun).length = (mainResults singleRun).length :=
  have unique : UniqueCounters singleRun := by decide
  ⟨unique, (summaryClean_one_row_per_main singleRun).1.mpr unique⟩

/-- Two runs with different `k` and the same subspace count, and the recall of each. -/
def sharedSubspaces : List ResultRow :=
  [⟨"testOnHeapRandomVectorsWithRecall", 10, 16, 5⟩, ⟨"testOnHeapRandomVectorsWithRecall", 100, 16, 7⟩,
    ⟨"testOnHeapRandomVectorsWithRecall:avgRecall", 10, 16, 0⟩,
    ⟨"testOnHeapRandomVectorsWithRecall:avgRecall", 100, 16, 1⟩]

/-- Each main row meets both recall rows: the summary doubles, and the run with
`k = 10` is also given the recall of the run with `k = 100`. -/
theorem summaryClean_joins_across_k :
    (sharedSubspaces.map fun row => (row.benchmark, row.k, row.numberOfPQSubspaces)).Nodup ∧
      (mainResults sharedSubspaces).length = 2 ∧ (summaryClean sharedSubspaces).length = 4 ∧
      (summaryClean sharedSubspaces).map (fun row => (row.k, row.scoreAvgRecall)) =
        [(10, 0), (10, 1), (100, 0), (100, 1)] := by
  have merged : summary sharedSubspaces =
      [⟨10, 16, 5, 0, nan, nan, nan⟩, ⟨10, 16, 5, 1, nan, nan, nan⟩, ⟨100, 16, 7, 0, nan, nan, nan⟩,
        ⟨100, 16, 7, 1, nan, nan, nan⟩] := by
    decide
  have zero : roundDecimals 3 0 = 0 := roundDecimals_ofNat 3 0 (by norm_num) (by norm_num)
  have one : roundDecimals 3 1 = 1 := roundDecimals_ofNat 3 1 (by norm_num) (by norm_num)
  refine ⟨by decide, by decide, by rw [summaryClean, List.length_map, merged]; rfl, ?_⟩
  rw [summaryClean, merged]
  simp only [List.map_cons, List.map_nil, zero, one]

end BenchmarkHistory.Proofs.JmhSummary
