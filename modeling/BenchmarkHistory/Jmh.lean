import BenchmarkHistory.Python

/-! `jmh_results_formatter.py`: the summary of one JMH benchmark. The rows of
`testOnHeapRandomVectorsWithRecall` itself are joined, on the
`numberOfPQSubspaces` parameter alone, with the scores of its secondary
counters, and the scores are rounded for display. -/

namespace BenchmarkHistory.Jmh

/-- A row of `results.csv` in the columns the script reads, each number as
pandas holds it, `NaN` for an empty cell. -/
structure ResultRow where
  benchmark : String
  k : PyFloat
  numberOfPQSubspaces : PyFloat
  score : PyFloat
  deriving DecidableEq, Repr

/-- `main_results`: the rows of the benchmark itself, not of a counter. -/
def mainResults (df : List ResultRow) : List ResultRow :=
  df.filter fun row => endsWith row.benchmark "testOnHeapRandomVectorsWithRecall" && !contains row.benchmark ":"

/-- `df[df['Benchmark'].str.contains(counter)]` -/
def counterResults (counter : String) (df : List ResultRow) : List ResultRow :=
  df.filter fun row => contains row.benchmark counter

/-- `recall_results` -/
def recallResults (df : List ResultRow) : List ResultRow := counterResults ":avgRecall" df

/-- `reranked_results` -/
def rerankedResults (df : List ResultRow) : List ResultRow := counterResults ":avgReRankedCount" df

/-- `visited_results` -/
def visitedResults (df : List ResultRow) : List ResultRow := counterResults ":avgVisitedCount" df

/-- `expanded_results` -/
def expandedResults (df : List ResultRow) : List ResultRow := counterResults ":avgExpandedCountBaseLayer" df

/-- A row of `summary` in the columns `summary_clean` selects: `Param: k`,
`Param: numberOfPQSubspaces`, `Score` and the four suffixed counter scores,
shown as `k`, `PQ_Subspaces`, `Time_ms`, `Recall`, `ReRanked_Count`,
`Visited_Count` and `Expanded_Count_BaseLayer`. A counter's score is `NaN`
until merged. -/
structure SummaryRow where
  k : PyFloat
  numberOfPQSubspaces : PyFloat
  score : PyFloat
  scoreAvgRecall : PyFloat
  scoreAvgReRankedCount : PyFloat
  scoreAvgVisitedCount : PyFloat
  scoreAvgExpandedCountBaseLayer : PyFloat
  deriving DecidableEq, Repr

/-- One row of `summary` after a left merge with a counter's results: once per
result with the row's subspace count, in their order, or once with `NaN`. A
`NaN` key meets the `NaN` keys, as pandas merges them. -/
def mergeRow (results : List ResultRow) (set : SummaryRow → PyFloat → SummaryRow) (row : SummaryRow) :
    List SummaryRow :=
  match results.filter (·.numberOfPQSubspaces = row.numberOfPQSubspaces) with
  | [] => [set row .nan]
  | matched => matched.map fun result => set row result.score

/-- `summary.merge(results[['Param: numberOfPQSubspaces', 'Score']],
on='Param: numberOfPQSubspaces', how='left')`, the suffixed `Score` column
stored by `set`. -/
def mergeScores (results : List ResultRow) (set : SummaryRow → PyFloat → SummaryRow)
    (summary : List SummaryRow) : List SummaryRow :=
  summary.flatMap (mergeRow results set)

/-- `summary`: `main_results` followed by the four merges. -/
def summary (df : List ResultRow) : List SummaryRow :=
  let main := (mainResults df).map fun row => ⟨row.k, row.numberOfPQSubspaces, row.score, .nan, .nan, .nan, .nan⟩
  let withRecall := mergeScores (recallResults df)
    (fun row score => { row with scoreAvgRecall := score }) main
  let withReRanked := mergeScores (rerankedResults df)
    (fun row score => { row with scoreAvgReRankedCount := score }) withRecall
  let withVisited := mergeScores (visitedResults df)
    (fun row score => { row with scoreAvgVisitedCount := score }) withReRanked
  mergeScores (expandedResults df)
    (fun row score => { row with scoreAvgExpandedCountBaseLayer := score }) withVisited

/-- `Series.round(decimals)` on a column of doubles, as numpy computes it: the
value times `10 ** decimals`, rounded to an integer by `rint`, divided by
`10 ** decimals`, each operation in doubles. -/
def roundDecimals (decimals : ℕ) (x : PyFloat) : PyFloat :=
  (x * PyFloat.ofNat (10 ^ decimals)).rint / PyFloat.ofNat (10 ^ decimals)

/-- `summary_clean`: `Time_ms` and `Recall` rounded to 3 decimals, the counts to 1. -/
def summaryClean (df : List ResultRow) : List SummaryRow :=
  (summary df).map fun row =>
    { row with
      score := roundDecimals 3 row.score
      scoreAvgRecall := roundDecimals 3 row.scoreAvgRecall
      scoreAvgReRankedCount := roundDecimals 1 row.scoreAvgReRankedCount
      scoreAvgVisitedCount := roundDecimals 1 row.scoreAvgVisitedCount
      scoreAvgExpandedCountBaseLayer := roundDecimals 1 row.scoreAvgExpandedCountBaseLayer }

end BenchmarkHistory.Jmh
