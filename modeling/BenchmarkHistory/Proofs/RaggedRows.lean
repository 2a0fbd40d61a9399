import BenchmarkHistory.Proofs.Contribution
import Mathlib.Data.Option.Basic

/-! When `add_file` stops. Both scripts catch `ValueError` around `float()`
only, so a cell that is not a text raises: `float(None)` and `float([...])`
raise `TypeError` in `visualize_benchmarks`, and `None.strip()` and
`None.lower()` raise `AttributeError` in `compare_benchmark_iterations`. A
short row's missing cell and a long row's surplus cells therefore end the
file, and the rows after them are never read. -/

namespace BenchmarkHistory.Proofs.RaggedRows
open BenchmarkData

variable (P : FloatParser)

section Visualize
variable (release : String) (s : BenchmarkData)

theorem visualize_addCell_ok_iff (dataset : DatasetLabel) (cell : String × Option String) :
    (Visualize.addCell P release dataset s cell).2 = none ↔ cell.1 = "dataset" ∨ cell.2.isSome := by
  rw [Visualize.addCell_eq]
  by_cases isDataset : cell.1 = "dataset" <;> simp [Visualize.cellError, isDataset, Option.isSome_iff_ne_none]

theorem visualize_addRow_ok_iff (row : Row) :
    (Visualize.addRow P release s row).2 = none ↔
      (row.find? "dataset").isSome ∧ (∀ cell ∈ row.cells, cell.1 = "dataset" ∨ cell.2.isSome) ∧
        row.rest = [] := by
  unfold Visualize.addRow
  split
  · next absent => simp [absent]
  · next dataset found =>
    have cells := forRaising_eq_none_iff (Visualize.addCell P release dataset) _ row.cells
      (fun state cell _ => visualize_addCell_ok_iff P release state dataset cell) (s.addDataset dataset)
    simp only [found, Option.isSome_some, true_and, Option.orElse_eq_none, cells]
    by_cases long : row.rest = [] <;> simp [long]

theorem visualize_addFile_ok_iff (file : CsvFile) :
    (Visualize.addFile P s file release).2 = true ↔
      (∀ row ∈ file.rows, (row.find? "dataset").isSome ∧
        (∀ cell ∈ row.cells, cell.1 = "dataset" ∨ cell.2.isSome) ∧ row.rest = []) ∧ file.raises = false := by
  have rows := forRaising_eq_none_iff (Visualize.addRow P release) _ file.rows
    (fun state row _ => visualize_addRow_ok_iff P release state row) (s.appendRelease release)
  simp only [Visualize.addFile, Bool.and_eq_true, Option.isNone_iff_eq_none, rows, Bool.not_eq_true']

end Visualize

section Compare
variable (release : String) (s : BenchmarkData)

theorem compare_addCell_ok_iff (dataset : String) (cell : String × Option String) :
    (Compare.addCell P release dataset s cell).2 = none ↔ lower cell.1 = "dataset" ∨ cell.2.isSome := by
  rw [Compare.addCell_eq]
  by_cases isDataset : lower cell.1 = "dataset" <;> simp [Compare.cellError, isDataset, Option.isSome_iff_ne_none]

theorem compare_addRow_ok_iff (row : Row) :
    (Compare.addRow P release s row).2 = none ↔
      ∀ name, pyOr (row.get "Dataset") (row.get "dataset") = some name → name ≠ "" →
        (∀ cell ∈ row.cells, lower cell.1 = "dataset" ∨ cell.2.isSome) ∧ row.rest = [] := by
  unfold Compare.addRow
  split
  · next absent => simp [absent]
  · next name named =>
    split
    · next empty => simp [named, empty]
    · next nonempty =>
      have cells := forRaising_eq_none_iff (Compare.addCell P release name) _ row.cells
        (fun state cell _ => compare_addCell_ok_iff P release state name cell) (s.addDataset (some name))
      simp only [named, Option.some.injEq, forall_eq', Option.orElse_eq_none, cells]
      by_cases long : row.rest = [] <;> simp [long, nonempty]

/-- `add_file` of `compare_benchmark_iterations` raises nothing exactly when the
file reads to its end and every row goes through. -/
theorem compare_addFile_ok_iff (file : CsvFile) :
    (Compare.addFile P s file release).2 = none ↔
      (∀ row ∈ file.rows, ∀ name, pyOr (row.get "Dataset") (row.get "dataset") = some name → name ≠ "" →
        (∀ cell ∈ row.cells, lower cell.1 = "dataset" ∨ cell.2.isSome) ∧ row.rest = []) ∧
        file.raises = false := by
  have rows := forRaising_eq_none_iff (Compare.addRow P release) _ file.rows
    (fun state row _ => compare_addRow_ok_iff P release state row) (s.appendRelease release)
  simp only [Compare.addFile, Option.orElse_eq_none, rows]
  cases file.raises <;> simp

end Compare

/-- A table whose first row is longer than its header. -/
def longFirstRow : CsvFile := ⟨[["dataset", "QPS"], ["a", "1", "x"], ["a", "2"]], false⟩

/-- The surplus cell ends the file after the first row's `QPS` is stored, so
the later row of the same dataset never overwrites it. -/
theorem long_row_drops_later_rows :
    (Visualize.addFile integerFloat .empty longFirstRow "1.0").2 = false ∧
      (Visualize.addFile integerFloat .empty longFirstRow "1.0").1.lookup "1.0" (some "a") "QPS" = some 1 := by
  decide

/-- A table whose first row is shorter than its header. -/
def shortFirstRow : CsvFile := ⟨[["dataset", "QPS", "Recall@10"], ["a", "5"], ["b", "7", "0.9"]], false⟩

/-- The missing `Recall@10` cell ends the file in both scripts, and the second
row's numbers are never stored. -/
theorem missing_cell_drops_later_rows :
    (Visualize.addFile integerFloat .empty shortFirstRow "1.0").2 = false ∧
      (Visualize.addFile integerFloat .empty shortFirstRow "1.0").1.lookup "1.0" (some "b") "QPS" = none ∧
      (Compare.addFile integerFloat .empty shortFirstRow "1.0").2 = some .attributeError ∧
      (Compare.addFile integerFloat .empty shortFirstRow "1.0").1.lookup "1.0" (some "b") "QPS" = none := by
  decide

end BenchmarkHistory.Proofs.RaggedRows
