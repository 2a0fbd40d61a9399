import BenchmarkHistory.Proofs.Contribution

/-! The two scripts' `add_file` on tables both read alike: the dataset under
`'dataset'` only, nonempty, and a text in every header column. Each call
leaves the same store in both, whether or not it fails, and the only failure
left is a row longer than its header: `visualize_benchmarks` catches the
`TypeError` of its surplus cells, while `compare_benchmark_iterations` raises
`AttributeError` out of `add_file`. -/

namespace BenchmarkHistory.Proofs.Agreement
open BenchmarkData Contribution

variable (P : FloatParser)

/-- A row both scripts read alike: a nonempty dataset under `'dataset'`, no
other key that lowers to `'dataset'`, and a text in every header column. -/
structure CommonRow (row : Row) : Prop where
  dataset : (row.get "dataset").isSome
  nonempty : row.get "dataset" ≠ some ""
  onlyDataset : ∀ cell ∈ row.cells, lower cell.1 = "dataset" → cell.1 = "dataset"
  complete : ∀ cell ∈ row.cells, cell.2.isSome

instance (row : Row) : Decidable (CommonRow row) :=
  decidable_of_iff (_ ∧ _ ∧ _ ∧ _)
    ⟨fun ⟨a, b, c, d⟩ => ⟨a, b, c, d⟩, fun ⟨a, b, c, d⟩ => ⟨a, b, c, d⟩⟩

/-- A readable table of rows both scripts read alike. -/
structure CommonTable (file : CsvFile) : Prop where
  readable : file.raises = false
  rows : ∀ row ∈ file.rows, CommonRow row

instance (file : CsvFile) : Decidable (CommonTable file) :=
  decidable_of_iff (_ ∧ _) ⟨fun ⟨a, b⟩ => ⟨a, b⟩, fun ⟨a, b⟩ => ⟨a, b⟩⟩

theorem lower_dataset : lower "dataset" = "dataset" := by decide

theorem compare_addCell_eq (release name : String) (s : BenchmarkData) (cell : String × Option String)
    (onlyDataset : lower cell.1 = "dataset" → cell.1 = "dataset") (complete : cell.2.isSome) :
    Compare.addCell P release name s cell = Visualize.addCell P release (some name) s cell := by
  have number : Compare.cellNumber P cell = Visualize.cellNumber P cell := by
    by_cases isDataset : cell.1 = "dataset"
    · simp [Compare.cellNumber, Visualize.cellNumber, isDataset, lower_dataset]
    · simp [Compare.cellNumber, Visualize.cellNumber, isDataset, mt onlyDataset isDataset]
  have text : cell.2 ≠ none := Option.isSome_iff_ne_none.mp complete
  rw [Compare.addCell_eq, Visualize.addCell_eq, number]
  simp [Compare.cellError, Visualize.cellError, text]

theorem visualize_addCell_ok (release : String) (dataset : DatasetLabel) (s : BenchmarkData)
    (cell : String × Option String) (complete : cell.2.isSome) :
    (Visualize.addCell P release dataset s cell).2 = none := by
  simp [Visualize.addCell_eq, Visualize.cellError, Option.isSome_iff_ne_none.mp complete]

theorem get_capital_dataset {row : Row} (common : CommonRow row) : row.get "Dataset" = none := by
  have absent : row.cells.lookup "Dataset" = none := List.lookup_eq_none_iff.mpr fun cell member => by
    have only := common.onlyDataset cell member
    simp only [bne_iff_ne, ne_eq]
    intro capital
    rw [← capital] at only
    exact absurd (only (by decide)) (by decide)
  simp [Row.get, Row.find?, absent]

/-- On a common row both scripts store the same cells, and `visualize_benchmarks`
raises exactly when the row is longer than its header, as the other script does. -/
theorem addRow_agree (release : String) (s : BenchmarkData) (row : Row) (common : CommonRow row) :
    (Compare.addRow P release s row).1 = (Visualize.addRow P release s row).1 ∧
      ((Compare.addRow P release s row).2 = none ↔ (Visualize.addRow P release s row).2 = none) ∧
      ((Visualize.addRow P release s row).2 = none ↔ row.rest = []) := by
  obtain ⟨name, named⟩ := Option.isSome_iff_exists.mp common.dataset
  have found : row.find? "dataset" = some (some name) := Option.join_eq_some.mp named
  have nonempty : name ≠ "" := fun empty => common.nonempty (empty ▸ named)
  have first : pyOr (row.get "Dataset") (row.get "dataset") = some name := by
    simp [pyOr, truthy, get_capital_dataset common, named]
  have cells := forRaising_congr (Compare.addCell P release name) (Visualize.addCell P release (some name))
    row.cells (fun state cell member =>
      compare_addCell_eq P release name state cell (common.onlyDataset cell member) (common.complete cell member))
    (s.addDataset (some name))
  have ok : (forRaising (Visualize.addCell P release (some name)) (s.addDataset (some name)) row.cells).2 = none := by
    rw [forRaising_eq_foldl _ _ fun state cell member =>
      visualize_addCell_ok P release _ state cell (common.complete cell member)]
  simp only [Compare.addRow, Visualize.addRow, first, found, nonempty, ite_false, cells, ok]
  by_cases long : row.rest = [] <;> simp [long]

/-- On a common table both scripts build the same store from the same store;
`compare_benchmark_iterations` raises exactly when `visualize_benchmarks`
returns `False`, that is when some row is longer than the header. -/
theorem addFile_agree (s : BenchmarkData) (file : CsvFile) (release : String) (common : CommonTable file) :
    (Compare.addFile P s file release).1 = (Visualize.addFile P s file release).1 ∧
      ((Compare.addFile P s file release).2 = none ↔ (Visualize.addFile P s file release).2 = true) ∧
      ((Visualize.addFile P s file release).2 = true ↔ ∀ row ∈ file.rows, row.rest = []) := by
  obtain ⟨sameStore, sameError⟩ := forRaising_simulation (Compare.addRow P release) (Visualize.addRow P release)
    Eq file.rows (fun state _ row member same => same ▸
      ⟨(addRow_agree P release state row (common.rows row member)).1,
        (addRow_agree P release state row (common.rows row member)).2.1⟩) _ _ rfl
  have ok := forRaising_eq_none_iff (Visualize.addRow P release) (fun row => row.rest = []) file.rows
    (fun state row member => (addRow_agree P release state row (common.rows row member)).2.2)
    (s.appendRelease release)
  simp only [Compare.addFile, Visualize.addFile, common.readable, Bool.false_eq_true, ite_false, Bool.not_false,
    Bool.and_true, Option.isNone_iff_eq_none]
  refine ⟨sameStore, ?_, ok⟩
  rw [← sameError]
  cases (forRaising (Compare.addRow P release) (s.appendRelease release) file.rows).2 <;> simp

/-- `visualize_benchmarks`'s `add_file` called on each table in turn; it
catches its own exceptions. -/
def visualizeRun (s : BenchmarkData) (calls : List (CsvFile × String)) : BenchmarkData :=
  calls.foldl (fun s call => (Visualize.addFile P s call.1 call.2).1) s

/-- `compare_benchmark_iterations`'s `add_file` called on each table in turn;
an exception ends the run. -/
def compareRun (s : BenchmarkData) (calls : List (CsvFile × String)) : BenchmarkData × Option PyError :=
  forRaising (fun s call => Compare.addFile P s call.1 call.2) s calls

/-- Over common tables the two scripts agree call by call; a run of
`compare_benchmark_iterations` raises exactly when some row is longer than its
header, and a run that does not raise builds the store the other script builds. -/
theorem addFile_scripts_agree (s : BenchmarkData) (calls : List (CsvFile × String))
    (common : ∀ call ∈ calls, CommonTable call.1) :
    (∀ call ∈ calls, ∀ s, (Compare.addFile P s call.1 call.2).1 = (Visualize.addFile P s call.1 call.2).1 ∧
        ((Compare.addFile P s call.1 call.2).2 = none ↔ (Visualize.addFile P s call.1 call.2).2 = true)) ∧
      ((compareRun P s calls).2 = none ↔ ∀ call ∈ calls, ∀ row ∈ call.1.rows, row.rest = []) ∧
      ((compareRun P s calls).2 = none → compareRun P s calls = (visualizeRun P s calls, none)) := by
  have agree := fun call member s => addFile_agree P s call.1 call.2 (common call member)
  refine ⟨fun call member s => ⟨(agree call member s).1, (agree call member s).2.1⟩,
    forRaising_eq_none_iff _ _ calls (fun s call member => (agree call member s).2.1.trans (agree call member s).2.2) s,
    ?_⟩
  induction calls generalizing s with
  | nil => exact fun _ => rfl
  | cons call calls ih =>
    have here := agree call (List.mem_cons_self _ _) s
    unfold compareRun visualizeRun at *
    rw [forRaising_cons, List.foldl_cons]
    split
    · rw [here.1]
      exact ih _ (fun call member => common call (List.mem_cons_of_mem _ member))
        (fun call member => agree call (List.mem_cons_of_mem _ member))
    · exact fun raised => absurd raised ‹_›

/-- A readable table with one row, read alike by both scripts. -/
def plainCalls : List (CsvFile × String) := [(⟨[["dataset", "QPS"], ["a", "1"]], false⟩, "1.0")]

theorem addFile_scripts_agree_plainCalls :
    (∀ call ∈ plainCalls, CommonTable call.1) ∧
      (∀ call ∈ plainCalls, ∀ s, (Compare.addFile integerFloat s call.1 call.2).1 =
          (Visualize.addFile integerFloat s call.1 call.2).1 ∧
        ((Compare.addFile integerFloat s call.1 call.2).2 = none ↔
          (Visualize.addFile integerFloat s call.1 call.2).2 = true)) ∧
      ((compareRun integerFloat .empty plainCalls).2 = none ↔
        ∀ call ∈ plainCalls, ∀ row ∈ call.1.rows, row.rest = []) ∧
      ((compareRun integerFloat .empty plainCalls).2 = none →
        compareRun integerFloat .empty plainCalls = (visualizeRun integerFloat .empty plainCalls, none)) :=
  have common : ∀ call ∈ plainCalls, CommonTable call.1 := by decide
  ⟨common, addFile_scripts_agree integerFloat .empty plainCalls common⟩

/-- Two common tables, the first with a row longer than its header. -/
def longRowFirst : List (CsvFile × String) :=
  [(⟨[["dataset", "QPS"], ["a", "1"], ["a", "2", "3"]], false⟩, "1.0"),
    (⟨[["dataset", "QPS"], ["b", "4"]], false⟩, "2.0")]

/-- `compare_benchmark_iterations` raises on the first table and never reads the
second, which `visualize_benchmarks` loads. -/
theorem compareRun_stops_at_long_row :
    (∀ call ∈ longRowFirst, CommonTable call.1) ∧
      (visualizeRun integerFloat .empty longRowFirst).lookup "2.0" (some "b") "QPS" = some 4 ∧
      (compareRun integerFloat .empty longRowFirst).1.lookup "2.0" (some "b") "QPS" = none ∧
      (compareRun integerFloat .empty longRowFirst).2 = some .attributeError := by
  decide

end BenchmarkHistory.Proofs.Agreement
