import BenchmarkHistory.Store

/-! The two `add_file` methods. `visualize_benchmarks` reads the dataset under
`'dataset'` and catches every exception around the whole file;
`compare_benchmark_iterations` accepts `'Dataset'` or `'dataset'`, skips blank
cells and catches nothing. Both catch `ValueError` around `float()` only. -/

namespace BenchmarkHistory

namespace Visualize
variable (P : FloatParser)

/-- The body of `for metric, value in row.items()` at a text key. -/
def addCell (release : String) (dataset : DatasetLabel) (s : BenchmarkData) :
    String × Option String → BenchmarkData × Option PyError
  | (metric, value) =>
    if metric = "dataset" then (s, none)
    else
      match value with
      | none => (s, some .typeError)
      | some text =>
        match P.parse text with
        | some number => ((s.addMetric metric).setValue release dataset metric number, none)
        | none => (s, none)

/-- The number a cell stores: its text parsed, outside the `'dataset'` column. -/
def cellNumber (cell : String × Option String) : Option PyFloat :=
  if cell.1 = "dataset" then none else cell.2.bind P.parse

/-- The exception a cell raises: `float(None)` on a missing cell. -/
def cellError (cell : String × Option String) : Option PyError :=
  if cell.1 ≠ "dataset" ∧ cell.2 = none then some .typeError else none

/-- Every cell either stores its number or leaves the store alone, and whether
it raises does not depend on the store. -/
theorem addCell_eq (release : String) (dataset : DatasetLabel) (s : BenchmarkData) (cell : String × Option String) :
    addCell P release dataset s cell =
      ((cellNumber P cell).elim s fun number => (s.addMetric cell.1).setValue release dataset cell.1 number,
        cellError cell) := by
  obtain ⟨metric, _ | text⟩ := cell
  · by_cases isDataset : metric = "dataset" <;> simp [addCell, cellNumber, cellError, isDataset]
  · by_cases isDataset : metric = "dataset"
    · simp [addCell, cellNumber, cellError, isDataset]
    · cases parsed : P.parse text <;> simp [addCell, cellNumber, cellError, isDataset, parsed]

/-- The body of `for row in reader`. A long row's surplus cells come last in
`row.items()`, under the key `None`, which is not `'dataset'`: `float()` of
their list raises `TypeError`. -/
def addRow (release : String) (s : BenchmarkData) (row : Row) : BenchmarkData × Option PyError :=
  match row.find? "dataset" with
  | none => (s, some (.keyError "dataset"))
  | some dataset =>
    let cells := forRaising (addCell P release dataset) (s.addDataset dataset) row.cells
    (cells.1, cells.2 <|> if row.rest.isEmpty then none else some .typeError)

/-- `add_file`: the store after the call and the value it returns, `False` once
the exception has been caught and printed. -/
def addFile (s : BenchmarkData) (file : CsvFile) (release : String) : BenchmarkData × Bool :=
  let rows := forRaising (addRow P release) (s.appendRelease release) file.rows
  (rows.1, rows.2.isNone && !file.raises)

end Visualize

namespace Compare
variable (P : FloatParser)

/-- The body of `for key, value in row.items()` at a text key:
`key.lower() not in ['dataset'] and value.strip()` decides whether the cell is
read, and `.strip()` of a missing cell's `None` raises `AttributeError`. -/
def addCell (release : String) (dataset : String) (s : BenchmarkData) :
    String × Option String → BenchmarkData × Option PyError
  | (key, value) =>
    if lower key = "dataset" then (s, none)
    else
      match value with
      | none => (s, some .attributeError)
      | some text =>
        if isBlank text then (s, none)
        else
          match P.parse text with
          | some number => ((s.setValue release (some dataset) key number).addMetric key, none)
          | none => (s, none)

/-- The number a cell stores: its text parsed, outside the keys that lower to
`'dataset'`; a blank text is skipped, and `float()` rejects it anyway. -/
def cellNumber (cell : String × Option String) : Option PyFloat :=
  if lower cell.1 = "dataset" then none else cell.2.bind P.parse

/-- The exception a cell raises: `.strip()` of a missing cell's `None`. -/
def cellError (cell : String × Option String) : Option PyError :=
  if lower cell.1 ≠ "dataset" ∧ cell.2 = none then some .attributeError else none

/-- Every cell either stores its number or leaves the store alone, and whether
it raises does not depend on the store. -/
theorem addCell_eq (release dataset : String) (s : BenchmarkData) (cell : String × Option String) :
    addCell P release dataset s cell =
      ((cellNumber P cell).elim s fun number => (s.addMetric cell.1).setValue release (some dataset) cell.1 number,
        cellError cell) := by
  obtain ⟨key, _ | text⟩ := cell
  · by_cases isDataset : lower key = "dataset" <;> simp [addCell, cellNumber, cellError, isDataset]
  · by_cases isDataset : lower key = "dataset"
    · simp [addCell, cellNumber, cellError, isDataset]
    · by_cases blank : isBlank text = true
      · simp [addCell, cellNumber, cellError, isDataset, blank, P.parse_blank text blank]
      · cases parsed : P.parse text <;> simp [addCell, cellNumber, cellError, isDataset, blank, parsed]
        rfl

/-- The body of `for row in reader`: `row.get('Dataset') or row.get('dataset')`
names the dataset and a row without one is skipped. The key `None` of a long
row's surplus cells has no `.lower()`. -/
def addRow (release : String) (s : BenchmarkData) (row : Row) : BenchmarkData × Option PyError :=
  match pyOr (row.get "Dataset") (row.get "dataset") with
  | none => (s, none)
  | some name =>
    if name = "" then (s, none)
    else
      let cells := forRaising (addCell P release name) (s.addDataset (some name)) row.cells
      (cells.1, cells.2 <|> if row.rest.isEmpty then none else some .attributeError)

/-- `add_file`: the store after the call and the exception it raises, if any. -/
def addFile (s : BenchmarkData) (file : CsvFile) (release : String) :
    BenchmarkData × Option PyError :=
  let rows := forRaising (addRow P release) (s.appendRelease release) file.rows
  (rows.1, rows.2 <|> if file.raises then some .readError else none)

end Compare

end BenchmarkHistory
