import BenchmarkHistory.Proofs.RaggedRows
import BenchmarkHistory.Proofs.Agreement
import BenchmarkHistory.Proofs.StoreInvariant

/-! What `add_file` of `visualize_benchmarks` stores when it reads a file to its
end: every triple of the file's release takes the value of the last row of its
dataset whose cell parses, over what the store held, and the other releases
are untouched. Over a sequence of such calls the last write wins, across the
tables of one release in call order. -/

namespace BenchmarkHistory.Proofs.LastWrite
open BenchmarkData RaggedRows Agreement

variable (P : FloatParser)

/-- The value a triple holds once `add_file` has read `rows` of one release:
the parsed `metric` cell of the last row of `dataset` where it parses, or
`before` when there is none. -/
def lastValue (rows : List Row) (dataset : DatasetLabel) (metric : String) (before : Option PyFloat) : Option PyFloat :=
  rows.foldl (fun value row =>
    if row.find? "dataset" = some dataset ∧ metric ≠ "dataset" then
      ((row.get metric).bind P.parse).orElse fun _ => value
    else value) before

theorem lastValue_append (rows rows' : List Row) (dataset : DatasetLabel) (metric : String) (before : Option PyFloat) :
    lastValue P (rows ++ rows') dataset metric before =
      lastValue P rows' dataset metric (lastValue P rows dataset metric before) :=
  List.foldl_append _ _ _ _

theorem isSome_lastValue (rows : List Row) (dataset : DatasetLabel) (metric : String) (before : Option PyFloat) :
    (lastValue P rows dataset metric before).isSome ↔ before.isSome ∨
      ∃ row ∈ rows, row.find? "dataset" = some dataset ∧ metric ≠ "dataset" ∧ ((row.get metric).bind P.parse).isSome := by
  induction rows generalizing before with
  | nil => simp [lastValue]
  | cons row rows ih =>
    rw [lastValue, List.foldl_cons, ← lastValue, ih]
    by_cases hit : row.find? "dataset" = some dataset ∧ metric ≠ "dataset"
    · cases parsed : (row.get metric).bind P.parse <;> simp [hit, parsed, or_assoc]
    · have miss : ¬(row.find? "dataset" = some dataset ∧ metric ≠ "dataset" ∧
          ((row.get metric).bind P.parse).isSome) := fun found => hit ⟨found.1, found.2.1⟩
      simp only [hit, ite_false, List.mem_cons, exists_eq_or_imp, miss, false_or]

theorem lookup_addCell (release : String) (dataset : DatasetLabel) (s : BenchmarkData)
    (cell : String × Option String) (r : String) (d : DatasetLabel) (m : String) :
    (Visualize.addCell P release dataset s cell).1.lookup r d m =
      if r = release ∧ d = dataset ∧ m = cell.1 then (Visualize.cellNumber P cell).orElse fun _ => s.lookup r d m
      else s.lookup r d m := by
  rw [Visualize.addCell_eq]
  cases Visualize.cellNumber P cell
  · simp
  · simp only [Option.elim, lookup_setValue, lookup_addMetric]
    split_ifs <;> rfl

theorem lookup_foldl_addCell (release : String) (dataset : DatasetLabel) (cells : List (String × Option String))
    (keys : (cells.map (·.1)).Nodup) (s : BenchmarkData) (r : String) (d : DatasetLabel) (m : String) :
    (cells.foldl (fun s cell => (Visualize.addCell P release dataset s cell).1) s).lookup r d m =
      if r = release ∧ d = dataset ∧ m ≠ "dataset" then
        ((cells.lookup m).join.bind P.parse).orElse fun _ => s.lookup r d m
      else s.lookup r d m := by
  induction cells generalizing s with
  | nil => split_ifs <;> rfl
  | cons cell cells ih =>
    obtain ⟨key, value⟩ := cell
    rw [List.map_cons, List.nodup_cons] at keys
    rw [List.foldl_cons, ih keys.2, lookup_addCell, List.lookup_cons]
    by_cases same : m = key
    · subst same
      have absent : cells.lookup m = none := List.lookup_eq_none_iff.mpr fun cell member => by
        have named : cell.1 ∈ cells.map (·.1) := List.mem_map_of_mem _ member
        simpa using fun equal : m = cell.1 => keys.1 (by rw [equal]; exact named)
      by_cases isDataset : m = "dataset" <;> simp [absent, Visualize.cellNumber, isDataset]
    · have other : (m == key) = false := by simpa using same
      simp [same, other]

theorem lookup_addRow (release : String) (s : BenchmarkData) (row : Row) (keys : (row.cells.map (·.1)).Nodup)
    (ok : (Visualize.addRow P release s row).2 = none) (r : String) (d : DatasetLabel) (m : String) :
    (Visualize.addRow P release s row).1.lookup r d m =
      if r = release ∧ row.find? "dataset" = some d ∧ m ≠ "dataset" then
        ((row.get m).bind P.parse).orElse fun _ => s.lookup r d m
      else s.lookup r d m := by
  obtain ⟨named, texts, -⟩ := (visualize_addRow_ok_iff P release s row).mp ok
  obtain ⟨dataset, found⟩ := Option.isSome_iff_exists.mp named
  have cells := forRaising_eq_foldl (Visualize.addCell P release dataset) row.cells
    (fun state cell member => (visualize_addCell_ok_iff P release state dataset cell).mpr (texts cell member))
    (s.addDataset dataset)
  unfold Visualize.addRow
  rw [found]
  dsimp only
  rw [cells, lookup_foldl_addCell P release dataset row.cells keys, lookup_addDataset]
  by_cases same : d = dataset <;> simp [same, eq_comm, Row.get, Row.find?]

theorem lookup_foldl_addRow (release : String) (rows : List Row)
    (ok : ∀ row ∈ rows, (row.cells.map (·.1)).Nodup ∧ ∀ s, (Visualize.addRow P release s row).2 = none)
    (s : BenchmarkData) (r : String) (d : DatasetLabel) (m : String) :
    (rows.foldl (fun s row => (Visualize.addRow P release s row).1) s).lookup r d m =
      if r = release then lastValue P rows d m (s.lookup r d m) else s.lookup r d m := by
  induction rows generalizing s with
  | nil => split_ifs <;> rfl
  | cons row rows ih =>
    have here := ok row (List.mem_cons_self _ _)
    rw [List.foldl_cons, ih (fun row member => ok row (List.mem_cons_of_mem _ member)),
      lookup_addRow P release s row here.1 (here.2 s)]
    by_cases same : r = release
    · simp only [same, true_and, ite_true, lastValue, List.foldl_cons]
    · simp only [same, false_and, ite_false]

theorem nodup_keys_rows {file : CsvFile} {row : Row} (member : row ∈ file.rows) : (row.cells.map (·.1)).Nodup := by
  unfold CsvFile.rows at member
  split at member
  · cases member
  · obtain ⟨record, -, rfl⟩ := List.mem_map.mp member
    exact nodup_keys_ofRecord _ record

theorem datasets_addCell (release : String) (dataset : DatasetLabel) (s : BenchmarkData)
    (cell : String × Option String) : (Visualize.addCell P release dataset s cell).1.datasets = s.datasets := by
  rw [Visualize.addCell_eq]
  cases Visualize.cellNumber P cell <;> rfl

theorem mem_datasets_addRow (release : String) (s : BenchmarkData) (row : Row)
    (ok : (Visualize.addRow P release s row).2 = none) (d : DatasetLabel) :
    d ∈ (Visualize.addRow P release s row).1.datasets ↔ d ∈ s.datasets ∨ row.find? "dataset" = some d := by
  obtain ⟨named, -, -⟩ := (visualize_addRow_ok_iff P release s row).mp ok
  obtain ⟨dataset, found⟩ := Option.isSome_iff_exists.mp named
  have kept := forRaising_invariant (Visualize.addCell P release dataset)
    (fun state : BenchmarkData => state.datasets = insert dataset s.datasets)
    (fun state cell same => (datasets_addCell P release dataset state cell).trans same) row.cells
    (s.addDataset dataset) rfl
  unfold Visualize.addRow
  rw [found]
  simp only [kept, Finset.mem_insert, Option.some.injEq]
  rw [or_comm, eq_comm]

theorem mem_datasets_foldl_addRow (release : String) (rows : List Row)
    (ok : ∀ row ∈ rows, ∀ s, (Visualize.addRow P release s row).2 = none) (s : BenchmarkData) (d : DatasetLabel) :
    d ∈ (rows.foldl (fun s row => (Visualize.addRow P release s row).1) s).datasets ↔
      d ∈ s.datasets ∨ ∃ row ∈ rows, row.find? "dataset" = some d := by
  induction rows generalizing s with
  | nil => simp
  | cons row rows ih =>
    rw [List.foldl_cons, ih (fun row member => ok row (List.mem_cons_of_mem _ member)),
      mem_datasets_addRow P release s row (ok row (List.mem_cons_self _ _) s)]
    simp only [List.mem_cons, exists_eq_or_imp, or_assoc]

section Reads
variable {s : BenchmarkData} {file : CsvFile} {release : String}
  (reads : (Visualize.addFile P s file release).2 = true)
include reads

theorem addRow_ok_of_reads : ∀ row ∈ file.rows, ∀ s, (Visualize.addRow P release s row).2 = none :=
  fun row member s => (visualize_addRow_ok_iff P release s row).mpr
    (((visualize_addFile_ok_iff P release _ file).mp reads).1 row member)

theorem addFile_of_reads :
    Visualize.addFile P s file release =
      (file.rows.foldl (fun s row => (Visualize.addRow P release s row).1) (s.appendRelease release), true) := by
  rw [← reads, Visualize.addFile, forRaising_eq_foldl _ _ fun state row member =>
    addRow_ok_of_reads P reads row member state]

/-- A call that returns `True` writes, for its release, each triple's last
parsed value over the old one, and leaves every other release alone. -/
theorem lookup_addFile (r : String) (d : DatasetLabel) (m : String) :
    (Visualize.addFile P s file release).1.lookup r d m =
      if r = release then lastValue P file.rows d m (s.lookup r d m) else s.lookup r d m := by
  rw [addFile_of_reads P reads, lookup_foldl_addRow P release file.rows
    (fun row member => ⟨nodup_keys_rows member, addRow_ok_of_reads P reads row member⟩), lookup_appendRelease]

theorem mem_datasets_addFile (d : DatasetLabel) :
    d ∈ (Visualize.addFile P s file release).1.datasets ↔
      d ∈ s.datasets ∨ ∃ row ∈ file.rows, row.find? "dataset" = some d := by
  rw [addFile_of_reads P reads, mem_datasets_foldl_addRow P release file.rows (addRow_ok_of_reads P reads)]
  simp

theorem mem_metrics_addFile (valid : StoreInvariant.Inv s) (m : String) :
    m ∈ (Visualize.addFile P s file release).1.metrics ↔
      m ∈ s.metrics ∨ ∃ row ∈ file.rows, m ≠ "dataset" ∧ ((row.get m).bind P.parse).isSome := by
  have rowsOk := ((visualize_addFile_ok_iff P release s file).mp reads).1
  rw [(StoreInvariant.inv_visualize_addFile P valid file release).metricKeys, valid.metricKeys]
  simp only [lookup_addFile P reads]
  constructor
  · rintro ⟨r, d, found⟩
    split_ifs at found
    · rcases (isSome_lastValue P _ _ _ _).mp found with old | ⟨row, member, -, named, parsed⟩
      · exact .inl ⟨r, d, old⟩
      · exact .inr ⟨row, member, named, parsed⟩
    · exact .inl ⟨r, d, found⟩
  · rintro (⟨r, d, found⟩ | ⟨row, member, named, parsed⟩)
    · refine ⟨r, d, ?_⟩
      split_ifs
      · exact (isSome_lastValue P _ _ _ _).mpr (.inl found)
      · exact found
    · obtain ⟨d, dataset⟩ := Option.isSome_iff_exists.mp (rowsOk row member).1
      exact ⟨release, d, by
        simpa using (isSome_lastValue P _ _ _ _).mpr (.inr ⟨row, member, dataset, named, parsed⟩)⟩

end Reads

theorem addFile_reads_from (s : BenchmarkData) {file : CsvFile} {release : String}
    (reads : (Visualize.addFile P .empty file release).2 = true) : (Visualize.addFile P s file release).2 = true :=
  (visualize_addFile_ok_iff P release s file).mpr ((visualize_addFile_ok_iff P release .empty file).mp reads)

/-- Over calls that all return `True`, each triple holds the last parsed value
among the rows of the tables of its release, in call order and file order. -/
theorem lookup_visualizeRun (s : BenchmarkData) (calls : List (CsvFile × String))
    (reads : ∀ call ∈ calls, (Visualize.addFile P .empty call.1 call.2).2 = true) (r : String) (d : DatasetLabel)
    (m : String) :
    (visualizeRun P s calls).lookup r d m =
      lastValue P ((calls.filter (·.2 = r)).flatMap (·.1.rows)) d m (s.lookup r d m) := by
  induction calls generalizing s with
  | nil => rfl
  | cons call calls ih =>
    simp only [visualizeRun, List.foldl_cons] at ih ⊢
    rw [ih _ (fun call member => reads call (List.mem_cons_of_mem _ member)),
      lookup_addFile P (addFile_reads_from P s (reads call (List.mem_cons_self _ _)))]
    by_cases same : call.2 = r
    · simp [same, List.filter_cons, lastValue_append]
    · simp [same, List.filter_cons, Ne.symm same]

theorem mem_datasets_visualizeRun (s : BenchmarkData) (calls : List (CsvFile × String))
    (reads : ∀ call ∈ calls, (Visualize.addFile P .empty call.1 call.2).2 = true) (d : DatasetLabel) :
    d ∈ (visualizeRun P s calls).datasets ↔
      d ∈ s.datasets ∨ ∃ call ∈ calls, ∃ row ∈ call.1.rows, row.find? "dataset" = some d := by
  induction calls generalizing s with
  | nil => simp [visualizeRun]
  | cons call calls ih =>
    simp only [visualizeRun, List.foldl_cons] at ih ⊢
    rw [ih _ (fun call member => reads call (List.mem_cons_of_mem _ member)),
      mem_datasets_addFile P (addFile_reads_from P s (reads call (List.mem_cons_self _ _)))]
    simp only [List.mem_cons, exists_eq_or_imp, or_assoc]

theorem mem_metrics_visualizeRun {s : BenchmarkData} (valid : StoreInvariant.Inv s) (calls : List (CsvFile × String))
    (reads : ∀ call ∈ calls, (Visualize.addFile P .empty call.1 call.2).2 = true) (m : String) :
    m ∈ (visualizeRun P s calls).metrics ↔
      m ∈ s.metrics ∨ ∃ call ∈ calls, ∃ row ∈ call.1.rows, m ≠ "dataset" ∧ ((row.get m).bind P.parse).isSome := by
  induction calls generalizing s with
  | nil => simp [visualizeRun]
  | cons call calls ih =>
    have here := addFile_reads_from P s (reads call (List.mem_cons_self _ _))
    simp only [visualizeRun, List.foldl_cons] at ih ⊢
    rw [ih (StoreInvariant.inv_visualize_addFile P valid _ _) (fun call member => reads call (List.mem_cons_of_mem _ member)),
      mem_metrics_addFile P here valid]
    simp only [List.mem_cons, exists_eq_or_imp, or_assoc]

/-- From the empty store, over calls that all return `True`: each triple holds
the last parsed value among the rows of its release's tables, in call order
and file order, `datasets` is the set of the rows' datasets, and `metrics` the
set of the columns with a parsed cell. -/
theorem visualizeRun_last_write_wins (calls : List (CsvFile × String))
    (reads : ∀ call ∈ calls, (Visualize.addFile P .empty call.1 call.2).2 = true) :
    (∀ r d m, (visualizeRun P .empty calls).lookup r d m =
        lastValue P ((calls.filter (·.2 = r)).flatMap (·.1.rows)) d m none) ∧
      (∀ d, d ∈ (visualizeRun P .empty calls).datasets ↔
        ∃ call ∈ calls, ∃ row ∈ call.1.rows, row.find? "dataset" = some d) ∧
      (∀ m, m ∈ (visualizeRun P .empty calls).metrics ↔
        ∃ call ∈ calls, ∃ row ∈ call.1.rows, m ≠ "dataset" ∧ ((row.get m).bind P.parse).isSome) :=
  ⟨fun r d m => lookup_visualizeRun P .empty calls reads r d m,
    fun d => (mem_datasets_visualizeRun P .empty calls reads d).trans (by simp [empty]),
    fun m => (mem_metrics_visualizeRun P StoreInvariant.inv_empty calls reads m).trans (by simp [empty])⟩

/-- Two tables of release `1.0`, the later one giving dataset `a` another `QPS`. -/
def twoTables : List (CsvFile × String) :=
  [(⟨[["dataset", "QPS"], ["a", "1"]], false⟩, "1.0"), (⟨[["dataset", "QPS"], ["a", "2"]], false⟩, "1.0")]

theorem visualizeRun_last_write_wins_twoTables :
    (∀ call ∈ twoTables, (Visualize.addFile integerFloat .empty call.1 call.2).2 = true) ∧
    (∀ r d m, (visualizeRun integerFloat .empty twoTables).lookup r d m =
        lastValue integerFloat ((twoTables.filter (·.2 = r)).flatMap (·.1.rows)) d m none) ∧
      (∀ d, d ∈ (visualizeRun integerFloat .empty twoTables).datasets ↔
        ∃ call ∈ twoTables, ∃ row ∈ call.1.rows, row.find? "dataset" = some d) ∧
      (∀ m, m ∈ (visualizeRun integerFloat .empty twoTables).metrics ↔
        ∃ call ∈ twoTables, ∃ row ∈ call.1.rows, m ≠ "dataset" ∧ ((row.get m).bind integerFloat.parse).isSome) :=
  have reads : ∀ call ∈ twoTables, (Visualize.addFile integerFloat .empty call.1 call.2).2 = true := by decide
  ⟨reads, visualizeRun_last_write_wins integerFloat twoTables reads⟩

end BenchmarkHistory.Proofs.LastWrite
