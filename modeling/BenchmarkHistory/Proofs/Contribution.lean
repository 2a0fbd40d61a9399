import BenchmarkHistory.Load
import BenchmarkHistory.Overlay

/-! What one file adds to a store. Every step of `add_file` commutes with
laying its target over a fixed store, so a call adds to any store what it adds
to an empty one, and a batch is the overlay of its files' contributions. A
failed file is no exception: `visualize_benchmarks` keeps its release and the
rows read before the failure, and in `compare_benchmark_iterations` the
exception leaves `load_benchmark_data`, so no store is built at all. -/

namespace BenchmarkHistory.Proofs.Contribution
open BenchmarkData

variable (P : FloatParser)

section Commute
variable (s t : BenchmarkData)

theorem visualize_addCell_overlay (release : String) (dataset : DatasetLabel) (cell : String × Option String) :
    Visualize.addCell P release dataset (s.overlay t) cell =
      (s.overlay (Visualize.addCell P release dataset t cell).1, (Visualize.addCell P release dataset t cell).2) := by
  rw [Visualize.addCell_eq, Visualize.addCell_eq]
  cases Visualize.cellNumber P cell
  · rfl
  · simp only [Option.elim, overlay_setValue, overlay_addMetric]

theorem visualize_addRow_overlay (release : String) (row : Row) :
    Visualize.addRow P release (s.overlay t) row =
      (s.overlay (Visualize.addRow P release t row).1, (Visualize.addRow P release t row).2) := by
  unfold Visualize.addRow
  split
  · rfl
  · next dataset _ =>
    rw [← overlay_addDataset, forRaising_overlay s _ (visualize_addCell_overlay P s · release dataset)]

theorem visualize_addFile_overlay (file : CsvFile) (release : String) :
    Visualize.addFile P (s.overlay t) file release =
      (s.overlay (Visualize.addFile P t file release).1, (Visualize.addFile P t file release).2) := by
  unfold Visualize.addFile
  rw [← overlay_appendRelease, forRaising_overlay s _ (visualize_addRow_overlay P s · release)]

theorem compare_addCell_overlay (release dataset : String) (cell : String × Option String) :
    Compare.addCell P release dataset (s.overlay t) cell =
      (s.overlay (Compare.addCell P release dataset t cell).1, (Compare.addCell P release dataset t cell).2) := by
  rw [Compare.addCell_eq, Compare.addCell_eq]
  cases Compare.cellNumber P cell
  · rfl
  · simp only [Option.elim, overlay_setValue, overlay_addMetric]

theorem compare_addRow_overlay (release : String) (row : Row) :
    Compare.addRow P release (s.overlay t) row =
      (s.overlay (Compare.addRow P release t row).1, (Compare.addRow P release t row).2) := by
  unfold Compare.addRow
  split
  · rfl
  · next name _ =>
    split
    · rfl
    · rw [← overlay_addDataset, forRaising_overlay s _ (compare_addCell_overlay P s · release name)]

theorem compare_addFile_overlay (file : CsvFile) (release : String) :
    Compare.addFile P (s.overlay t) file release =
      (s.overlay (Compare.addFile P t file release).1, (Compare.addFile P t file release).2) := by
  unfold Compare.addFile
  rw [← overlay_appendRelease, forRaising_overlay s _ (compare_addRow_overlay P s · release)]

end Commute

/-- What `visualize_benchmarks`'s `add_file` puts into an empty store. -/
def visualizeContribution (file : CsvFile) (release : String) : BenchmarkData :=
  (Visualize.addFile P .empty file release).1

/-- What `compare_benchmark_iterations`'s `add_file` puts into an empty store. -/
def compareContribution (file : CsvFile) (release : String) : BenchmarkData :=
  (Compare.addFile P .empty file release).1

/-- The exception `compare_benchmark_iterations`'s `add_file` raises on a file. -/
def compareFailure (file : CsvFile) (release : String) : Option PyError :=
  (Compare.addFile P .empty file release).2

/-- A call lays the file's contribution over the store it is given, and
whether it fails does not depend on that store. -/
theorem visualize_addFile_eq (s : BenchmarkData) (file : CsvFile) (release : String) :
    Visualize.addFile P s file release =
      (s.overlay (visualizeContribution P file release), (Visualize.addFile P .empty file release).2) := by
  simpa only [overlay_empty] using visualize_addFile_overlay P s .empty file release

theorem compare_addFile_eq (s : BenchmarkData) (file : CsvFile) (release : String) :
    Compare.addFile P s file release =
      (s.overlay (compareContribution P file release), compareFailure P file release) := by
  simpa only [overlay_empty] using compare_addFile_overlay P s .empty file release

theorem mainLoad_eq_overlays (files : List (String × CsvFile)) :
    Visualize.mainLoad P files =
      files.foldl (fun s file => s.overlay (visualizeContribution P file.2 (Visualize.extractReleaseFromFilename file.1)))
        .empty := by
  unfold Visualize.mainLoad
  congr 1
  funext s file
  rw [visualize_addFile_eq]

theorem releases_visualize_addCell (release : String) (dataset : DatasetLabel) (s : BenchmarkData)
    (cell : String × Option String) : (Visualize.addCell P release dataset s cell).1.releases = s.releases := by
  rw [Visualize.addCell_eq]
  cases Visualize.cellNumber P cell <;> rfl

theorem releases_visualize_addRow (release : String) (s : BenchmarkData) (row : Row) :
    (Visualize.addRow P release s row).1.releases = s.releases := by
  unfold Visualize.addRow
  split
  · rfl
  · exact forRaising_invariant _ (fun state : BenchmarkData => state.releases = s.releases)
      (fun _ _ same => (releases_visualize_addCell P _ _ _ _).trans same) _ _ rfl

theorem releases_visualizeContribution (file : CsvFile) (release : String) :
    (visualizeContribution P file release).releases = [release] :=
  forRaising_invariant _ (fun state : BenchmarkData => state.releases = [release])
    (fun _ _ same => (releases_visualize_addRow P _ _ _).trans same) _ _ rfl

theorem releases_compare_addCell (release dataset : String) (s : BenchmarkData) (cell : String × Option String) :
    (Compare.addCell P release dataset s cell).1.releases = s.releases := by
  rw [Compare.addCell_eq]
  cases Compare.cellNumber P cell <;> rfl

theorem releases_compare_addRow (release : String) (s : BenchmarkData) (row : Row) :
    (Compare.addRow P release s row).1.releases = s.releases := by
  unfold Compare.addRow
  split
  · rfl
  · split
    · rfl
    · exact forRaising_invariant _ (fun state : BenchmarkData => state.releases = s.releases)
        (fun _ _ same => (releases_compare_addCell P _ _ _ _).trans same) _ _ rfl

theorem releases_compareContribution (file : CsvFile) (release : String) :
    (compareContribution P file release).releases = [release] :=
  forRaising_invariant _ (fun state : BenchmarkData => state.releases = [release])
    (fun _ _ same => (releases_compare_addRow P _ _ _).trans same) _ _ rfl

theorem loadFiles_toOption (tables : String → CsvFile) (s : BenchmarkData) (names : List String) :
    (Compare.loadFiles P tables s names).toOption =
      if names.all fun name => (compareFailure P (tables name) (Compare.extractReleaseFromFilename name)).isNone
      then some (names.foldl (fun s name =>
        s.overlay (compareContribution P (tables name) (Compare.extractReleaseFromFilename name))) s)
      else none := by
  induction names generalizing s with
  | nil => rfl
  | cons name names ih =>
    simp only [Compare.loadFiles, compare_addFile_eq, List.all_cons, List.foldl_cons]
    cases compareFailure P (tables name) (Compare.extractReleaseFromFilename name)
    · simp only [ih, Option.isNone_none, Bool.true_and]
    · rfl

/-- A failed file is not left out of a batch. `main` lays every file's
contribution over the store, a failed file's included, and each contribution
records its release; the loop of `load_benchmark_data` builds a store only
when no file's `add_file` raises. -/
theorem failed_files_overlaid (files : List (String × CsvFile)) (tables : String → CsvFile)
    (s : BenchmarkData) (names : List String) :
    Visualize.mainLoad P files =
        files.foldl (fun s file =>
          s.overlay (visualizeContribution P file.2 (Visualize.extractReleaseFromFilename file.1))) .empty ∧
      (∀ file release, (visualizeContribution P file release).releases = [release]) ∧
      (Compare.loadFiles P tables s names).toOption =
        if names.all fun name => (compareFailure P (tables name) (Compare.extractReleaseFromFilename name)).isNone
        then some (names.foldl (fun s name =>
          s.overlay (compareContribution P (tables name) (Compare.extractReleaseFromFilename name))) s)
        else none :=
  ⟨mainLoad_eq_overlays P files, releases_visualizeContribution P, loadFiles_toOption P tables s names⟩

/-- A table whose second row is longer than its header. -/
def longSecondRow : CsvFile := ⟨[["dataset", "QPS"], ["a", "5"], ["b", "6", "7"]], false⟩

/-- `add_file` fails on the table, yet `main` keeps its release and the value
read before the failure, where an empty batch has neither; a directory holding
the table beside a good `main` file gives no store. -/
theorem failed_file_kept :
    (Visualize.addFile integerFloat .empty longSecondRow "1.2.3").2 = false ∧
    (Visualize.mainLoad integerFloat [("1.2.3.csv", longSecondRow)]).releases = ["1.2.3"] ∧
    (Visualize.mainLoad integerFloat [("1.2.3.csv", longSecondRow)]).lookup "1.2.3" (some "a") "QPS" = some 5 ∧
    (Visualize.mainLoad integerFloat []).releases = [] ∧
    (Compare.loadBenchmarkData integerFloat (some ⟨["1.2.3.csv", "main.csv"], fun name =>
      if name = "main.csv" then ⟨[["dataset", "QPS"], ["a", "4"]], false⟩ else longSecondRow⟩)).toOption.isSome =
      false := by
  decide

end BenchmarkHistory.Proofs.Contribution
