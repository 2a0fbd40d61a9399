import BenchmarkHistory.Ingest
import BenchmarkHistory.Release
import Mathlib.Data.List.Sort
import Mathlib.Data.List.Lex
import Mathlib.Data.Prod.Lex
import Mathlib.Data.String.Basic

/-! The two ways a batch of files becomes a store: the loop of
`visualize_benchmarks.main` over the paths given, and `load_benchmark_data` of
`compare_benchmark_iterations` over a directory, sorted by release. -/

namespace BenchmarkHistory

namespace Visualize
variable (P : FloatParser)

/-- The loading loop of `main`: each path's release is extracted from the
whole path, and the value `add_file` returns is not looked at. -/
def mainLoad (files : List (String × CsvFile)) : BenchmarkData :=
  files.foldl (fun s file => (addFile P s file.2 (extractReleaseFromFilename file.1)).1) .empty

end Visualize

namespace Compare
variable (P : FloatParser)

/-- A directory as `os.listdir` shows it: its names in the order listed, and its files. -/
structure Directory where
  listing : List String
  files : String → CsvFile

/-- Why `load_benchmark_data`, or the script after it, ends without a result:
`sys.exit(1)` on a missing directory or one without CSV files, or an exception. -/
inductive LoadFailure
  | missingDirectory
  | noCsvFiles
  | raised (error : PyError)
  deriving DecidableEq, Repr

/-- `sort_key`, with Python's comparison of `(int, str)` tuples: strings compare
by their characters' code points, one after the other. -/
def sortKey (filename : String) : Lex (ℕ × List Char) :=
  let release := extractReleaseFromFilename filename
  if lower release = "main" then toLex (0, release.toList) else toLex (1, release.toList)

/-- `csv_files.sort(key=sort_key)`. Python's sort is stable, and every stable
sort gives the same list. -/
def sortFiles (files : List String) : List String :=
  files.insertionSort fun first second => sortKey first ≤ sortKey second

/-- `[f for f in os.listdir(directory) if f.endswith('.csv')]` -/
def csvFiles (listing : List String) : List String := listing.filter (endsWith · ".csv")

/-- The loop of `load_benchmark_data` over the sorted names; an exception from
`add_file` leaves the function. -/
def loadFiles (files : String → CsvFile) : BenchmarkData → List String → Except LoadFailure BenchmarkData
  | s, [] => .ok s
  | s, filename :: filenames =>
    match addFile P s (files filename) (extractReleaseFromFilename filename) with
    | (next, none) => loadFiles files next filenames
    | (_, some error) => .error (.raised error)

/-- `load_benchmark_data(directory)`; `none` is a directory that does not exist. -/
def loadBenchmarkData : Option Directory → Except LoadFailure BenchmarkData
  | none => .error .missingDirectory
  | some directory =>
    match csvFiles directory.listing with
    | [] => .error .noCsvFiles
    | csv => loadFiles P directory.files .empty (sortFiles csv)

end Compare

end BenchmarkHistory
