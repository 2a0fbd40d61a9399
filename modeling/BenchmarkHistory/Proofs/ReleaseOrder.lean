import BenchmarkHistory.Proofs.Report
import BenchmarkHistory.Proofs.FileOrder
import Mathlib.Data.List.Dedup

/-! The release list each loader builds. Every `add_file` call records its
release before it opens the file and only when the release is new, so a load
lists the labels of its files in the order of their first appearance, a file
that cannot be read included. `visualize_benchmarks.main` takes its paths in
the order given, and the last new label is what its report calls the latest
release. `load_benchmark_data` sorts the names first, so its list depends only
on which labels the directory holds: those that lower to `main` first, then
the others by code point. -/

namespace BenchmarkHistory.Proofs.ReleaseOrder
open BenchmarkData Contribution

/-- Laying stores that each hold one release over `s` appends each release the
first time it comes: the labels, after `s`'s releases, kept at their first
occurrence (`dedup` keeps the last, hence the two reversals). -/
theorem releases_foldl_overlay {α : Type} (contribution : α → BenchmarkData) (label : α → String)
    (own : ∀ item, (contribution item).releases = [label item]) :
    ∀ (items : List α) (s : BenchmarkData), s.releases.Nodup →
      (items.foldl (fun s item => s.overlay (contribution item)) s).releases =
        ((items.map label).reverse ++ s.releases.reverse).dedup.reverse
  | [], s, nodup => by simp [List.Nodup.dedup (List.nodup_reverse.mpr nodup)]
  | item :: items, s, nodup => by
    have step : (s.overlay (contribution item)).releases =
        if label item ∈ s.releases then s.releases else s.releases ++ [label item] := by
      rw [overlay_releases, own]
      by_cases known : label item ∈ s.releases <;> simp [known]
    have stepOnce : (s.overlay (contribution item)).releases.Nodup := by
      rw [step]
      split
      · exact nodup
      · exact nodup.append (List.nodup_singleton _) (List.disjoint_singleton.mpr ‹_›)
    rw [List.foldl_cons, releases_foldl_overlay contribution label own items _ stepOnce, step]
    by_cases known : label item ∈ s.releases
    · rw [if_pos known, List.map_cons, List.reverse_cons, List.append_assoc, List.singleton_append,
        List.dedup_append, List.dedup_append, List.dedup_cons_of_mem (List.mem_reverse.mpr known)]
    · simp [known]

section Loaders
variable (P : FloatParser)

theorem loadFiles_ok {tables : String → CsvFile} {s t : BenchmarkData} {names : List String}
    (loaded : Compare.loadFiles P tables s names = .ok t) :
    t = names.foldl (fun s name =>
      s.overlay (compareContribution P (tables name) (Compare.extractReleaseFromFilename name))) s := by
  have found := congrArg Except.toOption loaded
  rw [loadFiles_toOption] at found
  split at found
  · exact (Option.some.inj found).symm
  · cases found

theorem loadBenchmarkData_releases_eq {directory : Compare.Directory} {s : BenchmarkData}
    (loaded : Compare.loadBenchmarkData P (some directory) = .ok s) :
    s.releases =
      ((Compare.sortFiles (Compare.csvFiles directory.listing)).map Compare.extractReleaseFromFilename).reverse.dedup.reverse := by
  simp only [Compare.loadBenchmarkData] at loaded
  split at loaded
  · cases loaded
  · rw [loadFiles_ok P loaded, releases_foldl_overlay _ Compare.extractReleaseFromFilename
      (fun name => releases_compareContribution P (directory.files name) _) _ .empty List.nodup_nil]
    simp [BenchmarkData.empty]

/-- For every directory that `load_benchmark_data` loads, whatever order
`os.listdir` gives its names in, the releases are the labels of its `.csv`
files, each once: those that lower to `main` first, then the others, each group
in strictly increasing order of code points. -/
theorem loadBenchmarkData_releases {directory : Compare.Directory} {s : BenchmarkData}
    (loaded : Compare.loadBenchmarkData P (some directory) = .ok s) :
    (∀ release, release ∈ s.releases ↔
      ∃ name ∈ directory.listing, endsWith name ".csv" = true ∧ Compare.extractReleaseFromFilename name = release) ∧
    s.releases.Pairwise fun a b =>
      (lower a = "main" ∧ lower b ≠ "main") ∨ ((lower a = "main" ↔ lower b = "main") ∧ a.toList < b.toList) := by
  let key : String → Lex (ℕ × List Char) := fun release =>
    if lower release = "main" then toLex (0, release.toList) else toLex (1, release.toList)
  let labels := (Compare.sortFiles (Compare.csvFiles directory.listing)).map Compare.extractReleaseFromFilename
  have releases : s.releases = labels.reverse.dedup.reverse := loadBenchmarkData_releases_eq P loaded
  have sorted : labels.Pairwise fun a b => key a ≤ key b := by
    haveI : IsTotal String fun a b => Compare.sortKey a ≤ Compare.sortKey b := ⟨fun _ _ => le_total _ _⟩
    haveI : IsTrans String fun a b => Compare.sortKey a ≤ Compare.sortKey b := ⟨fun _ _ _ => le_trans⟩
    have sortedFiles : (Compare.sortFiles (Compare.csvFiles directory.listing)).Sorted
        fun a b => Compare.sortKey a ≤ Compare.sortKey b := List.sorted_insertionSort _ _
    exact List.pairwise_map.mpr sortedFiles
  have kept : s.releases.Sublist labels := by
    simpa [releases] using (List.dedup_sublist labels.reverse).reverse
  have once : s.releases.Nodup := by
    rw [releases]
    exact List.nodup_reverse.mpr (List.nodup_dedup _)
  refine ⟨fun release => ?_, ((sorted.sublist kept).and once).imp fun {a b} ⟨le, different⟩ => ?_⟩
  · rw [releases]
    simp [labels, List.mem_dedup, (List.perm_insertionSort _ _).mem_iff, Compare.sortFiles, Compare.csvFiles, and_assoc]
  · have distinct : a.toList ≠ b.toList := fun same => different (congrArg String.mk same)
    simp only [key] at le
    by_cases first : lower a = "main" <;> by_cases second : lower b = "main" <;>
      simp [first, second, Prod.Lex.le_iff] at le ⊢
    all_goals exact lt_of_le_of_ne le distinct

/-- The directory of `1.2.3.csv` and `main.csv`, listed in this order. -/
theorem loadBenchmarkData_releases_releaseAndMain :
    let s := (Compare.loadBenchmarkData integerFloat
      (some (FileOrder.releaseAndMain ["1.2.3.csv", "main.csv"]))).toOption.getD .empty
    Compare.loadBenchmarkData integerFloat (some (FileOrder.releaseAndMain ["1.2.3.csv", "main.csv"])) = .ok s ∧
      (∀ release, release ∈ s.releases ↔ ∃ name ∈ ["1.2.3.csv", "main.csv"], endsWith name ".csv" = true ∧
        Compare.extractReleaseFromFilename name = release) ∧
      s.releases.Pairwise fun a b =>
        (lower a = "main" ∧ lower b ≠ "main") ∨ ((lower a = "main" ↔ lower b = "main") ∧ a.toList < b.toList) :=
  have loaded : Compare.loadBenchmarkData integerFloat (some (FileOrder.releaseAndMain ["1.2.3.csv", "main.csv"])) =
      .ok ((Compare.loadBenchmarkData integerFloat
        (some (FileOrder.releaseAndMain ["1.2.3.csv", "main.csv"]))).toOption.getD .empty) := rfl
  ⟨loaded, loadBenchmarkData_releases integerFloat loaded⟩

end Loaders

end BenchmarkHistory.Proofs.ReleaseOrder
