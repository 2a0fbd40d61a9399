import BenchmarkHistory.Load

/-! The order in which `load_benchmark_data` reads a directory. The sort is
stable, so files whose releases differ are read in the order of their sort
keys whatever the listing, while files of one release keep the order
`os.listdir` gave them, and the last of them wins every value they share. -/

namespace BenchmarkHistory.Proofs.FileOrder
open Compare

section StableSort
variable {α κ : Type} [LinearOrder κ] [DecidableEq κ] (key : α → κ)

theorem filter_insertionSort (l : List α) (k : κ) :
    (l.insertionSort fun a b => key a ≤ key b).filter (key · = k) = l.filter (key · = k) := by
  have pairwise : (l.filter (key · = k)).Pairwise fun a b => key a ≤ key b :=
    (List.pairwise_of_forall (R := fun _ _ => True) fun _ _ => trivial).imp_of_mem
      fun first second _ => by
        simp only [List.mem_filter, decide_eq_true_eq] at first second
        rw [first.2, second.2]
  have kept := (List.sublist_insertionSort pairwise (List.filter_sublist l)).filter (key · = k)
  rw [List.filter_filter, List.filter_congr (fun _ _ => Bool.and_self _)] at kept
  exact (kept.eq_of_length ((List.perm_insertionSort _ l).filter _).length_eq.symm).symm

theorem eq_of_sorted_of_filter_eq :
    ∀ {first second : List α}, first.Sorted (fun a b => key a ≤ key b) →
      second.Sorted (fun a b => key a ≤ key b) →
      (∀ k, first.filter (key · = k) = second.filter (key · = k)) → first = second
  | [], [], _, _, _ => rfl
  | [], b :: _, _, _, same => by simpa using (same (key b)).symm
  | a :: _, [], _, _, same => by simpa using same (key a)
  | a :: first, b :: second, sortedFirst, sortedSecond, same => by
    have lowest : ∀ {x : α} {rest : List α}, (x :: rest).Sorted (fun a b => key a ≤ key b) →
        ∀ y ∈ x :: rest, key x ≤ key y := fun sorted =>
      List.forall_mem_cons.mpr ⟨le_rfl, List.rel_of_sorted_cons sorted⟩
    have member : ∀ {x : α} {l other : List α}, (∀ k, l.filter (key · = k) = other.filter (key · = k)) →
        x ∈ other → x ∈ l := fun {x l other} filters present => by
      have : x ∈ other.filter (key · = key x) := List.mem_filter.mpr ⟨present, by simp⟩
      rw [← filters] at this
      exact (List.mem_filter.mp this).1
    have keys : key a = key b := le_antisymm
      (lowest sortedFirst b (member same (List.mem_cons_self _ _)))
      (lowest sortedSecond a (member (fun k => (same k).symm) (List.mem_cons_self _ _)))
    have heads := same (key a)
    simp only [List.filter_cons, keys, decide_True, ite_true, List.cons.injEq] at heads
    obtain ⟨rfl, -⟩ := heads
    congr 1
    refine eq_of_sorted_of_filter_eq sortedFirst.of_cons sortedSecond.of_cons fun k => ?_
    by_cases atHead : key a = k <;> simpa [List.filter_cons, atHead] using same k

theorem insertionSort_eq_of_filter_eq {l l' : List α}
    (same : ∀ k, l.filter (key · = k) = l'.filter (key · = k)) :
    l.insertionSort (fun a b => key a ≤ key b) = l'.insertionSort (fun a b => key a ≤ key b) := by
  haveI : IsTotal α fun a b => key a ≤ key b := ⟨fun _ _ => le_total _ _⟩
  haveI : IsTrans α fun a b => key a ≤ key b := ⟨fun _ _ _ => le_trans⟩
  exact eq_of_sorted_of_filter_eq key (List.sorted_insertionSort _ l) (List.sorted_insertionSort _ l')
    fun k => by rw [filter_insertionSort, filter_insertionSort, same]

end StableSort

section Directory
variable (P : FloatParser)

theorem sortFiles_eq_nil {files : List String} : sortFiles files = [] ↔ files = [] := by
  rw [← List.length_eq_zero, sortFiles, List.length_insertionSort, List.length_eq_zero]

theorem loadBenchmarkData_some (directory : Directory) :
    loadBenchmarkData P (some directory) =
      if csvFiles directory.listing = [] then .error .noCsvFiles
      else loadFiles P directory.files .empty (sortFiles (csvFiles directory.listing)) := by
  cases listed : csvFiles directory.listing <;> simp [loadBenchmarkData, listed]

theorem extractReleaseFromFilename_of_sortKey {filename : String} {k : Lex (ℕ × List Char)}
    (keyed : sortKey filename = k) : extractReleaseFromFilename filename = ⟨(ofLex k).2⟩ := by
  dsimp only [sortKey] at keyed
  split at keyed <;> (subst keyed; rfl)

theorem filter_sortKey (files : List String) (k : Lex (ℕ × List Char)) :
    files.filter (sortKey · = k) =
      (files.filter (extractReleaseFromFilename · = ⟨(ofLex k).2⟩)).filter (sortKey · = k) := by
  rw [List.filter_filter]
  refine List.filter_congr fun filename _ => ?_
  by_cases keyed : sortKey filename = k
  · simp [keyed, extractReleaseFromFilename_of_sortKey keyed]
  · simp [keyed]

/-- Two listings of a directory in which the `.csv` files of each release come
in the same order are loaded alike. -/
theorem loadBenchmarkData_listing_order (files : String → CsvFile) {listing other : List String}
    (ties : ∀ release, (csvFiles listing).filter (extractReleaseFromFilename · = release) =
      (csvFiles other).filter (extractReleaseFromFilename · = release)) :
    loadBenchmarkData P (some ⟨listing, files⟩) = loadBenchmarkData P (some ⟨other, files⟩) := by
  have sorted : sortFiles (csvFiles listing) = sortFiles (csvFiles other) :=
    insertionSort_eq_of_filter_eq sortKey fun k => by rw [filter_sortKey, ties, ← filter_sortKey]
  have empty : csvFiles listing = [] ↔ csvFiles other = [] := by
    rw [← sortFiles_eq_nil, sorted, sortFiles_eq_nil]
  simp only [loadBenchmarkData_some, sorted, empty]

/-- A directory with a release `1.2.3` and a `main` file. -/
def releaseAndMain (listing : List String) : Directory :=
  ⟨listing, fun _ => ⟨[["dataset", "QPS"], ["x", "1"]], false⟩⟩

theorem loadBenchmarkData_listing_order_releaseAndMain :
    (∀ release, (csvFiles ["1.2.3.csv", "main.csv"]).filter (extractReleaseFromFilename · = release) =
      (csvFiles ["main.csv", "1.2.3.csv"]).filter (extractReleaseFromFilename · = release)) ∧
    loadBenchmarkData integerFloat (some ⟨["1.2.3.csv", "main.csv"], (releaseAndMain []).files⟩) =
      loadBenchmarkData integerFloat (some ⟨["main.csv", "1.2.3.csv"], (releaseAndMain []).files⟩) := by
  have ties : ∀ release, (csvFiles ["1.2.3.csv", "main.csv"]).filter (extractReleaseFromFilename · = release) =
      (csvFiles ["main.csv", "1.2.3.csv"]).filter (extractReleaseFromFilename · = release) := by
    intro release
    have labels : extractReleaseFromFilename "1.2.3.csv" = "1.2.3" ∧ extractReleaseFromFilename "main.csv" = "main" :=
      by decide
    have csv : csvFiles ["1.2.3.csv", "main.csv"] = ["1.2.3.csv", "main.csv"] ∧
        csvFiles ["main.csv", "1.2.3.csv"] = ["main.csv", "1.2.3.csv"] := by decide
    rw [csv.1, csv.2]
    by_cases first : "1.2.3" = release
    · subst first; decide
    · by_cases second : "main" = release <;> simp [List.filter_cons, labels, first, second]
  exact ⟨ties, loadBenchmarkData_listing_order integerFloat _ ties⟩

/-- Two files of one release, `1.2.3`, giving dataset `x` a `QPS` of `1` and `2`. -/
def sameRelease (filename : String) : CsvFile :=
  if filename = "a-1.2.3.csv" then ⟨[["dataset", "QPS"], ["x", "1"]], false⟩
  else ⟨[["dataset", "QPS"], ["x", "2"]], false⟩

/-- The two listing orders of one directory give the value of whichever file
of the shared release comes last. -/
theorem loadBenchmarkData_depends_on_listing :
    ((loadBenchmarkData integerFloat (some ⟨["a-1.2.3.csv", "b-1.2.3.csv"], sameRelease⟩)).toOption.map
        (·.lookup "1.2.3" (some "x") "QPS")) = some (some 2) ∧
    ((loadBenchmarkData integerFloat (some ⟨["b-1.2.3.csv", "a-1.2.3.csv"], sameRelease⟩)).toOption.map
        (·.lookup "1.2.3" (some "x") "QPS")) = some (some 1) := by
  decide

theorem sortKey_le_of_sublist {files : List String} {first second : String}
    (order : List.Sublist [first, second] (sortFiles files)) : sortKey first ≤ sortKey second := by
  haveI : IsTotal String fun a b => sortKey a ≤ sortKey b := ⟨fun _ _ => le_total _ _⟩
  haveI : IsTrans String fun a b => sortKey a ≤ sortKey b := ⟨fun _ _ _ => le_trans⟩
  have sorted : (sortFiles files).Sorted fun a b => sortKey a ≤ sortKey b := List.sorted_insertionSort _ files
  have before := List.pairwise_pair.mp (sorted.sublist order)
  exact before

/-- `sort_key` gives `main` the flag `0`, so a file labelled `main` is read
before every file that is not. -/
theorem main_sorted_first {files : List String} {first second : String}
    (order : List.Sublist [first, second] (sortFiles files))
    (main : lower (extractReleaseFromFilename second) = "main") :
    lower (extractReleaseFromFilename first) = "main" := by
  have before := sortKey_le_of_sublist order
  by_contra other
  simp only [sortKey, main, other, ite_true, ite_false, Prod.Lex.le_iff] at before
  omega

/-- `load_benchmark_data` reads the `main` file first and records its release
before the versioned one. -/
theorem loadBenchmarkData_main_first :
    (loadBenchmarkData integerFloat (some (releaseAndMain ["1.2.3.csv", "main.csv"]))).toOption.map
      (·.releases) = some ["main", "1.2.3"] := by
  decide

end Directory

end BenchmarkHistory.Proofs.FileOrder
