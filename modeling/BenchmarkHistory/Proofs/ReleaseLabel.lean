import BenchmarkHistory.Release
import Mathlib.Data.List.Basic

/-! The release label that `visualize_benchmarks.main` gives each path it is
passed, and how the labels of the two scripts compare. `re.search` runs over the
whole path, and no match of either pattern reads across a `/`: the label of
`directory/name` is the first version found in the directory, and the label of
the name alone only when the directory has none. The comparison script needs a
three-part version and falls back to the whole name without its extension, so
the two scripts label alike the names with no version at all, and apart a name
such as `v1.2.csv`. -/

namespace BenchmarkHistory.Proofs.ReleaseLabel

/-! ### A character that stops every match -/

theorem span_append_stop {α : Type} {p : α → Bool} {c : α} (stop : p c = false) :
    ∀ (s y : List α), (s ++ c :: y).span p = ((s.span p).1, (s.span p).2 ++ c :: y)
  | [], y => by simp [List.span_eq_take_drop, List.takeWhile_cons, List.dropWhile_cons, stop]
  | a :: s, y => by
    have rest := span_append_stop stop s y
    simp only [List.span_eq_take_drop, Prod.mk.injEq] at rest ⊢
    cases here : p a <;> simp [List.takeWhile_cons, List.dropWhile_cons, here, rest]

theorem digitRun_append_stop {c : Char} (stop : isDecimal c = false) (s y : List Char) :
    digitRun (s ++ c :: y) = (digitRun s).map fun run => (run.1, run.2 ++ c :: y) := by
  unfold digitRun
  rw [span_append_stop stop]
  rcases s.span isDecimal with ⟨_ | ⟨d, run⟩, rest⟩ <;> rfl

theorem versionNumber_append_stop {c : Char} (notDigit : isDecimal c = false) (notDot : c ≠ '.') (s y : List Char) :
    versionNumber (s ++ c :: y) = versionNumber s := by
  unfold versionNumber
  simp only [digitRun_append_stop notDigit]
  rcases digitRun s with _ | ⟨major, _ | ⟨d, rest⟩⟩
  · rfl
  · simp only [Option.map_some', Option.bind_eq_bind, Option.some_bind, List.nil_append, List.cons.injEq, notDot,
      false_and, imp_self, implies_true]
  by_cases dot : d = '.'
  · subst dot
    simp only [Option.map_some', Option.bind_eq_bind, Option.some_bind, List.cons_append, digitRun_append_stop notDigit]
    rcases digitRun rest with _ | ⟨minor, _ | ⟨e, rest⟩⟩
    · rfl
    · simp only [Option.map_some', Option.some_bind, List.nil_append, List.cons.injEq, notDot, false_and, imp_self,
        implies_true]
    by_cases dot : e = '.'
    · subst dot
      simp only [Option.map_some', Option.some_bind, List.cons_append, digitRun_append_stop notDigit]
      rcases digitRun rest with _ | ⟨patch, _⟩ <;> rfl
    · simp only [Option.map_some', Option.some_bind, List.cons_append, List.cons.injEq, dot, false_and, imp_self,
        implies_true]
  · simp only [Option.map_some', Option.bind_eq_bind, Option.some_bind, List.cons_append, List.cons.injEq, dot,
      false_and, imp_self, implies_true]

theorem isPrefixOf_append_stop {c : Char} : ∀ {word : List Char}, c ∉ word → ∀ s y,
    word.isPrefixOf (s ++ c :: y) = word.isPrefixOf s
  | [], _, _, _ => by simp
  | a :: word, absent, [], y => by
    have different : (a == c) = false := beq_false_of_ne fun same => absent (same ▸ List.mem_cons_self a word)
    simp [List.isPrefixOf, different]
  | a :: word, absent, b :: s, y => by
    simp [List.isPrefixOf, isPrefixOf_append_stop (fun inWord => absent (List.mem_cons_of_mem a inWord)) s y]

theorem afterPrefix_append_stop {prefixes : List (List Char)} {rest : List Char → Option (List Char)} {c : Char}
    (absent : ∀ word ∈ prefixes, c ∉ word) (stays : ∀ s y, rest (s ++ c :: y) = rest s) (s y : List Char) :
    afterPrefix prefixes rest (s ++ c :: y) = afterPrefix prefixes rest s := by
  unfold afterPrefix
  rw [stays, List.filterMap_congr fun word member => ?_]
  rw [isPrefixOf_append_stop (absent word member)]
  split
  · next front => rw [List.drop_append_of_le_length (List.isPrefixOf_iff_prefix.mp front).length_le, stays]
  · rfl

/-- When no match reads past `c`, the leftmost match in `p ++ c :: f` is the
leftmost one in `p`, and only when `p` has none the leftmost one in `f`. -/
theorem search_append_stop {matchAt : List Char → Option (List Char)} {c : Char}
    (stays : ∀ s y, matchAt (s ++ c :: y) = matchAt s) (empty : matchAt [] = none) (f : List Char) :
    ∀ p, search matchAt (p ++ c :: f) = (search matchAt p).orElse fun _ => search matchAt f
  | [] => by
    have first : matchAt (c :: f) = none := (stays [] f).trans empty
    simp [search, first, empty]
  | a :: p => by
    have first : matchAt (a :: (p ++ c :: f)) = matchAt (a :: p) := stays (a :: p) f
    rw [List.cons_append, search, search, first, search_append_stop stays empty f p]
    cases matchAt (a :: p) <;> rfl

/-! ### The label of a path -/

theorem basename_of_flat {name : String} (flat : '/' ∉ name.toList) : basename name = name := by
  have kept : name.toList.reverse.takeWhile (· ≠ '/') = name.toList.reverse :=
    List.takeWhile_eq_self_iff.mpr fun x member => by
      simpa using fun same : x = '/' => flat (same ▸ List.mem_reverse.mp member)
  simp only [basename, kept, List.reverse_reverse]
  rfl

theorem basename_join (directory : String) {name : String} (flat : '/' ∉ name.toList) :
    basename (directory ++ "/" ++ name) = name := by
  have reversed : (directory ++ "/" ++ name).toList.reverse = name.toList.reverse ++ '/' :: directory.toList.reverse := by
    simp [String.toList, String.data_append]
  have kept : (name.toList.reverse ++ '/' :: directory.toList.reverse).takeWhile (· ≠ '/') = name.toList.reverse := by
    rw [List.takeWhile_append_of_pos fun x member => by
      simpa using fun same : x = '/' => flat (same ▸ List.mem_reverse.mp member)]
    simp
  simp only [basename, reversed, kept, List.reverse_reverse]
  rfl

theorem versionPattern_append_slash (s y : List Char) :
    afterPrefix [['v'], "release-".toList, "release_".toList] versionNumber (s ++ '/' :: y) =
      afterPrefix [['v'], "release-".toList, "release_".toList] versionNumber s :=
  afterPrefix_append_stop (by decide) (versionNumber_append_stop (by decide) (by decide)) s y

/-- For every directory and file name, the label of `directory/name` is the
first version in the directory when there is one, and otherwise the label of
the name. -/
theorem extractReleaseFromFilename_join (directory name : String) (flat : '/' ∉ name.toList) :
    Visualize.extractReleaseFromFilename (directory ++ "/" ++ name) =
      match search (afterPrefix [['v'], "release-".toList, "release_".toList] versionNumber) directory.toList with
      | some release => ⟨release⟩
      | none => Visualize.extractReleaseFromFilename name := by
  have path : (directory ++ "/" ++ name).toList = directory.toList ++ '/' :: name.toList := by
    simp [String.toList, String.data_append]
  unfold Visualize.extractReleaseFromFilename
  rw [path, search_append_stop versionPattern_append_slash rfl, basename_join directory flat, basename_of_flat flat]
  cases search _ directory.toList <;> rfl

theorem extractReleaseFromFilename_join_runs :
    '/' ∉ "2.0.csv".toList ∧ Visualize.extractReleaseFromFilename ("runs" ++ "/" ++ "2.0.csv") =
      match search (afterPrefix [['v'], "release-".toList, "release_".toList] versionNumber) "runs".toList with
      | some release => ⟨release⟩
      | none => Visualize.extractReleaseFromFilename "2.0.csv" :=
  have flat : '/' ∉ "2.0.csv".toList := by decide
  ⟨flat, extractReleaseFromFilename_join "runs" "2.0.csv" flat⟩

/-- A file `2.0.csv` under a directory `runs/v1.0` is labelled `1.0`, not `2.0`. -/
theorem extractReleaseFromFilename_directory_version_wins :
    Visualize.extractReleaseFromFilename "runs/v1.0/2.0.csv" = "1.0" ∧
      Visualize.extractReleaseFromFilename "2.0.csv" = "2.0" := by
  decide

/-! ### The two scripts' labels -/

theorem versionNumber_of_threePartVersion {text release : List Char} :
    threePartVersion text = some release → versionNumber text = some release := by
  unfold threePartVersion versionNumber
  rcases digitRun text with _ | ⟨major, rest⟩
  · exact id
  simp only [Option.bind_eq_bind, Option.some_bind]
  split
  · next rest =>
    rcases digitRun rest with _ | ⟨minor, rest⟩
    · exact id
    simp only [Option.some_bind]
    split
    · next rest => cases digitRun rest <;> simp
    · exact nofun
  · exact id

theorem threePartVersion_eq_none {text : List Char} (missing : versionNumber text = none) :
    threePartVersion text = none := by
  cases found : threePartVersion text with
  | none => rfl
  | some release => rw [versionNumber_of_threePartVersion found] at missing; cases missing

theorem afterPrefix_eq_none_iff {prefixes : List (List Char)} {rest : List Char → Option (List Char)}
    {text : List Char} :
    afterPrefix prefixes rest text = none ↔
      (∀ word ∈ prefixes, word.isPrefixOf text → rest (text.drop word.length) = none) ∧ rest text = none := by
  simp [afterPrefix, List.head?_eq_none_iff, List.filterMap_eq_nil_iff]

theorem search_eq_none_of_imp {fewer more : List Char → Option (List Char)}
    (weaker : ∀ text, more text = none → fewer text = none) :
    ∀ text, search more text = none → search fewer text = none
  | [], missing => weaker [] missing
  | c :: text, missing => by
    rw [search, Option.orElse_eq_none'] at missing ⊢
    exact ⟨weaker _ missing.1, search_eq_none_of_imp weaker text missing.2⟩

/-- The scripts label alike every file name in which the visualizing script's
pattern finds no version: each falls back to the name without its extension. -/
theorem extractReleaseFromFilename_agree_of_no_version {name : String} (flat : '/' ∉ name.toList)
    (noVersion : search (afterPrefix [['v'], "release-".toList, "release_".toList] versionNumber) name.toList = none) :
    Compare.extractReleaseFromFilename name = Visualize.extractReleaseFromFilename name := by
  have weaker : ∀ text, afterPrefix [['v'], "release-".toList, "release_".toList] versionNumber text = none →
      afterPrefix [['v']] threePartVersion text = none := by
    simp only [afterPrefix_eq_none_iff]
    exact fun text missing => ⟨fun word member front => threePartVersion_eq_none
      (missing.1 word (List.mem_cons.mpr (Or.inl (List.mem_singleton.mp member))) front),
      threePartVersion_eq_none missing.2⟩
  unfold Compare.extractReleaseFromFilename Visualize.extractReleaseFromFilename
  rw [noVersion, search_eq_none_of_imp weaker _ noVersion, basename_of_flat flat]

theorem extractReleaseFromFilename_agree_main :
    '/' ∉ "main.csv".toList ∧
      search (afterPrefix [['v'], "release-".toList, "release_".toList] versionNumber) "main.csv".toList = none ∧
      Compare.extractReleaseFromFilename "main.csv" = Visualize.extractReleaseFromFilename "main.csv" :=
  have flat : '/' ∉ "main.csv".toList := by decide
  have noVersion :
      search (afterPrefix [['v'], "release-".toList, "release_".toList] versionNumber) "main.csv".toList = none := by
    decide
  ⟨flat, noVersion, extractReleaseFromFilename_agree_of_no_version flat noVersion⟩

/-- On `v1.2.csv` the comparison script finds no three-part version and keeps
`v1.2`, while the visualizing script reads `1.2`. -/
theorem extractReleaseFromFilename_two_part_version_differs :
    Compare.extractReleaseFromFilename "v1.2.csv" = "v1.2" ∧
      Visualize.extractReleaseFromFilename "v1.2.csv" = "1.2" := by
  decide

end BenchmarkHistory.Proofs.ReleaseLabel
