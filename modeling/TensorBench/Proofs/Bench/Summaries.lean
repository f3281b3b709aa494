import TensorBench.Bench.Summary
import TensorBench.Proofs.Number.TotalOrder

/-!
Summaries and the order of samples. Sums of rounded numbers depend on the order of the summands, but a
summary sorts its samples first, and in a total order that tells all patterns apart there is one sorted
list of them. So a summary depends on which samples were taken behind the warm-up, and how often each,
and on nothing else.
-/
namespace TensorBench.Summary

open Binary64 (Precedes)

theorem pairwise_sorted (samples : List Binary64) : (sorted samples).Pairwise Precedes := by
  have hascending := List.pairwise_mergeSort Binary64.totalLe_trans Binary64.totalLe_total samples
  exact hascending.imp fun {x y} hle => (Binary64.totalLe_iff_precedes x y).mp hle

/-- There is one way to put patterns in the total order. -/
theorem eq_sorted {samples ordered : List Binary64} (hsame : ordered.Perm samples)
    (hascending : ordered.Pairwise Precedes) : ordered = sorted samples :=
  List.Perm.eq_of_pairwise (fun _ _ _ _ => Precedes.antisymm) hascending (pairwise_sorted samples)
    (hsame.trans (sorted_perm samples).symm)

theorem sorted_eq_of_perm {samples others : List Binary64} (hsame : samples.Perm others) :
    sorted samples = sorted others :=
  eq_sorted ((sorted_perm samples).trans hsame) (pairwise_sorted samples)

/-- Runs whose samples behind the warm-up are the same up to their order have the same mean, deviation
and samples, to the last bit; the samples are those behind the warm-up in the total order, which
determines them. Without a sample behind the warm-up there is no summary. -/
theorem ofSamples_ignores_order (name : String) (raw : List Binary64) :
    (raw.length < 2 → ofSamples name raw = .error (.insufficientSamples name)) ∧
    ∀ (other : String) (reordered : List Binary64), 2 ≤ raw.length → 2 ≤ reordered.length →
      raw.tail.Perm reordered.tail →
      ∃ mean deviation samples,
        ofSamples name raw = .ok ⟨name, mean, deviation, samples⟩ ∧
        ofSamples other reordered = .ok ⟨other, mean, deviation, samples⟩ ∧
        samples.Perm raw.tail ∧ samples.Pairwise Precedes ∧
        ∀ ordered : List Binary64, ordered.Perm raw.tail → ordered.Pairwise Precedes →
          ordered = samples := by
  refine ⟨ofSamples_of_short name, fun other reordered hlong hlong' hsame => ?_⟩
  refine ⟨_, _, _, ofSamples_of_long name hlong, ?_, sorted_perm _, pairwise_sorted _,
    fun _ => eq_sorted⟩
  rw [ofSamples_of_long other hlong', sorted_eq_of_perm hsame]

/-- A warm-up, then both zeros, infinity, a number twice, and two patterns that are no numbers. -/
def mixedSamples : List Binary64 :=
  [⟨0x4000000000000000⟩, ⟨0x7ff8000000000001⟩, ⟨0⟩, ⟨0x3ff0000000000000⟩, ⟨0x8000000000000000⟩,
    ⟨0xfff8000000000000⟩, ⟨0x3ff0000000000000⟩, ⟨0x7ff0000000000000⟩]

/-- The same samples in another order behind another warm-up. -/
def shuffledSamples : List Binary64 :=
  [⟨0x7ff8000000000000⟩, ⟨0x3ff0000000000000⟩, ⟨0x7ff0000000000000⟩, ⟨0x8000000000000000⟩,
    ⟨0x7ff8000000000001⟩, ⟨0x3ff0000000000000⟩, ⟨0xfff8000000000000⟩, ⟨0⟩]

theorem ofSamples_ignores_order_mixed :
    2 ≤ mixedSamples.length ∧ 2 ≤ shuffledSamples.length ∧
      mixedSamples.tail.Perm shuffledSamples.tail ∧
      (∃ mean deviation samples,
        ofSamples "mixed" mixedSamples = .ok ⟨"mixed", mean, deviation, samples⟩ ∧
        ofSamples "shuffled" shuffledSamples = .ok ⟨"shuffled", mean, deviation, samples⟩ ∧
        samples.Perm mixedSamples.tail ∧ samples.Pairwise Precedes) ∧
      ([⟨0⟩] : List Binary64).length < 2 ∧
      ofSamples "one" [⟨0⟩] = .error (.insufficientSamples "one") := by
  have hsame : mixedSamples.tail.Perm shuffledSamples.tail := by decide
  obtain ⟨mean, deviation, samples, hfirst, hsecond, hperm, hascending, -⟩ :=
    (ofSamples_ignores_order "mixed" mixedSamples).2 "shuffled" shuffledSamples (by decide)
      (by decide) hsame
  exact ⟨by decide, by decide, hsame, ⟨mean, deviation, samples, hfirst, hsecond, hperm,
    hascending⟩, by decide, (ofSamples_ignores_order "one" [⟨0⟩]).1 (by decide)⟩

end TensorBench.Summary
