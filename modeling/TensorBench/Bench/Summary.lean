import TensorBench.Failure
import TensorBench.Json.Basic
import TensorBench.Number.Fixed

/-!
Latency statistics of one run. The first sample is the warm-up and is left out; the others are
sorted before they are added up, so that their order in time does not show in the result.
-/
namespace TensorBench

/-- Retained samples in milliseconds, ascending, with their mean and standard deviation. -/
structure Summary where
  name : String
  mean : Binary64
  deviation : Binary64
  samples : List Binary64
deriving DecidableEq, Inhabited

namespace Summary

/-- The sum from left to right. It starts at minus zero, which changes no summand's sign. -/
def total (samples : List Binary64) : Binary64 :=
  samples.foldl Binary64.add Binary64.negZero

def meanOf (samples : List Binary64) : Binary64 :=
  (total samples).div (.ofNat samples.length)

/-- The deviation of a sample, with one degree of freedom less than samples; zero for one sample. -/
def deviationOf (samples : List Binary64) (mean : Binary64) : Binary64 :=
  if samples.length < 2 then Binary64.zero
  else
    let squares := samples.map fun s => (s.sub mean).mul (s.sub mean)
    ((total squares).div (.ofNat (samples.length - 1))).sqrt

def sorted (samples : List Binary64) : List Binary64 := samples.mergeSort Binary64.totalLe

theorem sorted_perm (samples : List Binary64) : (sorted samples).Perm samples :=
  List.mergeSort_perm _ _

def ofSamples (name : String) (raw : List Binary64) : Except Failure Summary :=
  match raw with
  | _ :: first :: rest =>
      let samples := sorted (first :: rest)
      let mean := meanOf samples
      .ok ⟨name, mean, deviationOf samples mean, samples⟩
  | _ => .error (.insufficientSamples name)

theorem ofSamples_of_short (name : String) {raw : List Binary64} (hshort : raw.length < 2) :
    ofSamples name raw = .error (.insufficientSamples name) := by
  match raw, hshort with
  | [], _ => rfl
  | [_], _ => rfl

/-- A summary is made of the sorted samples behind the first one. -/
theorem ofSamples_of_long (name : String) {raw : List Binary64} (hlong : 2 ≤ raw.length) :
    ofSamples name raw = .ok ⟨name, meanOf (sorted raw.tail),
      deviationOf (sorted raw.tail) (meanOf (sorted raw.tail)), sorted raw.tail⟩ := by
  match raw, hlong with
  | _ :: _ :: _, _ => rfl

/-- The summary on one line. -/
def text (summary : Summary) : String :=
  summary.name ++ " : " ++ Number.Fixed.twoPlaces summary.mean ++ "+-" ++
    Number.Fixed.twoPlaces summary.deviation ++ "ms"

def toJson (summary : Summary) : Json :=
  .obj [("name", .str summary.name), ("mean_ms", .double summary.mean),
    ("std_ms", .double summary.deviation), ("samples", .arr (summary.samples.map .double))]

end Summary

end TensorBench
