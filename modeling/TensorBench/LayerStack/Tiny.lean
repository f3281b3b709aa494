import TensorBench.LayerStack.Topology

/-!
A small classifier to try things with: pool, normalize, two dense layers and a softmax, with weights
that are always the same.
-/
namespace TensorBench.LayerStack.Tiny

def topology (hidden classes : Nat) : Topology :=
  ⟨"tiny",
    [.globalAveragePooling "gap", .batchNormalization "bn" LayerSpec.defaultEpsilon,
      .dense "fc1" hidden .relu, .dropout "dropout" (.ofNative 0.2), .dense "fc2" classes .linear,
      .activation "softmax" .softmax]⟩

/-- A weight of a layer: its names, its shape and its element at each position. -/
structure Recipe where
  layer : String
  weight : String
  shape : List Nat
  element : Binary32 → Binary32

def Recipe.length (recipe : Recipe) : Nat := Words.product recipe.shape

/-- The weights in the order of the buffer. An element depends on its position within its weight. -/
def recipes (channels hidden classes : Nat) : List Recipe :=
  let one : Binary32 := Scalar.one
  let zero : Binary32 := Scalar.zero
  [⟨"bn", "gamma", [channels], fun _ => one⟩,
    ⟨"bn", "beta", [channels], fun i => i.mul (.ofNative 0.1)⟩,
    ⟨"bn", "moving_mean", [channels], fun _ => zero⟩,
    ⟨"bn", "moving_variance", [channels], fun i => one.add (i.mul (.ofNative 0.5))⟩,
    ⟨"fc1", "kernel", [channels, hidden],
      fun i => (i.mul (.ofNative 0.37)).sin.mul (.ofNative 0.3)⟩,
    ⟨"fc1", "bias", [hidden], fun i => (i.mul (.ofNative 0.11)).cos.mul (.ofNative 0.05)⟩,
    ⟨"fc2", "kernel", [hidden, classes],
      fun i => (i.mul (.ofNative 0.53)).sin.mul (.ofNative 0.2)⟩,
    ⟨"fc2", "bias", [classes], fun _ => zero⟩]

/-- Entries for weights that lie one behind the other from an offset on. -/
def entriesFrom (offset : Nat) : List Recipe → List WeightEntry
  | [] => []
  | recipe :: rest =>
      ⟨recipe.layer, recipe.weight, offset, recipe.length, recipe.shape⟩ ::
        entriesFrom (offset + recipe.length) rest

def entries (channels hidden classes : Nat) : List WeightEntry :=
  entriesFrom 0 (recipes channels hidden classes)

def weights (channels hidden classes : Nat) : List Binary32 :=
  (recipes channels hidden classes).flatMap fun recipe =>
    (List.range recipe.length).map fun i => recipe.element (.ofNat i)

end TensorBench.LayerStack.Tiny
