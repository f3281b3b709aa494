import TensorBench.KernelGraph.Basic

/-!
A small kernel graph to try things with: two dense layers, the first followed by the rectifier and
the second by the logistic function, over a batch whose size is the placeholder `N`.
-/
namespace TensorBench.KernelGraph.Perceptron

/-- A byte count for each sample of the batch. -/
def perSample (bytes : Nat) : Except Failure Extent :=
  if bytes = 0 then .ok (.value 0)
  else match Placeholder.parse s!"N * {bytes}" with
    | .ok placeholder => .ok (.placeholder placeholder)
    | .error failure => .error failure

/-- The tensors of one sample with their lengths, in the order of their places. -/
def tensors (inputs hidden outputs : Nat) : List (String × Nat) :=
  [("x", inputs), ("h", hidden), ("h_bias", hidden), ("h_relu", hidden), ("o", outputs),
    ("o_bias", outputs), ("y", outputs)]

/-- Place tensors one behind the other from a byte offset on, and set the size to their end. -/
def pushTensors (layout : Layout) (offset : Nat) :
    List (String × Nat) → Except Failure Layout
  | [] => do return layout.setDynamicSize (← perSample offset)
  | (name, elements) :: rest => do
      let bytes := elements * Words.elementSize
      pushTensors (layout.pushDynamic name (← perSample offset) (← perSample bytes))
        (offset + bytes) rest

def layout (inputs hidden outputs : Nat) : Except Failure Layout :=
  let weights := (((Layout.empty.pushStatic "w1" (hidden * inputs * Words.elementSize)).pushStatic
    "b1" (hidden * Words.elementSize)).pushStatic
    "w2" (outputs * hidden * Words.elementSize)).pushStatic "b2" (outputs * Words.elementSize)
  pushTensors weights 0 (tensors inputs hidden outputs)

def kernels (inputs hidden : Nat) : List Kernel :=
  [.linear "x" "w1" "h" (some inputs), .bias "h" "b1" "h_bias", .unary .relu "h_bias" "h_relu",
    .linear "h_relu" "w2" "o" (some hidden), .bias "o" "b2" "o_bias",
    .unary .sigmoid "o_bias" "y"]

/-- The graph for the given layer widths; the batch has one sample unless `N` is bound otherwise. -/
def graph (inputs hidden outputs : Nat) (encoding : String) : Except Failure KernelGraph := do
  return ⟨← layout inputs hidden outputs, encoding, ["x"], ["y"], kernels inputs hidden,
    NameTable.empty.insert "N" 1⟩

/-- The number of weights, in the order of the static part: both matrices, each with its biases. -/
def weightCount (inputs hidden outputs : Nat) : Nat :=
  hidden * inputs + hidden + outputs * hidden + outputs

/-- Weights that are always the same. -/
def weights (inputs hidden outputs : Nat) : List Binary32 :=
  (List.range (weightCount inputs hidden outputs)).map fun i =>
    ((Binary32.ofNat i).mul (.ofNative 0.7311)).sin.mul (.ofNative 0.5)

end TensorBench.KernelGraph.Perceptron
