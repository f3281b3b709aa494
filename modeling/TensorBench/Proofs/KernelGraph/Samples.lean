import TensorBench.Proofs.KernelGraph.Running
import TensorBench.Proofs.KernelGraph.PerSample

/-!
Layers over the samples of a batch. Each layer computes the sample of its output from the same sample
of its input and from static elements. So the steps of a chain of layers, executed for a batch and for
one sample alone, keep that sample and the batch of one in agreement from layer to layer.
-/
namespace TensorBench.KernelGraph.Perceptron

open Execution

/-- What one layer of a network computes; its parameters are static elements. -/
inductive Layer where
  | linear (w : Slice)
  | bias (b : Slice)
  | transform (function : UnaryFunction)

namespace Layer

/-- The operation on an input whose samples have so many elements. -/
def operation (x : Slice) (width : Nat) : Layer → Operation
  | linear w => .linear width x w
  | bias b => .combine .add x b
  | transform function => .transform function x

def step (base batch : Nat) (x y : Tensor) (layer : Layer) : Step :=
  ⟨layer.operation (x.slice base batch) x.width, y.slice base batch⟩

/-- The parameters are static and have the lengths that the widths of input and output require. -/
def Fits (base input output : Nat) : Layer → Prop
  | linear w => 0 < input ∧ w.length = output * input ∧ w.start + w.length ≤ base
  | bias b => input = output ∧ b.length = output ∧ b.start + b.length ≤ base
  | transform _ => input = output

end Layer

/-- A layer gives every element of its output a value. -/
theorem Layer.reach_step {base : Nat} {x y : Tensor} {layer : Layer} (batch : Nat)
    (hfits : layer.Fits base x.width y.width) :
    reach (layer.step base batch x y) = batch * y.width := by
  cases layer with
  | linear w =>
    obtain ⟨hwidth, hlength, -⟩ := hfits
    simp only [reach, Layer.step, Layer.operation, Tensor.slice, hlength,
      Nat.mul_div_cancel _ hwidth]
  | bias b => rfl
  | transform function => rfl

/-- The matrix of a layer has a row for each element of a sample that it writes. -/
theorem Layer.exact_step {base batch : Nat} {x y : Tensor} {layer : Layer} (hbatch : 0 < batch)
    (hfits : layer.Fits base x.width y.width) : Exact (layer.step base batch x y) := by
  cases layer with
  | linear w =>
    obtain ⟨hwidth, hlength, -⟩ := hfits
    simp only [Exact, Layer.step, Layer.operation, Tensor.slice, hlength,
      Nat.mul_div_cancel _ hwidth, Nat.mul_div_cancel_left _ hbatch]
    exact Nat.mul_comm _ _
  | bias b => trivial
  | transform function => trivial

variable {α : Type} [Scalar α] {base batch sample : Nat} {many one : Array α}

/-- Two buffers have the same static elements. -/
def StaticAgrees (base : Nat) (many one : Array α) : Prop :=
  ∀ i < base, element many i = element one i

/-- A sample of a batch has the elements of the only sample of another buffer. -/
def SampleAgrees (base batch sample : Nat) (many one : Array α) (tensor : Tensor) : Prop :=
  ∀ i < tensor.width, element many ((tensor.slice base batch).start + (sample * tensor.width + i)) =
    element one ((tensor.slice base 1).start + i)

/-- The elements of a sample lie among those of the batch. -/
theorem sample_add_le (width : Nat) (hknown : sample < batch) :
    sample * width + width ≤ batch * width := by
  rw [← Nat.succ_mul]
  exact Nat.mul_le_mul_right width hknown

/-- A layer gives a sample of its output the values it gives to the only sample of a batch of one. -/
theorem Layer.valueAt_sample {layer : Layer} {x y : Tensor} (start : α)
    (hfits : layer.Fits base x.width y.width) (hfixed : StaticAgrees base many one)
    (hinput : SampleAgrees base batch sample many one x) (i : Nat) (hinside : i < y.width) :
    valueAt start many (layer.operation (x.slice base batch) x.width) (sample * y.width + i) =
      valueAt start one (layer.operation (x.slice base 1) x.width) i := by
  cases layer with
  | linear w =>
    obtain ⟨hpositive, hweights, hstatic⟩ := hfits
    have houter : w.length / x.width = y.width := by rw [hweights, Nat.mul_div_cancel _ hpositive]
    have hfirst := valueAt_linear start one x.width (x.slice base 1) w y.width 0 i houter hinside
    rw [Nat.zero_mul, Nat.zero_add] at hfirst
    rw [Layer.operation, Layer.operation, hfirst,
      valueAt_linear start many _ _ _ _ _ _ houter hinside]
    have hrow : window many ((x.slice base batch).start + sample * x.width) x.width =
        window one ((x.slice base 1).start + 0 * x.width) x.width := by
      refine window_congr fun j hbound => ?_
      rw [Nat.zero_mul, Nat.add_zero, Nat.add_assoc]
      exact hinput j hbound
    have hunit : window many (w.start + i * x.width) x.width =
        window one (w.start + i * x.width) x.width := by
      refine window_congr fun j hbound => hfixed _ ?_
      have hlast := sample_add_le x.width hinside
      omega
    rw [hrow, hunit]
  | bias b =>
    obtain ⟨hsame, hlength, hstatic⟩ := hfits
    have hcolumn : (sample * y.width + i) % y.width = i :=
      column_of_position sample y.width i hinside
    simp only [Layer.operation, valueAt, hlength, hcolumn, Nat.mod_eq_of_lt hinside]
    rw [← hsame, hinput i (hsame ▸ hinside), hfixed _ (by omega)]
  | transform function =>
    have hsame : x.width = y.width := hfits
    simp only [Layer.operation, valueAt]
    rw [← hsame, hinput i (hsame ▸ hinside)]

/-! ### The buffer after a step -/

/-- The samples of a tensor lie inside a buffer. -/
def Tensor.Inside (base batch size : Nat) (tensor : Tensor) : Prop :=
  (tensor.slice base batch).start + (tensor.slice base batch).length ≤ size

theorem StaticAgrees.applyStep {layer : Layer} {x y : Tensor} (start : α)
    (hfixed : StaticAgrees base many one) :
    StaticAgrees base (applyStep start many (layer.step base batch x y))
      (applyStep start one (layer.step base 1 x y)) := by
  intro i hstatic
  rw [element_applyStep_outside start many _ i (.inl (Nat.lt_add_right _ hstatic)),
    element_applyStep_outside start one _ i (.inl (Nat.lt_add_right _ hstatic)), hfixed i hstatic]

theorem SampleAgrees.applyStep {layer : Layer} {x y : Tensor} (start : α)
    (hfits : layer.Fits base x.width y.width) (hfixed : StaticAgrees base many one)
    (hinput : SampleAgrees base batch sample many one x) (hknown : sample < batch)
    (hinMany : y.Inside base batch many.size) (hinOne : y.Inside base 1 one.size) :
    SampleAgrees base batch sample (applyStep start many (layer.step base batch x y))
      (applyStep start one (layer.step base 1 x y)) y := by
  intro i hbound
  have hlast := sample_add_le y.width hknown
  simp only [Tensor.Inside, Tensor.slice] at hinMany hinOne
  have hbatched := element_applyStep_output start many (layer.step base batch x y)
    (sample * y.width + i) (by simp only [Layer.step, Tensor.slice]; omega)
    (by simp only [Layer.step, Tensor.slice]; omega)
  have halone := element_applyStep_output start one (layer.step base 1 x y) i
    (by simp only [Layer.step, Tensor.slice]; omega)
    (by simp only [Layer.step, Tensor.slice]; omega)
  rw [Layer.reach_step batch hfits, if_pos (by omega)] at hbatched
  rw [Layer.reach_step 1 hfits, Nat.one_mul, if_pos hbound] at halone
  exact hbatched.trans ((layer.valueAt_sample start hfits hfixed hinput i hbound).trans halone.symm)

/-! ### Samples written into a tensor -/

/-- One sample among values that hold so many elements for each. -/
def sampleOf {β : Type} (width sample : Nat) (values : List β) : List β :=
  (values.drop (sample * width)).take width

theorem length_sampleOf {β : Type} {width : Nat} {values : List β}
    (hlength : values.length = batch * width) (hknown : sample < batch) :
    (sampleOf width sample values).length = width := by
  have hlast := sample_add_le width hknown
  rw [sampleOf, List.length_take, List.length_drop]
  omega

theorem element_writeFrom (data : Array α) (start i : Nat) (values : List α)
    (hbound : i < values.length) (hinside : start + i < data.size) :
    values[i]? = some (element (Weights.writeFrom data start values) (start + i)) := by
  rw [← getElem?_eq_element _ _ (by rwa [Weights.size_writeFrom]), Weights.getElem?_writeFrom,
    if_pos ⟨Nat.le_add_right _ _, by omega, hinside⟩, Nat.add_sub_cancel_left]

theorem StaticAgrees.writeFrom {x : Tensor} (hfixed : StaticAgrees base many one)
    (values sampled : List α) :
    StaticAgrees base (Weights.writeFrom many (x.slice base batch).start values)
      (Weights.writeFrom one (x.slice base 1).start sampled) := by
  intro i hstatic
  have hbehind (samples : Nat) : i < (x.slice base samples).start := Nat.lt_add_right _ hstatic
  rw [element_congr (Weights.getElem?_writeFrom_outside many _ values i (.inl (hbehind batch))),
    element_congr (Weights.getElem?_writeFrom_outside one _ sampled i (.inl (hbehind 1))),
    hfixed i hstatic]

/-- The values of a batch, and those of one of its samples written for that sample alone. -/
theorem sampleAgrees_writeFrom {x : Tensor} {values : List α}
    (hlength : values.length = batch * x.width) (hknown : sample < batch)
    (hinMany : x.Inside base batch many.size) (hinOne : x.Inside base 1 one.size) :
    SampleAgrees base batch sample (Weights.writeFrom many (x.slice base batch).start values)
      (Weights.writeFrom one (x.slice base 1).start (sampleOf x.width sample values)) x := by
  intro i hbound
  have hlast := sample_add_le x.width hknown
  have hwhole := length_sampleOf hlength hknown
  simp only [Tensor.Inside, Tensor.slice] at hinMany hinOne
  have hbatched := element_writeFrom many (x.slice base batch).start (sample * x.width + i) values
    (by omega) (by simp only [Tensor.slice]; omega)
  have halone := element_writeFrom one (x.slice base 1).start i (sampleOf x.width sample values)
    (by omega) (by simp only [Tensor.slice]; omega)
  rw [sampleOf, List.getElem?_take, if_pos hbound, List.getElem?_drop, hbatched] at halone
  exact Option.some.inj halone

/-! ### Chains of layers -/

/-- The steps of layers each of which reads what the one before it wrote. -/
def chain (base batch : Nat) : Tensor → List (Layer × Tensor) → List Step
  | _, [] => []
  | x, (layer, y) :: rest => layer.step base batch x y :: chain base batch y rest

/-- The tensor that the last layer writes. -/
def lastTensor : Tensor → List (Layer × Tensor) → Tensor
  | x, [] => x
  | _, (_, y) :: rest => lastTensor y rest

/-- Every layer fits the widths of the tensors that it reads and writes. -/
def Chained (base : Nat) : Tensor → List (Layer × Tensor) → Prop
  | _, [] => True
  | x, (layer, y) :: rest => layer.Fits base x.width y.width ∧ Chained base y rest

theorem output_of_mem_chain {x : Tensor} {layers : List (Layer × Tensor)} {step : Step}
    (hmem : step ∈ chain base batch x layers) :
    ∃ layer ∈ layers, step.output = layer.2.slice base batch := by
  induction layers generalizing x with
  | nil => cases hmem
  | cons head rest ih =>
    rcases List.mem_cons.mp hmem with rfl | hmem
    · exact ⟨head, List.mem_cons_self, rfl⟩
    · obtain ⟨layer, hdeclared, houtput⟩ := ih hmem
      exact ⟨layer, List.mem_cons_of_mem head hdeclared, houtput⟩

theorem exact_of_mem_chain {x : Tensor} {layers : List (Layer × Tensor)} {step : Step}
    (hbatch : 0 < batch) (hchained : Chained base x layers) (hmem : step ∈ chain base batch x layers) :
    Exact step := by
  induction layers generalizing x with
  | nil => cases hmem
  | cons head rest ih =>
    obtain ⟨hfits, hrest⟩ := hchained
    rcases List.mem_cons.mp hmem with rfl | hmem
    · exact Layer.exact_step hbatch hfits
    · exact ih hrest hmem

/-- A run of a chain carries the agreement of a sample from the first tensor to the last one. -/
theorem SampleAgrees.applySteps {x : Tensor} {layers : List (Layer × Tensor)} (start : α)
    (hchained : Chained base x layers) (hknown : sample < batch)
    (hinMany : ∀ layer ∈ layers, layer.2.Inside base batch many.size)
    (hinOne : ∀ layer ∈ layers, layer.2.Inside base 1 one.size)
    (hfixed : StaticAgrees base many one) (hinput : SampleAgrees base batch sample many one x) :
    SampleAgrees base batch sample (applySteps start many (chain base batch x layers))
      (applySteps start one (chain base 1 x layers)) (lastTensor x layers) := by
  induction layers generalizing x many one with
  | nil => exact hinput
  | cons head rest ih =>
    obtain ⟨layer, y⟩ := head
    obtain ⟨hfits, hchained⟩ := hchained
    obtain ⟨hheadMany, hinMany⟩ := List.forall_mem_cons.mp hinMany
    obtain ⟨hheadOne, hinOne⟩ := List.forall_mem_cons.mp hinOne
    refine ih hchained ?_ ?_ (hfixed.applyStep start)
      (hinput.applyStep start hfits hfixed hknown hheadMany hheadOne)
    · simpa only [size_applyStep] using hinMany
    · simpa only [size_applyStep] using hinOne

end TensorBench.KernelGraph.Perceptron
