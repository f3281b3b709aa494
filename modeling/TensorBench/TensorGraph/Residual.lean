import TensorBench.Json.Decode
import TensorBench.TensorGraph.Evaluation
import TensorBench.Words

/-!
Residual networks: a stem that reduces the image, stages of basic blocks with shortcuts around them,
each stage after the first of half the size and twice the width, and a classifier.
-/
namespace TensorBench

structure ResidualConfig where
  inputSize : Nat
  baseWidth : Nat
  blocksPerStage : List Nat
  classes : Nat
  seed : UInt64
deriving DecidableEq, Inhabited

namespace ResidualConfig

/-- The network of 18 layers for images of 224 by 224 points. -/
def default : ResidualConfig := ⟨224, 64, [2, 2, 2, 2], 1000, 0⟩

def validate (config : ResidualConfig) : Except Failure Unit :=
  if config.blocksPerStage.isEmpty || config.blocksPerStage.contains 0 then
    .error (.validation "blocks_per_stage needs at least one stage and one block per stage")
  else if config.baseWidth = 0 ∨ config.classes = 0 ∨ config.inputSize = 0 then
    .error (.validation "input_size, base_width and classes must be positive")
  else .ok ()

def fieldNames : List String :=
  ["input_size", "base_width", "blocks_per_stage", "classes", "seed"]

def members (config : ResidualConfig) : List (String × Json) :=
  [("input_size", .nat config.inputSize), ("base_width", .nat config.baseWidth),
    ("blocks_per_stage", .arr (config.blocksPerStage.map .nat)), ("classes", .nat config.classes),
    ("seed", .nat config.seed.toNat)]

def ofFields (fields : Decode.Fields Json) : Except DecodeFault ResidualConfig := do
  return {
    inputSize := ← fields.defaulted "input_size" Decode.size default.inputSize
    baseWidth := ← fields.defaulted "base_width" Decode.size default.baseWidth
    blocksPerStage := ← fields.defaulted "blocks_per_stage" (Decode.list Decode.size)
      default.blocksPerStage
    classes := ← fields.defaulted "classes" Decode.size default.classes
    seed := UInt64.ofNat (← fields.defaulted "seed" (Decode.word "u64") 0) }

def ofJson : Decoder ResidualConfig := fun json => do
  ofFields (← Decode.record "ResNetConfig" fieldNames json)

end ResidualConfig

namespace Residual

variable {α : Type} [Scalar α]

/-- A builder and the node last built, unless a call failed or crashed. -/
abbrev Chain (α : Type) := Except Stop (Nat × GraphBuilder α)

/-- The outcome of a call as a chain. -/
def Chain.ofReply : GraphBuilder.Reply α → Chain α
  | (.ok id, builder) => .ok (id, builder)
  | (.error stop, _) => .error stop

/-- Continue a chain with a call on its last node. -/
def Chain.call (chain : Chain α) (next : Nat → NodeCall) : Chain α :=
  chain.bind fun (id, builder) => Chain.ofReply (builder.perform (next id))

/-- Two convolutions with normalizations and a shortcut around them. The shortcut is the input
itself, or where the shapes differ a convolution of it with a single tap. -/
def basicBlock (name : String) (inChannels channels stride : Nat) (chain : Chain α) : Chain α :=
  chain.bind fun (x, _) =>
  let path := chain
    |>.call (.conv2d s!"{name}.conv1" · channels 3 stride 1)
    |>.call (.batchNorm s!"{name}.bn1" ·)
    |>.call (.relu s!"{name}.relu1" ·)
    |>.call (.conv2d s!"{name}.conv2" · channels 3 1 1)
    |>.call (.batchNorm s!"{name}.bn2" ·)
  path.bind fun (y, _) =>
  let shortcut :=
    if stride ≠ 1 ∨ inChannels ≠ channels then
      path
        |>.call (fun _ => .conv2d s!"{name}.downsample" x channels 1 stride 0)
        |>.call (.batchNorm s!"{name}.downsample_bn" ·)
    else path.map fun (_, builder) => (x, builder)
  shortcut.call (.add s!"{name}.add" y ·) |>.call (.relu s!"{name}.relu2" ·)

/-- The blocks of a stage from a block number on. The first block of a later stage halves the size,
and the first block of any stage may change the width. -/
def blocks (stage inChannels width : Nat) (block : Nat) : Nat → Chain α → Chain α
  | 0, chain => chain
  | count + 1, chain =>
      let stride := if 0 < stage ∧ block = 0 then 2 else 1
      blocks stage width width (block + 1) count
        (basicBlock s!"layer{stage + 1}.{block}" inChannels width stride chain)

/-- The stages from a stage number on. -/
def stages (baseWidth stage inChannels : Nat) : List Nat → Chain α → Chain α
  | [], chain => chain
  | count :: rest, chain =>
      let width := baseWidth * Words.patterns stage
      stages baseWidth (stage + 1) width rest (blocks stage inChannels width 0 count chain)

def stem (config : ResidualConfig) : Chain α :=
  Chain.ofReply ((GraphBuilder.ofSeed config.seed).perform
      (.input 3 config.inputSize config.inputSize))
    |>.call (.conv2d "stem.conv" · config.baseWidth 7 2 3)
    |>.call (.batchNorm "stem.bn" ·)
    |>.call (.relu "stem.relu" ·)
    |>.call (.maxPool "stem.pool" · 3 2 1)

/-- The network of a configuration. -/
def build (config : ResidualConfig) : Except Stop (TensorGraph α) := do
  config.validate
  let (output, builder) ← stages config.baseWidth 0 config.baseWidth config.blocksPerStage
      (stem config)
    |>.call (.globalAveragePool "pool" ·)
    |>.call (.dense "fc" · config.classes)
  builder.finish output

end Residual

end TensorBench
