import TensorBench.Bench.Rehearsal
import TensorBench.CommandLine.Machine
import TensorBench.Main
import TensorBench.Proofs.KernelGraph.BackendAgreement
import TensorBench.Proofs.KernelGraph.Safety
import TensorBench.Proofs.KernelGraph.StaticWeights
import TensorBench.Proofs.Expression.Grammar
import TensorBench.Proofs.Expression.Reading
import TensorBench.Proofs.Expression.Writing
import TensorBench.Proofs.Number.Bytes
import TensorBench.Proofs.Weights.Truncation
import TensorBench.Proofs.Weights.NearestCodes
import TensorBench.Proofs.TensorGraph.Shapes
import TensorBench.Proofs.TensorGraph.Construction
import TensorBench.Proofs.TensorGraph.KeptValues
import TensorBench.Proofs.TensorGraph.Liveness
import TensorBench.Proofs.TensorGraph.Evaluation
import TensorBench.Proofs.TensorGraph.ResidualNetworks
import TensorBench.Proofs.Bench.Registries
import TensorBench.Proofs.TensorGraph.PoolAccounting
import TensorBench.Proofs.LayerStack.Predictions
import TensorBench.Proofs.Config.Overlays
import TensorBench.Proofs.Bench.Serialization
import TensorBench.Proofs.Bench.Configured
import TensorBench.Proofs.Engine
import TensorBench.Proofs.KernelGraph.Codec
import TensorBench.Proofs.KernelGraph.NamedSizes
import TensorBench.Proofs.KernelGraph.Batches
import TensorBench.Proofs.Expression.Values
import TensorBench.Proofs.Layout.Validation
import TensorBench.Proofs.TensorGraph.Convolution
import TensorBench.Proofs.TensorGraph.Pooling
import TensorBench.Proofs.KernelGraph.Concatenation
import TensorBench.Proofs.CommandLine.Packing
import TensorBench.Proofs.KernelGraph.Repetition
import TensorBench.Proofs.Layout.EarlyChecks
import TensorBench.Proofs.Layout.Names
import TensorBench.Proofs.TensorGraph.RefusedCalls
import TensorBench.Proofs.Bench.Summaries
import TensorBench.Proofs.Config.Merging
import TensorBench.Proofs.LayerStack.SeparateActivations
import TensorBench.Proofs.Layout.Tiling
import TensorBench.Proofs.KernelGraph.EncodedWeights
import TensorBench.Proofs.LayerStack.ResolvedWeights
import TensorBench.Proofs.CommandLine.Turns
