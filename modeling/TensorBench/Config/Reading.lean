import TensorBench.Config.Basic
import TensorBench.Document

/-!
The fields of configurations, as they are written in any format. A variant keeps the members it does
not know as settings of its engine.
-/
namespace TensorBench

variable {ν : Type} [Document ν]

open Document

def LoggingConfig.ofDocument (value : ν) : Except DecodeFault LoggingConfig := do
  let fields ← record "LoggingConfig" ["level", "format", "file"] value
  return ⟨← fields.required "level" string, ← fields.required "format" string,
    ← fields.possible "file" (optional string)⟩

def RunnerConfig.ofDocument (value : ν) : Except DecodeFault RunnerConfig := do
  let fields ← record "RunnerConfig" ["iterations", "cooldown_ms"] value
  return ⟨← fields.required "iterations" (word "usize"),
    ← fields.required "cooldown_ms" (word "u64")⟩

namespace VariantConfig

def fieldNames : List String := ["name", "engine", "description", "enabled"]

def ofDocument (value : ν) : Except DecodeFault VariantConfig := do
  let members ← members "VariantConfig" value
  let fields ← Decode.ofMembers fieldNames members
  let name ← fields.required "name" string
  let engine ← fields.required "engine" string
  let description ← fields.defaulted "description" (optional string) none
  let enabled ← fields.defaulted "enabled" boolean true
  let extra := members.filter fun member => !fieldNames.contains member.1
  let settings ← extra.mapM fun (key, setting) => do return (key, ← Document.value setting)
  return ⟨name, engine, description, enabled, .ofList settings⟩

end VariantConfig

def Config.ofDocument (value : ν) : Except DecodeFault Config := do
  let fields ← record "Config"
    ["version", "environment", "logging", "runner", "artifacts_dir", "variants"] value
  return {
    version := ← fields.required "version" string
    environment := ← fields.possible "environment" (optional (choice Environment.choices))
    logging := ← fields.defaulted "logging" LoggingConfig.ofDocument .default
    runner := ← fields.defaulted "runner" RunnerConfig.ofDocument .default
    artifactsDir := ← fields.defaulted "artifacts_dir" string defaultArtifactsDir
    variants := ← fields.defaulted "variants" (list VariantConfig.ofDocument) [] }

end TensorBench
