import TensorBench.Layout.Codec
import TensorBench.Text.Path

/-!
Configurations: where artifacts lie, how runs go and which variants there are. A configuration can
be overlaid with another one, whose settings win wherever they differ from the defaults.
-/
namespace TensorBench

/-- What a benchmark is run for. -/
inductive Environment where
  | development
  | testing
  | production
deriving DecidableEq, Inhabited

namespace Environment

def choices : List (String × Environment) :=
  [("development", development), ("testing", testing), ("production", production)]

def name : Environment → String
  | development => "development"
  | testing => "testing"
  | production => "production"

/-- The environment of a name, in letters of either case. -/
def ofName? (text : String) : Option Environment :=
  (choices.find? (·.1 == Text.lowercase text)).map (·.2)

end Environment

structure LoggingConfig where
  level : String
  format : String
  file : Option String
deriving DecidableEq, Inhabited

namespace LoggingConfig

def default : LoggingConfig := ⟨"info", "pretty", none⟩

def toJson (config : LoggingConfig) : Json :=
  .obj [("level", .str config.level), ("format", .str config.format),
    ("file", Json.ofOption .str config.file)]

end LoggingConfig

/-- How often a variant is executed, the warm-up included, and the pause before each time. -/
structure RunnerConfig where
  iterations : Nat
  cooldown : Nat
deriving DecidableEq, Inhabited

namespace RunnerConfig

def default : RunnerConfig := ⟨10, 1000⟩

def toJson (config : RunnerConfig) : Json :=
  .obj [("iterations", .nat config.iterations), ("cooldown_ms", .nat config.cooldown)]

end RunnerConfig

/-- A variant to be built. The settings are for its engine to read. -/
structure VariantConfig where
  name : String
  engine : String
  description : Option String
  enabled : Bool
  settings : NameTable Json
deriving Inhabited

namespace VariantConfig

def toJson (config : VariantConfig) : Json :=
  .obj ([("name", .str config.name), ("engine", .str config.engine),
    ("description", Json.ofOption .str config.description), ("enabled", .bool config.enabled)] ++
      config.settings.entries)

end VariantConfig

structure Config where
  version : String
  environment : Option Environment
  logging : LoggingConfig
  runner : RunnerConfig
  artifactsDir : String
  variants : List VariantConfig
deriving Inhabited

namespace Config

def defaultArtifactsDir : String := "artifacts"

def default : Config :=
  ⟨"1.0", some .development, .default, .default, defaultArtifactsDir, []⟩

def toJson (config : Config) : Json :=
  .obj [("version", .str config.version),
    ("environment", Json.ofOption (fun environment => .str environment.name) config.environment),
    ("logging", config.logging.toJson), ("runner", config.runner.toJson),
    ("artifacts_dir", .str config.artifactsDir),
    ("variants", .arr (config.variants.map VariantConfig.toJson))]

/-- The variants that take part in benchmarks, in their order. -/
def enabledVariants (config : Config) : List VariantConfig := config.variants.filter (·.enabled)

/-- A setting of an overlay, unless it is the default. -/
def overlay {β : Type} [DecidableEq β] (standard below above : β) : β :=
  if above = standard then below else above

/-- Put a variant in the place of the first one of its name, or at the end. -/
def placeVariant (variant : VariantConfig) : List VariantConfig → List VariantConfig
  | [] => [variant]
  | head :: rest =>
      if head.name = variant.name then variant :: rest else head :: placeVariant variant rest

/-- The configuration below with the settings of another one laid over it. The version stays, and
directories count as equal when they name the same path. -/
def merge (below above : Config) : Config where
  version := below.version
  environment := above.environment <|> below.environment
  logging := overlay .default below.logging above.logging
  runner :=
    ⟨overlay RunnerConfig.default.iterations below.runner.iterations above.runner.iterations,
      overlay RunnerConfig.default.cooldown below.runner.cooldown above.runner.cooldown⟩
  artifactsDir :=
    if Path.same above.artifactsDir defaultArtifactsDir then below.artifactsDir
    else above.artifactsDir
  variants := above.variants.foldl (fun list variant => placeVariant variant list) below.variants

end Config

end TensorBench
