import TensorBench.Config.File
import TensorBench.Proofs.Sequencing

/-!
Configurations under variables. The variables that are set make an overlay of the configuration of
the file, so a variable decides its setting unless its value is the standard one, which an overlay
cannot tell from no value. Settings without a variable stay those of the file.
-/
namespace TensorBench.Config

open Sequencing

theorem wordVariable_eq_ok_iff {assigned : NameTable String} {name : String}
    {standard value : Nat} :
    wordVariable assigned name standard = .ok value ↔
      assigned.get? name = none ∧ value = standard ∨
        ∃ text, assigned.get? name = some text ∧ Number.Numeral.word text = .ok value := by
  unfold wordVariable
  cases assigned.get? name with
  | none => simp [eq_comm]
  | some text => cases hword : Number.Numeral.word text <;> simp [hword]

/-- What the variables make of an overlay that they are accepted for. -/
theorem ofVariables_eq_ok {assigned : NameTable String} {above : Config}
    (haccepted : ofVariables assigned = .ok above) :
    wordVariable assigned "INFERBENCH_ITERATIONS" RunnerConfig.default.iterations =
        .ok above.runner.iterations ∧
      wordVariable assigned "INFERBENCH_COOLDOWN_MS" RunnerConfig.default.cooldown =
        .ok above.runner.cooldown ∧
      above.environment = (assigned.get? "INFERBENCH_ENV").bind Environment.ofName? ∧
      above.logging = { LoggingConfig.default with
        level := (assigned.get? "INFERBENCH_LOG").getD LoggingConfig.default.level } ∧
      above.artifactsDir =
        (assigned.get? "INFERBENCH_ARTIFACTS_DIR").getD defaultArtifactsDir ∧
      above.variants = [] := by
  obtain ⟨iterations, hcounted, haccepted⟩ := bind_eq_ok_iff.mp haccepted
  obtain ⟨cooldown, hcooled, haccepted⟩ := bind_eq_ok_iff.mp haccepted
  cases haccepted
  exact ⟨hcounted, hcooled, rfl, rfl, rfl, rfl⟩

/-- A setting follows its variable: it is the value that the text of the variable is read as, and
that of the file if the variable is not set or its value is a standard one. -/
structure Follows {β : Type} (text? : Option String) (reads : String → β → Prop)
    (standard : β → Prop) (below result : β) : Prop where
  unset : text? = none → result = below
  set : ∀ text, text? = some text → ∃ value, reads text value ∧
    (standard value → result = below) ∧ (¬ standard value → result = value)

variable {base above : Config} {assigned : NameTable String}

theorem follows_overlay {β : Type} [DecidableEq β] {text? : Option String}
    {reads : String → β → Prop} {standard below above : β}
    (hunset : text? = none → above = standard)
    (hset : ∀ text, text? = some text → reads text above) :
    Follows text? reads (· = standard) below (overlay standard below above) where
  unset hnone := if_pos (hunset hnone)
  set text hsome := ⟨above, hset text hsome, fun hsame => if_pos hsame,
    fun hdiffers => if_neg hdiffers⟩

theorem follows_wordVariable {name : String} {standard value : Nat}
    (haccepted : wordVariable assigned name standard = .ok value) (below : Nat) :
    Follows (assigned.get? name) (fun text n => Number.Numeral.word text = .ok n) (· = standard)
      below (overlay standard below value) := by
  refine follows_overlay (fun hunset => ?_) fun text hset => ?_
  · obtain ⟨-, hsame⟩ | ⟨text, hset, -⟩ := wordVariable_eq_ok_iff.mp haccepted
    · exact hsame
    · rw [hunset] at hset
      cases hset
  · obtain ⟨hunset, -⟩ | ⟨other, hfound, hword⟩ := wordVariable_eq_ok_iff.mp haccepted
    · rw [hunset] at hset
      cases hset
    · rw [hset] at hfound
      cases hfound
      exact hword

/-- The logging section of an overlay replaces that of the file as a whole. -/
theorem overlay_level (below : LoggingConfig) (level : String) :
    overlay .default below { LoggingConfig.default with level := level } =
      if level = LoggingConfig.default.level then below
      else { LoggingConfig.default with level := level } := by
  unfold overlay
  refine ite_congr (propext ⟨fun hsame => ?_, fun hsame => ?_⟩) (fun _ => rfl) fun _ => rfl
  · exact congrArg LoggingConfig.level hsame
  · rw [hsame]

theorem follows_level (text? : Option String) (below : LoggingConfig) :
    Follows text? (fun text level => level = text) (· = LoggingConfig.default.level) below.level
      (overlay .default below
        { LoggingConfig.default with level := text?.getD LoggingConfig.default.level }).level := by
  rw [overlay_level]
  constructor
  · rintro rfl
    exact congrArg _ (if_pos rfl)
  · rintro text rfl
    refine ⟨text, rfl, fun hsame => congrArg _ (if_pos hsame), fun hdiffers => ?_⟩
    exact congrArg LoggingConfig.level (if_neg hdiffers)

/-- The standard level in a variable, or none, leaves the whole section; any other level leaves what
is standard in it. -/
theorem logging_kept {β : Type} (field : LoggingConfig → β)
    (hblind : ∀ level, field { LoggingConfig.default with level := level } = field .default)
    (below : LoggingConfig) (level : String)
    (hkept : level = LoggingConfig.default.level ∨ field below = field .default) :
    field (overlay .default below { LoggingConfig.default with level := level }) =
      field below := by
  rw [overlay_level]
  split
  · rfl
  · rename_i hother
    rw [hblind, hkept.resolve_left hother]

theorem follows_artifactsDir (text? : Option String) (below : String) :
    Follows text? (fun text path => path = text) (Path.same · defaultArtifactsDir = true) below
      (if Path.same (text?.getD defaultArtifactsDir) defaultArtifactsDir then below
        else text?.getD defaultArtifactsDir) := by
  constructor
  · rintro rfl
    exact if_pos (by decide)
  · rintro text rfl
    exact ⟨text, rfl, fun hsame => if_pos hsame, fun hdiffers => if_neg hdiffers⟩

theorem follows_environment {text? : Option String} {below : Option Environment}
    (hknown : ∀ text, text? = some text →
      ∃ environment, Environment.ofName? text = some environment) :
    Follows text?
      (fun text environment => environment = Environment.ofName? text ∧ environment ≠ none)
      (fun _ => False) below (text?.bind Environment.ofName? <|> below) := by
  constructor
  · rintro rfl
    rfl
  · rintro text rfl
    obtain ⟨environment, hnamed⟩ := hknown text rfl
    refine ⟨some environment, ⟨hnamed.symm, Option.some_ne_none _⟩, False.elim, fun _ => ?_⟩
    rw [Option.bind_some, hnamed]
    rfl

/-- The configuration that a program works with. Each of five settings follows its variable; the
version and the variants are those of the file, and so are the other settings of the log unless a
level other than the standard one is set. -/
theorem load_follows_variables (file : Option (Except Failure Config))
    (assigned : NameTable String) {base : Config} (hfound : file.getD (.ok default) = .ok base)
    {above : Config} (haccepted : ofVariables assigned = .ok above)
    (hknown : ∀ text, assigned.get? "INFERBENCH_ENV" = some text →
      ∃ environment, Environment.ofName? text = some environment) :
    ∃ config, load file assigned = .ok config ∧
      config.version = base.version ∧ config.variants = base.variants ∧
      Follows (assigned.get? "INFERBENCH_ENV")
        (fun text environment => environment = Environment.ofName? text ∧ environment ≠ none)
        (fun _ => False) base.environment config.environment ∧
      Follows (assigned.get? "INFERBENCH_LOG") (fun text level => level = text)
        (· = LoggingConfig.default.level) base.logging.level config.logging.level ∧
      Follows (assigned.get? "INFERBENCH_ITERATIONS")
        (fun text n => Number.Numeral.word text = .ok n) (· = RunnerConfig.default.iterations)
        base.runner.iterations config.runner.iterations ∧
      Follows (assigned.get? "INFERBENCH_COOLDOWN_MS")
        (fun text n => Number.Numeral.word text = .ok n) (· = RunnerConfig.default.cooldown)
        base.runner.cooldown config.runner.cooldown ∧
      Follows (assigned.get? "INFERBENCH_ARTIFACTS_DIR") (fun text path => path = text)
        (Path.same · defaultArtifactsDir = true) base.artifactsDir config.artifactsDir ∧
      (∀ level, level = (assigned.get? "INFERBENCH_LOG").getD LoggingConfig.default.level →
        (level = LoggingConfig.default.level ∨
            base.logging.format = LoggingConfig.default.format →
          config.logging.format = base.logging.format) ∧
        (level = LoggingConfig.default.level ∨ base.logging.file = LoggingConfig.default.file →
          config.logging.file = base.logging.file)) := by
  obtain ⟨hcounted, hcooled, henvironment, hlogging, hartifacts, hvariants⟩ :=
    ofVariables_eq_ok haccepted
  refine ⟨base.merge above, ?_, rfl, ?_, ?_, ?_, ?_, ?_, ?_, ?_⟩
  · rw [load, hfound]
    exact congrArg (· >>= fun above => Except.ok (base.merge above)) haccepted
  · rw [merge, hvariants]
    rfl
  · rw [merge, henvironment]
    exact follows_environment hknown
  · rw [merge, hlogging]
    exact follows_level _ _
  · exact follows_wordVariable hcounted _
  · exact follows_wordVariable hcooled _
  · rw [merge, hartifacts]
    exact follows_artifactsDir _ _
  · rintro level rfl
    rw [merge, hlogging]
    exact ⟨logging_kept LoggingConfig.format (fun _ => rfl) _ _,
      logging_kept LoggingConfig.file (fun _ => rfl) _ _⟩

/-- A file with a log of its own, under variables one of which names the standard level. -/
theorem load_follows_three_variables :
    ∃ assigned above config,
      assigned = NameTable.ofList [("INFERBENCH_ENV", "Testing"), ("INFERBENCH_ITERATIONS", "3"),
        ("INFERBENCH_LOG", "info")] ∧
      ofVariables assigned = .ok above ∧
      load (some (.ok { default with logging := ⟨"warn", "json", some "run.log"⟩ })) assigned =
        .ok config ∧
      Follows (assigned.get? "INFERBENCH_LOG") (fun text level => level = text)
        (· = LoggingConfig.default.level) "warn" config.logging.level ∧
      config.logging.format = "json" := by
  have haccepted : ofVariables (NameTable.ofList [("INFERBENCH_ENV", "Testing"),
      ("INFERBENCH_ITERATIONS", "3"), ("INFERBENCH_LOG", "info")]) =
        .ok { default with
          environment := some .testing
          runner := ⟨3, 1000⟩ } := by
    rfl
  obtain ⟨config, hloaded, -, -, -, hlevel, -, -, -, hlog⟩ := load_follows_variables
    (some (.ok { default with logging := ⟨"warn", "json", some "run.log"⟩ })) _ rfl haccepted
    (by rintro text hset; exact ⟨.testing, by cases hset; decide⟩)
  exact ⟨_, _, config, rfl, haccepted, hloaded, hlevel, (hlog _ rfl).1 (.inl rfl)⟩

/-- A variable that asks for the standard number of iterations does not win over the file, and one
that sets another level of the log does not leave the format of the file. -/
theorem load_misses_iterations_and_format :
    (∃ assigned above config,
      assigned = NameTable.ofList [("INFERBENCH_ITERATIONS", "10")] ∧
      assigned.get? "INFERBENCH_ITERATIONS" = some "10" ∧
      Number.Numeral.word "10" = .ok 10 ∧
      ofVariables assigned = .ok above ∧
      load (some (.ok { default with runner := ⟨5, 0⟩ })) assigned = .ok config ∧
      config.runner.iterations = 5) ∧
    ∃ assigned above config,
      assigned = NameTable.ofList [("INFERBENCH_LOG", "debug")] ∧
      ofVariables assigned = .ok above ∧
      load (some (.ok { default with logging := ⟨"info", "json", some "run.log"⟩ })) assigned =
        .ok config ∧
      config.logging.format = "pretty" ∧ config.logging.file = none :=
  ⟨⟨_, _, _, rfl, rfl, rfl, rfl, rfl, rfl⟩, ⟨_, _, _, rfl, rfl, rfl, rfl, rfl⟩⟩

end TensorBench.Config
