import TensorBench.Bench.Rehearsal
import TensorBench.Proofs.Bench.Courses
import TensorBench.Proofs.Failure

/-!
The lifecycle of a benchmark run. Whatever its engine replies, a run of enough iterations sets the
engine up once, executes it until the last iteration or the first failure, and releases it once; its
result and its last state follow from the replies. A run of too few iterations asks for nothing, and one
of so many that no buffer holds their timings crashes before it asks for anything.
-/
namespace TensorBench

/-! ### Results and states at the end of a run -/

/-- Samples of at least one iteration besides the warm-up have a summary, of all the others. -/
theorem Summary.ofSamples_ok (name : String) (raw : List Binary64) (henough : 2 ≤ raw.length) :
    ∃ summary, Summary.ofSamples name raw = .ok summary ∧ summary.name = name ∧
      summary.samples.Perm raw.tail ∧ summary.samples.length = raw.length - 1 := by
  have hperm := Summary.sorted_perm raw.tail
  exact ⟨_, Summary.ofSamples_of_long name henough, rfl, hperm,
    hperm.length_eq.trans List.length_tail⟩

theorem Failure.ofRelease_finalizes (kind : String) (failure : Failure) :
    ∃ engine message, failure.ofRelease kind = .finalize engine message := by
  cases failure <;> exact ⟨_, _, rfl⟩

theorem RunState.start_of_le {iterations : Nat}
    (h : iterations * timingSize ≤ Words.maxBuffer) :
    RunState.start iterations = .ok ⟨.running, iterations, [], none, true, false, none⟩ := by
  rw [start, reserve_eq_ok_iff.mpr h]
  rfl

theorem RunState.start_crashes {iterations : Nat}
    (h : Words.maxBuffer < iterations * timingSize) :
    RunState.start iterations = .error .crashed := by
  rw [start, reserve_crashes h]
  rfl

namespace Run

/-- The state of a run after iterations that took these times. -/
def timed (plan : Plan) (times : List Binary64) : RunState :=
  ⟨.running, plan.iterations, times, none, true, false, none⟩

/-- The state of a run that is over. -/
def stateAfter (plan : Plan) (times : List Binary64) : Except Failure Summary → RunState
  | .ok summary => ⟨.completed, plan.iterations, times, some summary, true, true, none⟩
  | .error failure => ⟨.failed, plan.iterations, times, none, true, true, some failure.message⟩

/-- What the audience is told of too few iterations. -/
def refusal (name : String) (iterations : Nat) : String :=
  s!"{name}: {(Failure.invalidIterations iterations minIterations).message}"

/-- The first message of a run. -/
def opening (plan : Plan) : String := s!"Setting up {plan.name} ({plan.kind})"

/-- The last message of a run. -/
def closing (plan : Plan) : Except Failure Summary → String
  | .ok summary => summary.text
  | .error failure => s!"{plan.name} aborted: {failure.message}"

/-- The results a run may have, by what came of its setup and its executions and by the reply to the
release. -/
def Due (plan : Plan) (times : List Binary64) (outcome released : Except Failure Unit)
    (result : Except Failure Summary) : Prop :=
  match outcome, released with
  | .error failure, _ => result = .error failure
  | .ok (), .error _ => ∃ engine message, result = .error (.finalize engine message)
  | .ok (), .ok () => ∃ summary, result = .ok summary ∧ summary.name = plan.name ∧
      summary.samples.Perm times.tail ∧ summary.samples.length = plan.iterations - 1

theorem due_verdict (plan : Plan) (times : List Binary64) (outcome released : Except Failure Unit)
    (henough : minIterations ≤ plan.iterations)
    (hcomplete : outcome = .ok () → times.length = plan.iterations) :
    Due plan times outcome released (verdict plan (timed plan times) outcome released) := by
  match outcome, released with
  | .error failure, .ok () => exact rfl
  | .error failure, .error _ => exact rfl
  | .ok (), .error failure =>
    obtain ⟨engine, message, hwrapped⟩ := failure.ofRelease_finalizes plan.kind
    exact ⟨engine, message, congrArg Except.error hwrapped⟩
  | .ok (), .ok () =>
    have hcount := hcomplete rfl
    obtain ⟨summary, hsummarised, hnamed, hperm, hlength⟩ :=
      Summary.ofSamples_ok plan.name times (hcount ▸ henough)
    exact ⟨summary, hsummarised, hnamed, hperm, hcount ▸ hlength⟩

/-- A lack of samples is never found by the run: if it is the result, an engine has replied it. -/
theorem Due.insufficientSamples {plan : Plan} {times : List Binary64}
    {outcome released : Except Failure Unit} {result : Except Failure Summary}
    (hdue : Due plan times outcome released result) (name : String)
    (hlacking : result = .error (.insufficientSamples name)) :
    outcome = .error (.insufficientSamples name) := by
  subst hlacking
  match outcome, released, hdue with
  | .error failure, _, hsame => cases hsame; rfl
  | .ok (), .error _, ⟨_, _, hfinalized⟩ => cases hfinalized
  | .ok (), .ok (), ⟨_, hsummarised, _⟩ => cases hsummarised

/-! ### The phases of a run -/

def pauses (milliseconds : Nat) : List Action :=
  if milliseconds = 0 then [] else [.pause milliseconds]

/-- An iteration: what is told and awaited before the execution, and the execution itself. -/
def round (plan : Plan) (index : Nat) (reply : Except Failure Unit) : List Action :=
  .report (.progress plan.name index plan.iterations) ::
    (pauses plan.cooldown ++ [.execute reply])

/-- Iterations that succeed, from an index on. -/
def rounds (plan : Plan) (index count : Nat) : List Action :=
  (List.range' index count).flatMap fun i => round plan i (.ok ())

theorem rounds_succ (plan : Plan) (index count : Nat) :
    rounds plan index (count + 1) = round plan index (.ok ()) ++ rounds plan (index + 1) count := by
  simp [rounds, List.range'_succ]

/-- The remaining iterations from an index on: their actions, the number of them that succeed, and
what comes of them. -/
inductive Iterations (plan : Plan) (index remaining : Nat) :
    List Action → Nat → Except Failure Unit → Prop where
  | broken (count : Nat) (failure : Failure) (hearly : count < remaining) :
      Iterations plan index remaining
        (rounds plan index count ++ round plan (index + count) (.error failure))
        count (.error failure)
  | complete :
      Iterations plan index remaining
        (rounds plan index remaining ++
          [.report (.progress plan.name plan.iterations plan.iterations)])
        remaining (.ok ())

/-- A run between its opening message and the release of its engine: the actions, the number of
executions that succeed, and what comes of it all. -/
inductive Course (plan : Plan) : List Action → Nat → Except Failure Unit → Prop where
  | unready (failure : Failure) : Course plan [.setup (.error failure)] 0 (.error failure)
  | ready {actions : List Action} {count : Nat} {outcome : Except Failure Unit}
      (hiterations : Iterations plan 0 plan.iterations actions count outcome) :
      Course plan (.setup (.ok ()) :: actions) count outcome

theorem Iterations.stopped (plan : Plan) (index remaining : Nat) (failure : Failure) :
    Iterations plan index (remaining + 1) (round plan index (.error failure)) 0
      (.error failure) :=
  .broken 0 failure (Nat.succ_pos remaining)

theorem Iterations.cons {plan : Plan} {index remaining count : Nat} {actions : List Action}
    {outcome : Except Failure Unit}
    (hrest : Iterations plan (index + 1) remaining actions count outcome) :
    Iterations plan index (remaining + 1) (round plan index (.ok ()) ++ actions) (count + 1)
      outcome := by
  cases hrest with
  | broken count failure hearly =>
    rw [← List.append_assoc, ← rounds_succ, Nat.add_assoc, Nat.add_comm 1]
    exact .broken _ failure (Nat.succ_lt_succ hearly)
  | complete =>
    rw [← List.append_assoc, ← rounds_succ]
    exact .complete

theorem Course.count_le {plan : Plan} {actions : List Action} {count : Nat}
    {outcome : Except Failure Unit} (hcourse : Course plan actions count outcome) :
    count ≤ plan.iterations := by
  cases hcourse with
  | unready failure => exact Nat.zero_le _
  | ready hiterations =>
    cases hiterations with
    | broken _ _ hearly => exact Nat.le_of_lt hearly
    | complete => exact Nat.le_refl _

theorem Course.count_eq {plan : Plan} {actions : List Action} {count : Nat}
    {outcome : Except Failure Unit} (hcourse : Course plan actions count outcome)
    (hsuccess : outcome = .ok ()) : count = plan.iterations := by
  subst hsuccess
  cases hcourse with
  | ready hiterations => cases hiterations; rfl

section Phases

variable {plan : Plan} {state : RunState} {actions : List Action}
  {ending : Option (RunState × Except Failure Summary)}

/-- How a run ends that has a result. -/
def ended (plan : Plan) (times : List Binary64) (result : Except Failure Summary) :
    Option (RunState × Except Failure Summary) :=
  some (stateAfter plan times result, result)

theorem conclude_eq (plan : Plan) (times : List Binary64) (result : Except Failure Summary) :
    conclude plan (timed plan times) result = .report (.message (closing plan result))
      (.store (stateAfter plan times result) (.done result)) := by
  cases result <;> rfl

theorem takes_conclude {times : List Binary64} {result : Except Failure Summary}
    (htakes : (conclude plan (timed plan times) result).Takes state actions ending) :
    actions = [.report (.message (closing plan result))] ∧ ending = ended plan times result := by
  rw [conclude_eq] at htakes
  cases htakes with
  | report hstored =>
    cases hstored with
    | store hdone =>
      cases hdone with
      | done => exact ⟨rfl, rfl⟩

theorem takes_settle {times : List Binary64} {outcome : Except Failure Unit}
    (htakes : (settle plan (timed plan times) outcome).Takes state actions ending) :
    ∃ released result, result = verdict plan (timed plan times) outcome released ∧
      actions = [.release released, .report (.message (closing plan result))] ∧
      ending = ended plan times result := by
  cases htakes with
  | release released hconcluded =>
    obtain ⟨rfl, rfl⟩ := takes_conclude hconcluded
    exact ⟨released, _, rfl, rfl, rfl⟩

theorem takes_cool {milliseconds : Nat} {next : Script (Except Failure Summary)}
    (htakes : (cool milliseconds next).Takes state actions ending) :
    ∃ rest, actions = pauses milliseconds ++ rest ∧ next.Takes state rest ending := by
  by_cases hstill : milliseconds = 0
  · rw [cool, if_pos hstill] at htakes
    exact ⟨actions, by rw [pauses, if_pos hstill, List.nil_append], htakes⟩
  · rw [cool, if_neg hstill] at htakes
    cases htakes with
    | pause hrest => exact ⟨_, by rw [pauses, if_neg hstill, List.singleton_append], hrest⟩

/-- One iteration, whatever comes after its reply. -/
theorem takes_round {index : Nat}
    {resume : Except Failure Binary64 → Script (Except Failure Summary)}
    (htakes : (Script.report (.progress plan.name index plan.iterations)
      (cool plan.cooldown (.execute resume))).Takes state actions ending) :
    ∃ reply elapsed rest, actions = round plan index reply ++ rest ∧
      (resume (reply.map fun _ => elapsed)).Takes state rest ending := by
  cases htakes with
  | report hcooled =>
    obtain ⟨rest, rfl, hexecuted⟩ := takes_cool hcooled
    cases hexecuted with
    | execute reply elapsed hreplied => exact ⟨reply, elapsed, _, by simp [round], hreplied⟩

/-- What the iterations leave to be settled. -/
theorem takes_iterate {remaining index : Nat} {done : List Binary64}
    (htakes : (iterate plan index (timed plan done) remaining).Takes state actions ending) :
    ∃ iterations times outcome rest last,
      Iterations plan index remaining iterations times.length outcome ∧
      actions = iterations ++ rest ∧
      (settle plan (timed plan (done ++ times)) outcome).Takes last rest ending := by
  -- by induction on the remaining iterations; the state holds the times of all those done
  induction remaining generalizing index done state actions with
  | zero =>
    cases htakes with
    | report hsettled =>
      refine ⟨_, [], _, _, state, .complete, rfl, ?_⟩
      rwa [List.append_nil]
  | succ remaining ih =>
    obtain ⟨reply, elapsed, rest, rfl, hreplied⟩ := takes_round htakes
    match reply, hreplied with
    | .error failure, hsettled =>
      refine ⟨_, [], .error failure, rest, state, .stopped plan index remaining failure, rfl, ?_⟩
      rwa [List.append_nil]
    | .ok (), .store hiterated =>
      obtain ⟨iterations, times, outcome, rest, last, hothers, rfl, hsettled⟩ := ih hiterated
      refine ⟨_, elapsed :: times, outcome, rest, last, hothers.cons, ?_, ?_⟩
      · rw [List.append_assoc]
      · rwa [List.append_cons]

/-- A run of enough iterations: a message, the course, the release and a message at last. -/
theorem takes_script (henough : minIterations ≤ plan.iterations)
    (hsize : plan.iterations * RunState.timingSize ≤ Words.maxBuffer)
    (htakes : (script plan).Takes state actions ending) :
    ∃ course times outcome released result, Course plan course times.length outcome ∧
      Due plan times outcome released result ∧
      actions = .report (.message (opening plan)) ::
        (course ++ [.release released, .report (.message (closing plan result))]) ∧
      ending = ended plan times result := by
  rw [script, if_neg (Nat.not_lt.mpr henough), RunState.start_of_le hsize] at htakes
  cases htakes with
  | store hbegun =>
    cases hbegun with
    | report hopened =>
      cases hopened with
      | setup reply hreplied =>
        match reply, hreplied with
        | .error failure, hsettled =>
          have hsettled : (settle plan (timed plan []) (.error failure)).Takes _ _ _ := hsettled
          obtain ⟨released, _, rfl, rfl, rfl⟩ := takes_settle hsettled
          exact ⟨_, [], _, released, _, .unready failure,
            due_verdict plan [] _ released henough nofun, rfl, rfl⟩
        | .ok (), hiterated =>
          have hiterated : (iterate plan 0 (timed plan []) plan.iterations).Takes _ _ _ := hiterated
          obtain ⟨iterations, times, outcome, rest, last, hothers, rfl, hsettled⟩ :=
            takes_iterate hiterated
          obtain ⟨released, _, rfl, rfl, rfl⟩ := takes_settle hsettled
          exact ⟨_, times, outcome, released, _, .ready hothers,
            due_verdict plan times outcome released henough (Course.ready hothers).count_eq,
            rfl, rfl⟩

/-- A run whose timings no buffer holds: nothing. -/
theorem takes_script_oversized
    (hlarge : Words.maxBuffer < plan.iterations * RunState.timingSize)
    (htakes : (script plan).Takes state actions ending) : actions = [] ∧ ending = none := by
  have henough : ¬ plan.iterations < minIterations := by
    simp only [minIterations, RunState.timingSize, Words.maxBuffer] at *
    omega
  rw [script, if_neg henough, RunState.start_crashes hlarge] at htakes
  cases htakes with
  | crash => exact ⟨rfl, rfl⟩

end Phases

end Run

/-! ### Running a variant -/

namespace Variant

variable {World ε : Type}

/-- Benchmark a variant with engines and surroundings that do not crash. -/
def runIn (ops : EngineOps (StateM World) ε) (stage : Stage (StateM World))
    (iterations cooldown : Nat) (variant : Variant ε) (world : World) :
    Option (Except Failure Summary × Variant ε) × World :=
  (variant.run ops.lift stage.lift iterations cooldown :
    OptionT (StateM World) (Except Failure Summary × Variant ε)).run world

variable (ops : EngineOps (StateM World) ε) (stage : Stage (StateM World)) (variant : Variant ε)
  (iterations cooldown : Nat) (world : World)

/-- Too few iterations are only reported. -/
theorem runIn_refused (hfew : iterations < Run.minIterations) :
    variant.runIn ops stage iterations cooldown world =
      (some (.error (.invalidIterations iterations Run.minIterations), variant),
        (stage.report (.message (Run.refusal variant.name iterations)) world).2) := by
  rw [runIn, run, Run.script, if_pos hfew]
  rfl

/-- Too many iterations crash at once. -/
theorem runIn_crashes (hlarge : Words.maxBuffer < iterations * RunState.timingSize) :
    variant.runIn ops stage iterations cooldown world = (none, world) := by
  have henough : ¬ iterations < Run.minIterations := by
    simp only [Run.minIterations, RunState.timingSize, Words.maxBuffer] at *
    omega
  rw [runIn, run, Run.script, if_neg henough, RunState.start_crashes hlarge]
  rfl

/-- What a run asks of its engine and tells its audience, and what becomes of the variant. Nothing
is assumed of the engine; its replies are those that the log shows. A run of more iterations than a
buffer holds timings for crashes, and nothing has happened then. -/
theorem run_lifecycle :
    let plan : Run.Plan := ⟨variant.name, ops.kind variant.engine, iterations, cooldown⟩
    let run := variant.runIn ops.recorded stage.recorded iterations cooldown (world, [])
    if iterations < 2 then
      run.1 = some (.error (.invalidIterations iterations 2), variant) ∧
        run.2.2 = [.report (.message (Run.refusal variant.name iterations))]
    else if iterations * RunState.timingSize ≤ Words.maxBuffer then
      ∃ result after course times outcome released, run.1 = some (result, after) ∧
        Run.Course plan course times.length outcome ∧
        run.2.2 = .report (.message (Run.opening plan)) ::
          (course ++ [.release released, .report (.message (Run.closing plan result))]) ∧
        Run.Due plan times outcome released result ∧
        (∀ name, result = .error (.insufficientSamples name) →
          outcome = .error (.insufficientSamples name)) ∧
        after.name = variant.name ∧ after.description = variant.description ∧
        after.state = Run.stateAfter plan times result
    else run = (none, (world, [])) := by
  intro plan run
  split
  · rename_i hfew
    have hrefused :=
      variant.runIn_refused ops.recorded stage.recorded iterations cooldown (world, []) hfew
    exact ⟨congrArg Prod.fst hrefused, congrArg (·.2.2) hrefused⟩
  · rename_i henough
    split
    · rename_i hsize
      obtain ⟨actions, htakes, hkept, hlog⟩ :=
        follow_takes ops.recorded stage.recorded Prod.snd (Run.script plan) variant (world, [])
      obtain ⟨course, times, outcome, released, result, hcourse, hdue, rfl, hending⟩ :=
        Run.takes_script (Nat.not_lt.mp henough) hsize htakes
      obtain ⟨⟨_, after⟩, hrun, hsame⟩ := Option.map_eq_some_iff.mp hending
      obtain ⟨hstate, rfl⟩ := Prod.mk.inj hsame
      obtain ⟨hname, hdescription⟩ := hkept _ hrun
      exact ⟨_, after, course, times, outcome, released, hrun, hcourse,
        (hlog (keepsLog_recorded ops stage)).trans (List.nil_append _), hdue,
        hdue.insufficientSamples, hname, hdescription, hstate⟩
    · rename_i hlarge
      exact variant.runIn_crashes ops.recorded stage.recorded iterations cooldown (world, [])
        (Nat.not_le.mp hlarge)

/-- A puppet that does not get ready. -/
def unready : Variant Rehearsal.Puppet :=
  .create "unready" none
    ⟨some (.setup Rehearsal.Puppet.kind "strings tangled"), none, none, false, 0⟩

theorem run_lifecycle_unready :
    let run := unready.runIn Rehearsal.Puppet.ops.recorded Rehearsal.stage.recorded 2 0 ([], [])
    ∃ result after course released, run.1 = some (result, after) ∧
      run.2.2 = .report (.message "Setting up unready (scripted)") ::
        (course ++ [.release released, .report (.message
          (Run.closing ⟨"unready", Rehearsal.Puppet.kind, 2, 0⟩ result))]) ∧
      after.state.iterations = 2 := by
  intro run
  have hlifecycle := run_lifecycle Rehearsal.Puppet.ops Rehearsal.stage unready 2 0 []
  rw [if_neg (by decide), if_pos (by decide)] at hlifecycle
  obtain ⟨result, after, course, times, outcome, released, hrun, -, hlog, -, -, -, -, hstate⟩ :=
    hlifecycle
  refine ⟨result, after, course, released, hrun, hlog, ?_⟩
  rw [hstate]
  cases result <;> rfl

/-- A run of enough iterations does not always have a result. -/
theorem run_oversized_crashes :
    let run (iterations : Nat) := unready.runIn Rehearsal.Puppet.ops.recorded
      Rehearsal.stage.recorded iterations 0 ([], [])
    run 1152921504606846976 = (none, ([], [])) ∧
      ¬ ∀ iterations, 2 ≤ iterations → ∃ result after, (run iterations).1 = some (result, after) := by
  intro run
  have hcrash : run 1152921504606846976 = (none, ([], [])) :=
    unready.runIn_crashes _ _ 1152921504606846976 0 _ (by decide)
  refine ⟨hcrash, fun hruns => ?_⟩
  obtain ⟨result, after, hrun⟩ := hruns 1152921504606846976 (by decide)
  rw [hcrash] at hrun
  cases hrun

end Variant

end TensorBench
