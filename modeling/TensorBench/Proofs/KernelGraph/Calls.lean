import TensorBench.Proofs.KernelGraph.Running

/-!
What callers do with a loaded graph: write into inputs and run, in any order and number. Every call keeps
the graph and the size of the buffer, and it changes only elements of inputs and outputs.
-/
namespace TensorBench

/-- A call on a loaded graph. -/
inductive Call (α : Type) where
  /-- Write values into an input from a position on. -/
  | write (name : String) (position : Nat) (values : List α)
  | run

namespace Call

variable {α : Type} [Scalar α]

/-- The buffer after a call, given the steps of a run and the value their sums start from. -/
def effect (layout : Layout) (inputs : List String) (start : α) (steps : List Step)
    (data : Array α) : Call α → Array α
  | write name position values =>
      if name ∈ inputs then
        match layout.placement name with
        | .ok placement =>
            Weights.writeFrom data (placement.start + position)
              (values.take (placement.length - position))
        | .error _ => data
      else data
  | run => Execution.applySteps start data steps

/-- The answer to a call, given whether runs complete. -/
def answer (inputs : List String) (completes : Bool) : Call α → Except Stop Unit
  | write name _ _ =>
      if name ∈ inputs then .ok () else .error (.failed (.notFound s!"input '{name}'"))
  | run => if completes then .ok () else .error .crashed

@[simp] theorem size_effect (layout : Layout) (inputs : List String) (start : α)
    (steps : List Step) (data : Array α) (call : Call α) :
    (call.effect layout inputs start steps data).size = data.size := by
  cases call with
  | write name position values =>
    simp only [effect]
    by_cases hmem : name ∈ inputs
    · rw [if_pos hmem]
      cases layout.placement name with
      | ok placement => exact Weights.size_writeFrom _ _ _
      | error failure => rfl
    · rw [if_neg hmem]
  | run => exact Execution.size_applySteps _ _ _

theorem size_effects (layout : Layout) (inputs : List String) (start : α) (steps : List Step)
    (data : Array α) (calls : List (Call α)) :
    (calls.foldl (fun data call => call.effect layout inputs start steps data) data).size =
      data.size := by
  induction calls generalizing data with
  | nil => rfl
  | cons call rest ih => rw [List.foldl_cons, ih, size_effect]

end Call

namespace Session

open Execution Sequencing

variable {α : Type} [Scalar α]

/-- Make a call. A write that is refused leaves the session as it was. -/
def perform (session : Session α) : Call α → Session α × Except Stop Unit
  | .write name position values =>
      match session.writeInput name position values with
      | .ok (next, _) => (next, .ok ())
      | .error failure => (session, .error (.failed failure))
  | .run => session.run

/-- The session after calls in order, refused ones and crashed runs included. -/
def after (session : Session α) (calls : List (Call α)) : Session α :=
  calls.foldl (fun session call => (session.perform call).1) session

/-- What the calls answer in order. -/
def answers (session : Session α) : List (Call α) → List (Except Stop Unit)
  | [] => []
  | call :: rest => (session.perform call).2 :: answers (session.perform call).1 rest

/-! ### Tensors -/

omit [Scalar α] in
theorem writeInput_undeclared (session : Session α) (name : String) (position : Nat)
    (values : List α) (h : name ∉ session.inputs) :
    session.writeInput name position values = .error (.notFound s!"input '{name}'") := by
  simp [writeInput, h, throw, throwThe, MonadExceptOf.throw, bind, Except.bind]

omit [Scalar α] in
theorem writeInput_declared (session : Session α) (name : String) (position : Nat)
    (values : List α) (h : name ∈ session.inputs) {placement : Placement}
    (hplace : session.layout.placement name = .ok placement) :
    session.writeInput name position values = .ok ({ session with
      data := Weights.writeFrom session.data (placement.start + position)
        (values.take (placement.length - position)) }, placement.length) := by
  simp [writeInput, h, hplace, bind, Except.bind, pure, Except.pure]

omit [Scalar α] in
theorem tensor_eq (session : Session α) (name : String) {placement : Placement}
    (hplace : session.layout.placement name = .ok placement) :
    session.tensor name = .ok (session.data.extract placement.start placement.stop).toList := by
  rw [tensor, hplace]
  rfl

/-- A tensor inside the buffer is read as a window of it. -/
theorem tensor_eq_window (session : Session α) {name : String} {slice : Slice}
    (hslice : Step.sliceOf session.layout name = .ok slice)
    (hinside : slice.start + slice.length ≤ session.data.size) :
    session.tensor name = .ok (window session.data slice.start slice.length) := by
  obtain ⟨placement, hplace, rfl⟩ := (Step.sliceOf_eq_ok_iff _ _ _).mp hslice
  rw [tensor_eq session name hplace, Placement.stop, toList_extract_eq_window _ _ _ hinside]

/-! ### What a call does -/

/-- A call changes the buffer as its effect says, and otherwise at most the outputs that are kept
with the plan. -/
theorem perform_eq (session : Session α) (steps : List Step) (h : Loaded session steps)
    (call : Call α) :
    ∃ plan, session.perform call =
        ({ session with
            data := call.effect session.layout session.inputs (sumStart session.backend)
              (completed session.backend steps) session.data
            plan := plan },
          call.answer session.inputs (Completes session.backend steps)) ∧
      (session.backend ≠ .fallback → Prepared plan steps) := by
  cases call with
  | write name position values =>
    refine ⟨session.plan, ?_, h.prepared⟩
    by_cases hmem : name ∈ session.inputs
    · obtain ⟨placement, hplace⟩ := h.placed name (List.mem_append_left _ hmem)
      simp [perform, writeInput_declared session name position values hmem hplace, Call.effect,
        Call.answer, hmem, hplace]
    · simp [perform, writeInput_undeclared session name position values hmem, Call.effect,
        Call.answer, hmem]
  | run =>
    obtain ⟨plan, hrun, hplan⟩ := run_eq session steps h
    refine ⟨plan, ?_, hplan⟩
    simp [perform, hrun, Call.effect, Call.answer]

/-- A later state of a loaded graph: the buffer holds other elements and the plan other outputs. -/
theorem Loaded.update {session : Session α} {steps : List Step} (h : Loaded session steps)
    (data : Array α) (plan : List (Planned α)) (hsize : data.size = session.data.size)
    (hplan : session.backend ≠ .fallback → Prepared plan steps) :
    Loaded { session with data := data, plan := plan } steps := by
  obtain ⟨total, hsettled, htotal⟩ := h.settled
  exact ⟨⟨total, hsettled, hsize.trans htotal⟩, h.compiled, hplan, h.placed⟩

theorem perform_loaded (session : Session α) (steps : List Step) (h : Loaded session steps)
    (call : Call α) : Loaded (session.perform call).1 steps := by
  obtain ⟨plan, hperform, hplan⟩ := perform_eq session steps h call
  rw [hperform]
  exact h.update _ plan (Call.size_effect _ _ _ _ _ call) hplan

/-- Any number of calls change the buffer as their effects say. -/
theorem after_eq (session : Session α) (steps : List Step) (h : Loaded session steps)
    (calls : List (Call α)) :
    ∃ plan, session.after calls =
        { session with
            data := calls.foldl (fun data call => call.effect session.layout session.inputs
              (sumStart session.backend) (completed session.backend steps) data) session.data
            plan := plan } ∧
      Loaded (session.after calls) steps := by
  induction calls generalizing session with
  | nil => exact ⟨session.plan, rfl, h⟩
  | cons call rest ih =>
    obtain ⟨plan, hperform, -⟩ := perform_eq session steps h call
    obtain ⟨last, hafter, hloaded⟩ := ih _ (perform_loaded session steps h call)
    have hcons : session.after (call :: rest) = (session.perform call).1.after rest := rfl
    rw [hcons]
    refine ⟨last, ?_, hloaded⟩
    rw [hafter, hperform]
    rfl

/-- Calls keep everything but the elements of the buffer and the outputs of the plan. -/
theorem after_keeps_graph (session : Session α) (steps : List Step) (h : Loaded session steps)
    (calls : List (Call α)) :
    (session.after calls).backend = session.backend ∧
      (session.after calls).layout = session.layout ∧
      (session.after calls).kernels = session.kernels ∧
      (session.after calls).inputs = session.inputs ∧
      (session.after calls).data.size = session.data.size := by
  obtain ⟨plan, hafter, -⟩ := after_eq session steps h calls
  rw [hafter]
  exact ⟨rfl, rfl, rfl, rfl, Call.size_effects _ _ _ _ _ calls⟩

theorem answers_eq (session : Session α) (steps : List Step) (h : Loaded session steps)
    (calls : List (Call α)) :
    session.answers calls =
      calls.map (Call.answer session.inputs (Completes session.backend steps)) := by
  induction calls generalizing session with
  | nil => rfl
  | cons call rest ih =>
    obtain ⟨plan, hperform, -⟩ := perform_eq session steps h call
    rw [answers, List.map_cons, ih _ (perform_loaded session steps h call), hperform]

end Session

end TensorBench
