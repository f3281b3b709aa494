import TensorBench.Number.Binary32
import TensorBench.Proofs.TensorGraph.Construction

/-!
Refused calls. A call that is refused, or crashes for want of room, leaves the nodes, the random stream
and the parameter count as they are. Refused calls can therefore be left out of a sequence, all of them
or some: every other call gets the reply it had, and the builder in the end is the same one, down to the
last weight.
-/
namespace TensorBench.GraphBuilder

variable {α : Type}

/-- A call with the reply that it got. -/
abbrev Answered := NodeCall × Except Stop Nat

/-- Answered calls, and what is left of them without some that were refused. -/
inductive WithoutRefused : List Answered → List Answered → Prop
  | nil : WithoutRefused [] []
  | keep (answered : Answered) {whole part : List Answered} (hrest : WithoutRefused whole part) :
      WithoutRefused (answered :: whole) (answered :: part)
  | leaveOut (call : NodeCall) (stop : Stop) {whole part : List Answered}
      (hrest : WithoutRefused whole part) : WithoutRefused ((call, .error stop) :: whole) part

theorem WithoutRefused.refl (whole : List Answered) : WithoutRefused whole whole := by
  induction whole with
  | nil => exact .nil
  | cons answered rest ih => exact .keep answered ih

theorem withoutRefused_filter (whole : List Answered) :
    WithoutRefused whole (whole.filter (·.2.isOk)) := by
  induction whole with
  | nil => exact .nil
  | cons answered rest ih =>
    obtain ⟨call, stop | id⟩ := answered
    · exact .leaveOut call stop ih
    · exact .keep (call, .ok id) ih

variable [Scalar α]

/-- The calls with their replies, one after the other. -/
def transcript (builder : GraphBuilder α) (calls : List NodeCall) : List Answered :=
  calls.zip (builder.performAll calls).1

theorem transcript_cons {builder after : GraphBuilder α} {call : NodeCall}
    {reply : Except Stop Nat} (hperformed : builder.perform call = (reply, after))
    (rest : List NodeCall) :
    builder.transcript (call :: rest) = (call, reply) :: after.transcript rest := by
  simp only [transcript, performAll, hperformed, List.zip_cons_cons]

theorem performAll_cons {builder after : GraphBuilder α} {call : NodeCall}
    {reply : Except Stop Nat} (hperformed : builder.perform call = (reply, after))
    (rest : List NodeCall) :
    builder.performAll (call :: rest) =
      (reply :: (after.performAll rest).1, (after.performAll rest).2) := by
  simp only [performAll, hperformed]

/-- Every call has its reply. -/
theorem map_fst_transcript (calls : List NodeCall) (builder : GraphBuilder α) :
    (builder.transcript calls).map (·.1) = calls := by
  induction calls generalizing builder with
  | nil => rfl
  | cons call rest ih => exact congrArg (call :: ·) (ih (builder.perform call).2)

/-- A refused call changes nothing. -/
theorem perform_of_refused {builder : GraphBuilder α} {call : NodeCall} {stop : Stop}
    (hrefused : (builder.perform call).1 = .error stop) : (builder.perform call).2 = builder := by
  rcases builder.perform_outcome call with ⟨other, hreply⟩ | ⟨node, after, hreply, -⟩
  · rw [hreply]
  · rw [hreply] at hrefused
    cases hrefused

/-- The remaining calls run as they ran among the refused ones. -/
theorem performAll_part (calls : List NodeCall) (builder : GraphBuilder α) {part : List Answered}
    (hleft : WithoutRefused (builder.transcript calls) part) :
    builder.performAll (part.map (·.1)) = (part.map (·.2), (builder.performAll calls).2) := by
  -- by induction on all calls, so that the two runs are in the same state before each call
  induction calls generalizing builder part with
  | nil =>
    cases hleft
    rfl
  | cons call rest ih =>
    rcases builder.perform_outcome call with ⟨stop, hperformed⟩ | ⟨node, after, hperformed, -⟩
    · rw [transcript_cons hperformed] at hleft
      rw [performAll_cons hperformed]
      cases hleft with
      | keep _ hleft =>
        rw [List.map_cons, performAll_cons hperformed, ih builder hleft, List.map_cons]
      | leaveOut _ _ hleft => exact ih builder hleft
    · rw [transcript_cons hperformed] at hleft
      rw [performAll_cons hperformed]
      cases hleft with
      | keep _ hleft =>
        rw [List.map_cons, performAll_cons hperformed, ih after hleft, List.map_cons]

/-- Accepted calls are answered with the numbers from the first free one on. -/
theorem accepted_replies (calls : List NodeCall) (builder : GraphBuilder α) :
    ((builder.transcript calls).filter (·.2.isOk)).map (·.2) =
      (List.range' builder.nodes.size
        ((builder.transcript calls).filter (·.2.isOk)).length).map .ok := by
  induction calls generalizing builder with
  | nil => rfl
  | cons call rest ih =>
    rcases builder.perform_outcome call with
      ⟨stop, hperformed⟩ | ⟨node, after, hperformed, hgrows⟩
    · rw [transcript_cons hperformed]
      exact ih builder
    · have hsize : after.nodes.size = builder.nodes.size + 1 := by
        rw [hgrows.nodes_eq, Array.size_push]
      rw [transcript_cons hperformed, List.filter_cons_of_pos (by rfl), List.map_cons,
        List.length_cons, List.range'_succ, List.map_cons, ih after, hsize]

/-- What was refused might as well never have been asked for. Every call is answered, and a refused one
leaves the builder as it is; whichever refused calls are left out, the others are answered as before and
the builder is the same in the end; and without all of them the answers are consecutive node numbers. -/
theorem refused_calls_traceless (builder : GraphBuilder α) (calls : List NodeCall) :
    (builder.transcript calls).map (·.1) = calls ∧
    (∀ call stop, (builder.perform call).1 = .error stop →
      (builder.perform call).2 = builder) ∧
    (∀ part, WithoutRefused (builder.transcript calls) part →
      builder.performAll (part.map (·.1)) = (part.map (·.2), (builder.performAll calls).2)) ∧
    let accepted := (builder.transcript calls).filter (·.2.isOk)
    builder.performAll (accepted.map (·.1)) = (accepted.map (·.2), (builder.performAll calls).2) ∧
      accepted.map (·.2) = (List.range' builder.nodes.size accepted.length).map .ok :=
  ⟨map_fst_transcript calls builder, fun _ _ => perform_of_refused,
    fun _ => performAll_part calls builder, performAll_part calls builder (withoutRefused_filter _),
    accepted_replies calls builder⟩

/-- An image of one channel, and its normalization. -/
def normalized : GraphBuilder Binary32 :=
  ((ofSeed 7).performAll [.input 1 4 4, .batchNorm "norm" 0]).2

def rectified : GraphBuilder Binary32 := (normalized.perform (.relu "act" 1)).2

/-- A kernel that does not fit and a node that does not exist, before weights are drawn. -/
def partlyRefused : List NodeCall :=
  [.conv2d "big" 0 1 7 1 0, .relu "act" 1, .add "sum" 1 9, .conv2d "narrow" 2 2 1 1 0,
    .dense "head" 3 3]

theorem refused_calls_traceless_big :
    ∃ stop part, (normalized.perform (.conv2d "big" 0 1 7 1 0)).1 = .error stop ∧
      (normalized.perform (.conv2d "big" 0 1 7 1 0)).2 = normalized ∧
      part = normalized.transcript
        [.relu "act" 1, .conv2d "narrow" 2 2 1 1 0, .dense "head" 3 3] ∧
      WithoutRefused (normalized.transcript partlyRefused) part ∧
      normalized.performAll (part.map (·.1)) =
        (part.map (·.2), (normalized.performAll partlyRefused).2) := by
  obtain ⟨-, hsingle, hseveral, -⟩ := refused_calls_traceless normalized partlyRefused
  obtain ⟨stop, hbig⟩ : ∃ stop,
      normalized.perform (.conv2d "big" 0 1 7 1 0) = (.error stop, normalized) := ⟨_, rfl⟩
  obtain ⟨_, hsum⟩ : ∃ stop, rectified.perform (.add "sum" 1 9) = (.error stop, rectified) :=
    ⟨_, rfl⟩
  have hact : normalized.perform (.relu "act" 1) = (.ok 2, rectified) := rfl
  have hleft : WithoutRefused (normalized.transcript partlyRefused)
      (normalized.transcript [.relu "act" 1, .conv2d "narrow" 2 2 1 1 0, .dense "head" 3 3]) := by
    rw [partlyRefused, transcript_cons hbig, transcript_cons hact, transcript_cons hsum,
      transcript_cons hact]
    exact .leaveOut _ _ (.keep _ (.leaveOut _ _ (.refl _)))
  have hrefused := congrArg Prod.fst hbig
  exact ⟨stop, _, hrefused, hsingle _ _ hrefused, rfl, hleft, hseveral _ hleft⟩

end TensorBench.GraphBuilder
