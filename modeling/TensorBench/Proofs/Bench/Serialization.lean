import TensorBench.Proofs.Bench.Suspensions

/-!
Calls to one service at the same time. However they are interleaved, the calls that have been
answered are answered as if they had been made one after the other, in the order in which they got
hold of the registry. The invariant that carries this from step to step compares the service with
the one that had only these calls: the call that has the registry, finished without interruption,
would come to what it comes to there. All other calls neither have changed anything nor will they
before it is their turn.
-/
namespace TensorBench

/-! ### Traces -/

namespace Trace

variable {ι : Type}

theorem acquired_append (earlier later : Trace ι) :
    acquired (earlier ++ later) = earlier.acquired ++ later.acquired :=
  List.filterMap_append

theorem hooks_append (earlier later : Trace ι) :
    hooks (earlier ++ later) = earlier.hooks ++ later.hooks :=
  List.filterMap_append

variable [DecidableEq ι]

/-- In the order of time, the polls are those of the first caller, then those of the second one, and
so on. -/
def Grouped (callers : List ι) (polls : List (ι × Hook)) : Prop :=
  polls = callers.flatMap fun caller => polls.filter (·.1 = caller)

theorem Grouped.caller_mem {callers : List ι} {polls : List (ι × Hook)}
    (hgrouped : Grouped callers polls) {caller : ι} {hook : Hook}
    (hpolled : (caller, hook) ∈ polls) : caller ∈ callers := by
  rw [hgrouped] at hpolled
  obtain ⟨other, hmem, hown⟩ := List.mem_flatMap.mp hpolled
  have hsame : caller = other := by simpa using (List.mem_filter.mp hown).2
  exact hsame ▸ hmem

/-- A caller that has not polled yet comes last. -/
theorem Grouped.snoc {callers : List ι} {polls : List (ι × Hook)}
    (hgrouped : Grouped callers polls) {caller : ι} (hfresh : caller ∉ callers) :
    Grouped (callers ++ [caller]) polls := by
  have hnone : polls.filter (·.1 = caller) = [] :=
    List.filter_eq_nil_iff.mpr fun poll hpolled hsame =>
      hfresh (of_decide_eq_true hsame ▸ hgrouped.caller_mem hpolled)
  rw [Grouped, List.flatMap_append, List.flatMap_singleton, hnone, List.append_nil]
  exact hgrouped

/-- The last of the callers may go on to poll. -/
theorem Grouped.polled {earlier : List ι} {caller : ι} {polls : List (ι × Hook)}
    (hgrouped : Grouped (earlier ++ [caller]) polls) (hfresh : caller ∉ earlier) (hook : Hook) :
    Grouped (earlier ++ [caller]) (polls ++ [(caller, hook)]) := by
  -- the new poll belongs to no group but the last
  have hothers : (earlier.flatMap fun other => (polls ++ [(caller, hook)]).filter (·.1 = other)) =
      earlier.flatMap fun other => polls.filter (·.1 = other) := by
    refine List.flatMap_congr fun other hmem => ?_
    have hdifferent : caller ≠ other := fun hsame => hfresh (hsame ▸ hmem)
    simp [List.filter_append, hdifferent]
  rw [Grouped, List.flatMap_append, hothers, List.flatMap_singleton, List.filter_append]
  simp only [decide_true, List.filter_cons_of_pos, List.filter_nil]
  rw [← List.append_assoc]
  conv_lhs => rw [hgrouped]
  rw [List.flatMap_append, List.flatMap_singleton]

end Trace

/-! ### The invariant -/

variable {World ε σ ι : Type} (ops : AsyncOps (Ways World) ε σ)
  (stage : Stage (Ways World)) (config : RunnerConfig)

/-- Finish a call without interruption. -/
def Phase.finish (registry : Registry ε) :
    Phase (Ways World) ε σ → Ways World (Reply × Registry ε)
  | called call =>
      (call.errand config).perform ops.uninterrupted stage config.cooldown registry
  | waiting errand | holding errand =>
      errand.perform ops.uninterrupted stage config.cooldown registry
  | running variant position => do
      let (result, last) ← position.finish ops stage variant
      pure (.benchmarked result, registry.replace last)
  | answered reply => pure (reply, registry)

/-- A call has come as far as the holder of the registry and the calls done with it allow. -/
def Phase.Placed (calls : ι → ServiceCall) (done : List ι) (holder : Option ι)
    (registry : Registry ε) (caller : ι) : Phase (Ways World) ε σ → Prop
  | called call => call = calls caller
  | waiting errand => errand = (calls caller).errand config
  | holding _ => holder = some caller
  | running variant _ => holder = some caller ∧ registry.replace variant = registry
  | answered _ => caller ∈ done

/-- How things stand after the steps of a trace. The calls that are done got their replies, which
with the registry that was kept are what comes of these calls one after the other. -/
structure Reached [DecidableEq ι] (calls : ι → ServiceCall) (registry : Registry ε) (world : World)
    (done : List ι) (replies : List Reply) (kept : Registry ε) (since : World) (trace : Trace ι)
    (service : Service (Ways World) ε σ ι) (now : World) : Prop where
  acquired : trace.acquired = done ++ service.holder.toList
  distinct : trace.acquired.Nodup
  grouped : Trace.Grouped trace.acquired trace.hooks
  placed : ∀ caller, (service.progress caller).Placed config calls done service.holder
    service.registry caller
  answered : List.Forall₂ (fun caller reply => service.progress caller = .answered reply)
    done replies
  performed : ServiceCall.answerAll ops.uninterrupted stage config (done.map calls)
    registry world (replies, kept) since
  free : service.holder = none → service.registry = kept ∧ now = since
  held : ∀ caller, service.holder = some caller → ∀ outcome after,
    (service.progress caller).finish ops stage config service.registry now outcome after →
      ((calls caller).errand config).perform ops.uninterrupted stage config.cooldown
        kept since outcome after

variable {ops stage config}

/-- A call that does not have the registry stays in place, whatever the holder does. -/
theorem Phase.Placed.of_absent {calls : ι → ServiceCall} {done later : List ι}
    {holder next : Option ι} {registry changed : Registry ε} {caller : ι}
    {progress : Phase (Ways World) ε σ}
    (hplaced : progress.Placed config calls done holder registry caller)
    (habsent : holder ≠ some caller) (hstill : done ⊆ later) :
    progress.Placed config calls later next changed caller := by
  cases progress with
  | called call | waiting errand => exact hplaced
  | holding errand => exact absurd hplaced habsent
  | running variant position => exact absurd hplaced.1 habsent
  | answered reply => exact hstill hplaced

/-- A run begins with the variant that its errand asks for. -/
theorem Phase.finish_begun {name : String} {variant : Variant ε} {registry : Registry ε}
    (hfound : registry.get name = .ok variant) (iterations : Nat) :
    (Phase.holding (.benchmark name iterations) : Phase (Ways World) ε σ).finish ops
        stage config registry =
      (Phase.running variant (.before (Run.script
        ⟨variant.name, ops.kind variant.engine, iterations, config.cooldown⟩))).finish ops
        stage config registry := by
  simp [Phase.finish, Errand.perform, Registry.run, hfound, Variant.run, Position.finish,
    AsyncOps.uninterrupted]

/-- What a run comes to from its next suspension on, it comes to from where it is. -/
theorem Phase.finish_of_advanced {registry : Registry ε} {variant between : Variant ε}
    {position next : Position (Ways World) σ (Except Failure Summary)}
    (hunfinished : position.result? = none) {now after last : World} {outcome : Reply × Registry ε}
    (hadvanced : position.advance ops stage variant now (next, between) after)
    (hfinished : (Phase.running between next).finish ops stage config
      (registry.replace between) after outcome last) :
    (Phase.running variant position).finish ops stage config registry now outcome
      last := by
  obtain ⟨⟨result, final⟩, world, hfinished, hsame, rfl⟩ := hfinished
  have hnamed : final.name = between.name := Position.name_of_finished hfinished
  refine ⟨(result, final), last, ?_, ?_, rfl⟩
  · rw [Position.finish_eq_advance ops stage hunfinished]
    exact ⟨_, _, hadvanced, hfinished⟩
  · rw [hsame, Registry.replace_replace hnamed]

/-! ### Steps -/

namespace Reached

variable [DecidableEq ι] {calls : ι → ServiceCall} {registry kept : Registry ε}
  {world since now : World} {done : List ι} {replies : List Reply} {trace : Trace ι}
  {service : Service (Ways World) ε σ ι} {caller : ι}

theorem start (calls : ι → ServiceCall) (registry : Registry ε) (world : World) :
    Reached ops stage config calls registry world [] [] registry world []
      (Service.start registry calls) world where
  acquired := rfl
  distinct := .nil
  grouped := rfl
  placed _ := rfl
  answered := .nil
  performed := ⟨rfl, rfl⟩
  free _ := ⟨rfl, rfl⟩
  held _ hhas := by cases hhas

variable (hreached : Reached ops stage config calls registry world done replies kept since
  trace service now)

include hreached

theorem not_done_of_unanswered (hunanswered : ∀ reply, service.progress caller ≠ .answered reply) :
    caller ∉ done := by
  intro hmem
  obtain ⟨reply, -, hanswered⟩ := Sequencing.exists_item_of_mem_results hreached.answered.flip hmem
  exact hunanswered reply hanswered

/-- The holder has not been answered. -/
theorem not_done_of_holder (hhas : service.holder = some caller) : caller ∉ done := by
  have hdistinct := hreached.distinct
  rw [hreached.acquired, hhas, Option.toList_some, List.nodup_append] at hdistinct
  exact fun hmem => hdistinct.2.2 caller hmem caller List.mem_cons_self rfl

/-- The calls that are done keep their replies when another one goes on. -/
theorem answered_set (hdue : caller ∉ done) (next : Phase (Ways World) ε σ) :
    List.Forall₂ (fun other reply => (service.set caller next).progress other = .answered reply)
      done replies := by
  have hothers : ∀ other ∈ done, other ≠ caller := fun other hmem hsame => hdue (hsame ▸ hmem)
  exact ((List.forall₂_and_left _ _).mpr ⟨hothers, hreached.answered⟩).imp
    fun other reply ⟨hdifferent, hanswered⟩ =>
      (Service.set_of_ne hdifferent next).trans hanswered

/-- A call goes on without the registry, and nothing new comes of it. -/
theorem consult (hdue : caller ∉ done) {next : Phase (Ways World) ε σ}
    (hplaced : next.Placed config calls done service.holder service.registry caller)
    (hcomes : next.finish ops stage config service.registry =
      (service.progress caller).finish ops stage config service.registry) :
    Reached ops stage config calls registry world done replies kept since trace
      (service.set caller next) now where
  acquired := hreached.acquired
  distinct := hreached.distinct
  grouped := hreached.grouped
  placed := Service.forall_set hplaced fun other _ => hreached.placed other
  answered := hreached.answered_set hdue next
  performed := hreached.performed
  free := hreached.free
  held holder hhas := by
    have hheld := hreached.held holder hhas
    by_cases hsame : holder = caller
    · subst hsame
      rwa [Service.set_self, Service.set_registry, hcomes]
    · rwa [Service.set_of_ne hsame]

/-- A call gets hold of the free registry. -/
theorem acquire (hdue : caller ∉ done) (hfree : service.holder = none) :
    Reached ops stage config calls registry world done replies kept since
      (trace ++ [(caller, .acquired)])
      { service.set caller (.holding ((calls caller).errand config)) with holder := some caller }
      now := by
  have hacquired : trace.acquired = done := by
    rw [hreached.acquired, hfree, Option.toList_none, List.append_nil]
  have horder : Trace.acquired (trace ++ [(caller, .acquired)]) = done ++ [caller] := by
    rw [Trace.acquired_append, hacquired]
    rfl
  have hpolls : Trace.hooks (trace ++ [(caller, .acquired)]) = trace.hooks := by
    rw [Trace.hooks_append]
    exact List.append_nil _
  have hgrouped := hreached.grouped
  have hdistinct := hreached.distinct
  rw [hacquired] at hgrouped hdistinct
  refine ⟨horder, ?_, ?_, ?_, hreached.answered_set hdue _, hreached.performed, nofun, ?_⟩
  · rw [horder]
    refine List.nodup_append.mpr ⟨hdistinct, List.nodup_singleton caller, ?_⟩
    intro other hmem last halone hsame
    rw [hsame, List.mem_singleton.mp halone] at hmem
    exact hdue hmem
  · rw [horder, hpolls]
    exact hgrouped.snoc hdue
  · refine Service.forall_set rfl fun other _ => ?_
    exact (hreached.placed other).of_absent (by rw [hfree]; nofun) (List.Subset.refl _)
  · intro holder hhas outcome after hfinished
    obtain rfl := Option.some.inj hhas
    obtain ⟨rfl, rfl⟩ := hreached.free hfree
    have hfinished : ((service.set caller (.holding ((calls caller).errand config))).progress
        caller).finish ops stage config service.registry now outcome after := hfinished
    rwa [Service.set_self] at hfinished

/-- The holder goes on, so that finishing its call still comes to nothing new. -/
theorem advance (hhas : service.holder = some caller) {next : Phase (Ways World) ε σ}
    {changed : Registry ε} {after : World} (hook? : Option Hook)
    (hplaced : next.Placed config calls done service.holder changed caller)
    (hcomes : ∀ outcome last, next.finish ops stage config changed after outcome last →
      (service.progress caller).finish ops stage config service.registry now outcome last) :
    Reached ops stage config calls registry world done replies kept since
      (trace ++ (hook?.map Mark.polled).toList.map (caller, ·))
      { service.set caller next with registry := changed } after := by
  have hdue := hreached.not_done_of_holder hhas
  have horder : Trace.acquired (trace ++ (hook?.map Mark.polled).toList.map (caller, ·)) =
      trace.acquired := by
    rw [Trace.acquired_append]
    cases hook? <;> exact List.append_nil _
  have hlast : trace.acquired = done ++ [caller] := by
    rw [hreached.acquired, hhas]
    rfl
  refine ⟨horder.trans hreached.acquired, horder ▸ hreached.distinct, ?_, ?_,
    hreached.answered_set hdue next, hreached.performed, fun hfree => ?_, ?_⟩
  · rw [horder, Trace.hooks_append]
    have hgrouped := hreached.grouped
    cases hook? with
    | none => exact (List.append_nil trace.hooks).symm ▸ hgrouped
    | some hook =>
      rw [hlast] at hgrouped ⊢
      exact hgrouped.polled hdue hook
  · refine Service.forall_set hplaced fun other hdifferent => ?_
    refine (hreached.placed other).of_absent ?_ (List.Subset.refl _)
    rw [hhas]
    exact fun hsame => hdifferent (Option.some.inj hsame).symm
  · exact absurd (hhas.symm.trans hfree) (Option.some_ne_none caller)
  · intro holder hhas' outcome later hfinished
    obtain rfl : caller = holder := Option.some.inj (hhas.symm.trans hhas')
    have hfinished : ((service.set caller next).progress caller).finish ops stage config
        changed after outcome later := hfinished
    rw [Service.set_self] at hfinished
    exact hreached.held caller hhas outcome later (hcomes outcome later hfinished)

/-- The holder gives the registry back and answers. -/
theorem leave (hhas : service.holder = some caller) {reply : Reply}
    (hcomes : (service.progress caller).finish ops stage config service.registry now
      (reply, service.registry) now) :
    Reached ops stage config calls registry world (done ++ [caller]) (replies ++ [reply])
      service.registry now trace (service.leave caller reply) now where
  acquired := by
    rw [hreached.acquired, hhas]
    exact (List.append_nil _).symm
  distinct := hreached.distinct
  grouped := hreached.grouped
  placed := by
    refine Service.forall_set ?_ fun other hdifferent => ?_
    · exact List.mem_append_right _ List.mem_cons_self
    · refine (hreached.placed other).of_absent ?_ (List.subset_append_left _ _)
      rw [hhas]
      exact fun hsame => hdifferent (Option.some.inj hsame).symm
  answered := List.rel_append (hreached.answered_set (hreached.not_done_of_holder hhas) _)
    (.cons (Service.set_self ..) .nil)
  performed := by
    rw [List.map_append]
    exact ServiceCall.answerAll_snoc hreached.performed (hreached.held caller hhas _ _ hcomes)
  free _ := ⟨rfl, rfl⟩
  held _ hhas := by cases hhas

/-- A call that has just got hold of the registry answers at once or begins a run. -/
theorem poll_holding {errand : Errand} (hstands : service.progress caller = .holding errand)
    {mark : Option Mark} {next : Service (Ways World) ε σ ι} {after : World}
    (hpolled : service.poll ops stage config caller now (mark, next) after) :
    ∃ done replies kept since, Reached ops stage config calls registry world done replies
      kept since (trace ++ mark.toList.map (caller, ·)) next after := by
  have hhas : service.holder = some caller := by
    have hplaced := hreached.placed caller
    rwa [hstands] at hplaced
  unfold Service.poll at hpolled
  rw [hstands] at hpolled
  cases errand with
  | list =>
    obtain ⟨hsame, rfl⟩ := hpolled
    cases hsame
    rw [Option.toList_none, List.map_nil, List.append_nil]
    exact ⟨_, _, _, _, hreached.leave hhas (by rw [hstands]; exact ⟨rfl, rfl⟩)⟩
  | benchmark name iterations =>
    cases hfound : service.registry.get name with
    | error failure =>
      simp only [hfound] at hpolled
      obtain ⟨hsame, rfl⟩ := hpolled
      cases hsame
      rw [Option.toList_none, List.map_nil, List.append_nil]
      refine ⟨_, _, _, _, hreached.leave hhas ?_⟩
      rw [hstands]
      refine ⟨(.error failure, service.registry), _, ?_, rfl, rfl⟩
      rw [Registry.run, hfound]
      exact ⟨rfl, rfl⟩
    | ok variant =>
      simp only [hfound] at hpolled
      obtain ⟨hsame, rfl⟩ := hpolled
      cases hsame
      refine ⟨_, _, _, _, hreached.advance hhas none ⟨hhas, Registry.replace_of_get hfound⟩ ?_⟩
      intro outcome last hfinished
      rwa [hstands, Phase.finish_begun hfound]

/-- A call that runs a variant answers when the run is over and goes on with it before. -/
theorem poll_running {variant : Variant ε}
    {position : Position (Ways World) σ (Except Failure Summary)}
    (hstands : service.progress caller = .running variant position)
    {mark : Option Mark} {next : Service (Ways World) ε σ ι} {after : World}
    (hpolled : service.poll ops stage config caller now (mark, next) after) :
    ∃ done replies kept since, Reached ops stage config calls registry world done replies
      kept since (trace ++ mark.toList.map (caller, ·)) next after := by
  obtain ⟨hhas, hborrowed⟩ : service.holder = some caller ∧
      service.registry.replace variant = service.registry := by
    have hplaced := hreached.placed caller
    rwa [hstands] at hplaced
  unfold Service.poll at hpolled
  rw [hstands] at hpolled
  cases hended : position.result? with
  | some result =>
    simp only [hended] at hpolled
    obtain ⟨hsame, rfl⟩ := hpolled
    cases hsame
    rw [Option.toList_none, List.map_nil, List.append_nil]
    refine ⟨_, _, _, _, hreached.leave hhas ?_⟩
    rw [hstands, Phase.finish, Position.finish_of_result ops stage hended]
    exact ⟨_, _, ⟨rfl, rfl⟩, by rw [hborrowed], rfl⟩
  | none =>
    simp only [hended] at hpolled
    obtain ⟨⟨further, between⟩, world, hadvanced, hsame, rfl⟩ := hpolled
    cases hsame
    refine ⟨_, _, _, _, hreached.advance hhas position.hook?
      ⟨hhas, Registry.replace_replace rfl service.registry⟩ ?_⟩
    intro outcome last hfinished
    rw [hstands]
    exact Phase.finish_of_advanced hended hadvanced hfinished

/-- Whatever step a call takes, the calls that are done are answered as if one after the other. -/
theorem poll {mark : Option Mark} {next : Service (Ways World) ε σ ι} {after : World}
    (hpolled : service.poll ops stage config caller now (mark, next) after) :
    ∃ done replies kept since, Reached ops stage config calls registry world done replies
      kept since (trace ++ mark.toList.map (caller, ·)) next after := by
  have hplaced := hreached.placed caller
  cases hstands : service.progress caller with
  | called call =>
    rw [Service.poll, hstands] at hpolled
    obtain ⟨hsame, rfl⟩ := hpolled
    cases hsame
    rw [hstands] at hplaced
    obtain rfl : call = calls caller := hplaced
    rw [Option.toList_none, List.map_nil, List.append_nil]
    have hdue := hreached.not_done_of_unanswered (by rw [hstands]; nofun)
    exact ⟨_, _, _, _, hreached.consult hdue rfl (by rw [hstands]; rfl)⟩
  | waiting errand =>
    rw [hstands] at hplaced
    obtain rfl : errand = (calls caller).errand config := hplaced
    cases hfree : service.holder with
    | some other =>
      rw [Service.poll, hstands, hfree] at hpolled
      obtain ⟨hsame, rfl⟩ := hpolled
      cases hsame
      rw [Option.toList_none, List.map_nil, List.append_nil]
      exact ⟨_, _, _, _, hreached⟩
    | none =>
      rw [Service.poll, hstands, hfree] at hpolled
      obtain ⟨hsame, rfl⟩ := hpolled
      cases hsame
      have hdue := hreached.not_done_of_unanswered (by rw [hstands]; nofun)
      exact ⟨_, _, _, _, hreached.acquire hdue hfree⟩
  | holding errand => exact hreached.poll_holding hstands hpolled
  | running variant position => exact hreached.poll_running hstands hpolled
  | answered reply =>
    rw [Service.poll, hstands] at hpolled
    obtain ⟨hsame, rfl⟩ := hpolled
    cases hsame
    rw [Option.toList_none, List.map_nil, List.append_nil]
    exact ⟨_, _, _, _, hreached⟩

/-- What one step preserves, a whole schedule preserves. -/
theorem pollAll {schedule : List ι} {later : Trace ι} {next : Service (Ways World) ε σ ι}
    {after : World}
    (hpolled : service.pollAll ops stage config schedule now (later, next) after) :
    ∃ done replies kept since, Reached ops stage config calls registry world done replies
      kept since (trace ++ later) next after := by
  -- by induction on the schedule; the trace so far is part of the invariant
  induction schedule generalizing done replies kept since trace service now later with
  | nil =>
    obtain ⟨hsame, rfl⟩ := hpolled
    cases hsame
    rw [List.append_nil]
    exact ⟨_, _, _, _, hreached⟩
  | cons caller schedule ih =>
    obtain ⟨⟨mark, between⟩, middle, hpolled, ⟨rest, last⟩, _, hcontinued, hsame, rfl⟩ := hpolled
    cases hsame
    obtain ⟨done, replies, kept, since, hreached⟩ := hreached.poll hpolled
    rw [← List.append_assoc]
    exact ih hreached hcontinued

end Reached

namespace Rehearsal

end Rehearsal

end TensorBench
