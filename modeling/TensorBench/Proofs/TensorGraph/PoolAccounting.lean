import TensorBench.Proofs.TensorGraph.Accounting

/-!
The accounts of a pool. Scopes are opened, filled, emptied and closed in any order over one tracker;
at any time the tracker counts what all open scopes hold, and nothing is given back that was not
counted before.
-/
namespace TensorBench

variable {α : Type}

namespace Pool

/-- The bytes counted by all open scopes. -/
def counted (pool : Pool α) : Nat := totalOf Scope.bytes pool.scopes.toList

/-- Every open scope counts what it holds, and the tracker counts what all of them do. -/
structure Balanced (pool : Pool α) : Prop where
  scopes : ∀ number scope, pool.scope? number = some scope → scope.Counted
  tracker : pool.tracker.live = pool.counted

theorem scope?_eq_some_iff (pool : Pool α) (number : Nat) (scope : Scope α) :
    pool.scope? number = some scope ↔ pool.scopes[number]? = some (some scope) := by
  rw [scope?, Option.join_eq_some_iff]

theorem Balanced.backed {pool : Pool α} (hbalanced : pool.Balanced) {number : Nat}
    {scope : Scope α} (hfound : pool.scope? number = some scope) :
    (⟨pool.tracker, scope⟩ : Workspace α).Backed := by
  refine ⟨hbalanced.scopes number scope hfound, ?_⟩
  rw [scope?_eq_some_iff, ← Array.getElem?_toList] at hfound
  change scope.bytes ≤ pool.tracker.live
  rw [hbalanced.tracker]
  exact amount_le_totalOf Scope.bytes _ number scope hfound

/-- A pool in which one place is filled anew stays balanced if the tracker follows the scopes. -/
theorem Balanced.set {pool : Pool α} (hbalanced : pool.Balanced) {number : Nat} {scope : Scope α}
    (hfound : pool.scope? number = some scope) (tracker : Tracker) (new : Option (Scope α))
    (hcounted : ∀ next, new = some next → next.Counted)
    (hfollows : tracker.live + scope.bytes = pool.tracker.live + new.elim 0 Scope.bytes) :
    (⟨tracker, pool.scopes.setIfInBounds number new⟩ : Pool α).Balanced := by
  have hplace := (pool.scope?_eq_some_iff number scope).mp hfound
  constructor
  · intro other next hheld
    rw [scope?_eq_some_iff, Array.getElem?_setIfInBounds] at hheld
    split at hheld
    · split at hheld
      · exact hcounted next (Option.some.inj hheld)
      · cases hheld
    · exact hbalanced.scopes other next ((pool.scope?_eq_some_iff other next).mpr hheld)
  · have hexchanged := totalOf_set Scope.bytes pool.scopes.toList number (some scope) new
      (by rwa [Array.getElem?_toList])
    have hbefore := hbalanced.tracker
    rw [Pool.counted] at hbefore ⊢
    rw [Array.toList_setIfInBounds]
    change tracker.live = _
    simp only [Option.elim_some] at hexchanged
    omega

theorem Balanced.update {pool : Pool α} (hbalanced : pool.Balanced) {number : Nat}
    {scope : Scope α} (hfound : pool.scope? number = some scope) (space : Workspace α)
    (hcounted : space.scope.Counted)
    (hfollows : space.tracker.live + scope.bytes = pool.tracker.live + space.scope.bytes) :
    (pool.update number space).Balanced :=
  hbalanced.set hfound space.tracker (some space.scope)
    (fun _ hsame => Option.some.inj hsame ▸ hcounted) hfollows

end Pool

/-! ### Calls -/

/-- A call on a pool. All but the opening of a scope name a scope by its number. -/
inductive PoolCall (α : Type) where
  | open_ (slots : Nat)
  | insert (number id : Nat) (x : Volume α)
  | get (number id : Nat)
  | release (number id : Nat)
  | close (number : Nat)

namespace PoolCall

/-- The bytes that a call gives back to the tracker. -/
def returned (pool : Pool α) : PoolCall α → Nat
  | open_ _ => 0
  | insert number id _ => (pool.scope? number).elim 0 (·.bytesAt id)
  | get _ _ => 0
  | release number id => (pool.scope? number).elim 0 (·.bytesAt id)
  | close number => (pool.scope? number).elim 0 Scope.bytes

/-- The bytes that a call takes from the tracker. -/
def taken (pool : Pool α) : PoolCall α → Nat
  | insert number id x =>
      match pool.insert number id x with
      | .ok _ => x.bytes
      | .error _ => 0
  | _ => 0

end PoolCall

namespace Pool

/-- The pool after a call. An insertion that fails leaves it as it was. -/
def perform (pool : Pool α) : PoolCall α → Pool α
  | .open_ slots => pool.open_ slots
  | .insert number id x =>
      match pool.insert number id x with
      | .ok next => next
      | .error _ => pool
  | .get _ _ => pool
  | .release number id => pool.release number id
  | .close number => pool.close number

def performAll (pool : Pool α) (calls : List (PoolCall α)) : Pool α := calls.foldl perform pool

/-- The bytes that are live after each of the insertions among the calls, failed ones left out. -/
def marks (pool : Pool α) : List (PoolCall α) → List Nat
  | [] => []
  | .insert number id x :: rest =>
      match pool.insert number id x with
      | .ok next => next.tracker.live :: marks next rest
      | .error _ => marks pool rest
  | call :: rest => marks (pool.perform call) rest

/-- A scope that is opened takes the next number; the others keep theirs. -/
theorem scope?_open (pool : Pool α) (slots number : Nat) :
    (pool.open_ slots).scope? number =
      if number = pool.scopes.size then some (Scope.ofSlots slots) else pool.scope? number := by
  rw [scope?, open_, Array.getElem?_push]
  split <;> rfl

theorem Balanced.open_ {pool : Pool α} (hbalanced : pool.Balanced) (slots : Nat) :
    (pool.open_ slots).Balanced := by
  constructor
  · intro number scope hfound
    rw [scope?_open] at hfound
    split at hfound
    · cases hfound
      exact Scope.counted_ofSlots slots
    · exact hbalanced.scopes number scope hfound
  · change pool.tracker.live = totalOf Scope.bytes (pool.scopes.push _).toList
    rw [Array.toList_push, totalOf_append]
    exact hbalanced.tracker

/-- An insertion that succeeds is one into a slot of an open scope. -/
theorem insert_eq_ok {pool next : Pool α} {number id : Nat} {x : Volume α}
    (hinserted : pool.insert number id x = .ok next) :
    ∃ scope space, pool.scope? number = some scope ∧
      (⟨pool.tracker, scope⟩ : Workspace α).insert id x = .ok space ∧
      next = pool.update number space := by
  unfold insert at hinserted
  split at hinserted
  · cases hinserted
  · rename_i scope hfound
    cases hdone : (⟨pool.tracker, scope⟩ : Workspace α).insert id x with
    | error failure => rw [hdone] at hinserted; cases hinserted
    | ok space =>
      rw [hdone] at hinserted
      cases hinserted
      exact ⟨scope, space, hfound, hdone, rfl⟩

theorem insert_eq_error_iff {pool : Pool α} {number : Nat} {scope : Scope α}
    (hfound : pool.scope? number = some scope) (id : Nat) (x : Volume α) (failure : Failure) :
    pool.insert number id x = .error failure ↔
      scope.slots.size ≤ id ∧ failure = .notFound s!"tensor slot {id}" := by
  rw [← Workspace.insert_eq_error_iff ⟨pool.tracker, scope⟩ id x failure]
  simp only [insert, hfound]
  cases (⟨pool.tracker, scope⟩ : Workspace α).insert id x <;> simp [Except.map]

/-- What one call does to the counters of a balanced pool. -/
structure Accounted (pool : Pool α) (call : PoolCall α) : Prop where
  balanced : (pool.perform call).Balanced
  live : (pool.perform call).tracker.live + call.returned pool =
    pool.tracker.live + call.taken pool
  peak : (pool.perform call).tracker.peak = (pool.marks [call]).foldl max pool.tracker.peak

/-- A call that changes nothing gives back nothing and takes nothing. -/
theorem Accounted.of_unchanged {pool : Pool α} {call : PoolCall α} (hbalanced : pool.Balanced)
    (hunchanged : pool.perform call = pool) (hreturned : call.returned pool = 0)
    (htaken : call.taken pool = 0) (hunmarked : pool.marks [call] = []) : pool.Accounted call := by
  constructor
  · rwa [hunchanged]
  · rw [hunchanged, hreturned, htaken]
  · rw [hunchanged, hunmarked]
    rfl

theorem returned_eq_zero_of_error {pool : Pool α} {number id : Nat} {x : Volume α}
    {failure : Failure} (hrefused : pool.insert number id x = .error failure) :
    PoolCall.returned pool (.insert number id x) = 0 := by
  cases hfound : pool.scope? number with
  | none => simp [PoolCall.returned, hfound]
  | some scope =>
    obtain ⟨houtside, -⟩ := (insert_eq_error_iff hfound id x failure).mp hrefused
    simp [PoolCall.returned, hfound, Scope.bytesAt, Scope.held?, houtside]

theorem insert_accounted {pool : Pool α} (hbalanced : pool.Balanced) (number id : Nat)
    (x : Volume α) : pool.Accounted (.insert number id x) := by
  cases hinserted : pool.insert number id x with
  | error failure =>
    exact .of_unchanged hbalanced (by simp [perform, hinserted])
      (returned_eq_zero_of_error hinserted) (by simp [PoolCall.taken, hinserted])
      (by simp [marks, hinserted])
  | ok next =>
    have hperformed : pool.perform (.insert number id x) = next := by simp [perform, hinserted]
    have htaken : PoolCall.taken pool (.insert number id x) = x.bytes := by
      simp [PoolCall.taken, hinserted]
    have hmarked : pool.marks [.insert number id x] = [next.tracker.live] := by
      simp [marks, hinserted]
    obtain ⟨scope, space, hfound, hfilled, rfl⟩ := insert_eq_ok hinserted
    have hreturned : PoolCall.returned pool (.insert number id x) = scope.bytesAt id := by
      simp [PoolCall.returned, hfound]
    obtain ⟨hcounted, hbytes, hlive, hpeak⟩ :=
      Workspace.insert_accounts _ space id x (hbalanced.backed hfound) hfilled
    change space.scope.bytes + scope.bytesAt id = scope.bytes + x.bytes at hbytes
    change space.tracker.live + scope.bytesAt id = pool.tracker.live + x.bytes at hlive
    refine ⟨?_, ?_, ?_⟩
    · rw [hperformed]
      exact hbalanced.update hfound space hcounted (by omega)
    · rw [hperformed, htaken, hreturned]
      exact hlive
    · rw [hperformed, hmarked]
      exact hpeak

theorem release_accounted {pool : Pool α} (hbalanced : pool.Balanced) (number id : Nat) :
    pool.Accounted (.release number id) := by
  cases hfound : pool.scope? number with
  | none =>
    exact .of_unchanged hbalanced (by simp [perform, release, hfound])
      (by simp [PoolCall.returned, hfound]) rfl rfl
  | some scope =>
    let space := (⟨pool.tracker, scope⟩ : Workspace α).release id
    have hperformed : pool.perform (.release number id) = pool.update number space := by
      simp [perform, release, hfound, space]
    have hreturned : PoolCall.returned pool (.release number id) = scope.bytesAt id := by
      simp [PoolCall.returned, hfound]
    obtain ⟨hcounted, hbytes, hlive, hpeak⟩ :=
      Workspace.release_accounts ⟨pool.tracker, scope⟩ id (hbalanced.backed hfound)
    change space.scope.bytes + scope.bytesAt id = scope.bytes at hbytes
    change space.tracker.live + scope.bytesAt id = pool.tracker.live at hlive
    refine ⟨?_, ?_, ?_⟩
    · rw [hperformed]
      exact hbalanced.update hfound space hcounted (by omega)
    · rw [hperformed, hreturned]
      exact hlive
    · rw [hperformed]
      exact hpeak

theorem close_accounted {pool : Pool α} (hbalanced : pool.Balanced) (number : Nat) :
    pool.Accounted (.close number) := by
  cases hfound : pool.scope? number with
  | none =>
    exact .of_unchanged hbalanced (by simp [perform, close, hfound])
      (by simp [PoolCall.returned, hfound]) rfl rfl
  | some scope =>
    have hperformed : pool.perform (.close number) =
        ⟨pool.tracker.free scope.bytes, pool.scopes.setIfInBounds number none⟩ := by
      simp [perform, close, Workspace.close, hfound]
    have hreturned : PoolCall.returned pool (.close number) = scope.bytes := by
      simp [PoolCall.returned, hfound]
    have hlive : (pool.tracker.free scope.bytes).live + scope.bytes = pool.tracker.live :=
      Nat.sub_add_cancel (hbalanced.backed hfound).tracked
    refine ⟨?_, ?_, ?_⟩
    · rw [hperformed]
      exact hbalanced.set hfound _ none nofun hlive
    · rw [hperformed, hreturned]
      exact hlive
    · rw [hperformed]
      rfl

/-- The counters stay balanced under every call. -/
theorem perform_accounted {pool : Pool α} (hbalanced : pool.Balanced) (call : PoolCall α) :
    pool.Accounted call := by
  cases call with
  | open_ slots => exact ⟨hbalanced.open_ slots, rfl, rfl⟩
  | insert number id x => exact insert_accounted hbalanced number id x
  | get number id => exact ⟨hbalanced, rfl, rfl⟩
  | release number id => exact release_accounted hbalanced number id
  | close number => exact close_accounted hbalanced number

theorem marks_cons (pool : Pool α) (call : PoolCall α) (rest : List (PoolCall α)) :
    pool.marks (call :: rest) = pool.marks [call] ++ (pool.perform call).marks rest := by
  cases call with
  | insert number id x =>
    simp only [marks, perform]
    cases pool.insert number id x <;> rfl
  | _ => rfl

theorem performAll_balanced (calls : List (PoolCall α)) {pool : Pool α}
    (hbalanced : pool.Balanced) :
    (pool.performAll calls).Balanced ∧
      (pool.performAll calls).tracker.peak = (pool.marks calls).foldl max pool.tracker.peak := by
  induction calls generalizing pool with
  | nil => exact ⟨hbalanced, rfl⟩
  | cons call rest ih =>
    have haccounted := perform_accounted hbalanced call
    obtain ⟨hlast, hpeak⟩ := ih haccounted.balanced
    refine ⟨hlast, ?_⟩
    rw [marks_cons, List.foldl_append, ← haccounted.peak]
    exact hpeak

theorem initial_balanced : (initial : Pool α).Balanced :=
  ⟨fun number scope hfound => by simp [scope?, initial] at hfound, rfl⟩

/-- The counters after any calls on a new pool, and what one more call does to them. All that a
call takes off a counter is the bytes of a slot or those of a scope that is closed, and neither
exceeds the counter. A scope that is opened then has empty slots and no bytes. -/
theorem performAll_accounts (calls : List (PoolCall α)) :
    let pool := initial.performAll calls
    (∀ number scope, pool.scope? number = some scope →
      scope.bytes = 4 * scope.elements ∧ (∀ id, scope.bytesAt id ≤ scope.bytes) ∧
        scope.bytes ≤ pool.tracker.live) ∧
      pool.tracker.live = totalOf Scope.bytes pool.scopes.toList ∧
      pool.tracker.peak = (initial.marks calls).foldl max 0 ∧
      ((∀ number, pool.scope? number = none) → pool.tracker.live = 0) ∧
      (∀ call, (pool.perform call).tracker.live + call.returned pool =
        pool.tracker.live + call.taken pool) ∧
      (∀ number scope id x, pool.scope? number = some scope →
        if id < scope.slots.size then ∃ next, pool.insert number id x = .ok next
        else pool.insert number id x = .error (.notFound s!"tensor slot {id}") ∧
          pool.perform (.insert number id x) = pool) ∧
      ∀ slots number, (pool.perform (.open_ slots)).scope? number =
        if number = pool.scopes.size then some ⟨Array.replicate slots none, 0⟩
        else pool.scope? number := by
  intro pool
  obtain ⟨hbalanced, hpeak⟩ := performAll_balanced calls initial_balanced
  change pool.Balanced at hbalanced
  refine ⟨fun number scope hfound => ?_, hbalanced.tracker, hpeak, fun hclosed => ?_,
    fun call => ?_, fun number scope id x hfound => ?_, pool.scope?_open⟩
  · have hbacked := hbalanced.backed hfound
    exact ⟨hbacked.counted, Scope.bytesAt_le hbacked.counted, hbacked.tracked⟩
  · rw [hbalanced.tracker]
    refine totalOf_eq_zero _ _ fun place hmem => ?_
    obtain ⟨number, hheld⟩ := List.getElem?_of_mem hmem
    have hvacant := hclosed number
    rw [scope?, ← Array.getElem?_toList, hheld] at hvacant
    exact hvacant
  · exact (perform_accounted hbalanced call).live
  · have hrefused := insert_eq_error_iff hfound id x
    split
    · rename_i hinside
      cases hinserted : pool.insert number id x with
      | ok next => exact ⟨next, rfl⟩
      | error failure => exact absurd hinside (Nat.not_lt.mpr ((hrefused failure).mp hinserted).1)
    · rename_i houtside
      have hinserted := (hrefused _).mpr ⟨Nat.not_lt.mp houtside, rfl⟩
      exact ⟨hinserted, by simp [perform, hinserted]⟩

/-- Two scopes that are open at a time. A slot is filled anew, another one is released twice, and in
the end the first scope is closed. -/
def twoScopeCalls : List (PoolCall Nat) :=
  let row (width : Nat) : Volume Nat := .full ⟨1, 1, width⟩ 0
  [.open_ 2, .open_ 1, .insert 0 0 (row 3), .insert 1 0 (row 5), .insert 0 0 (row 2),
    .insert 0 1 (row 4), .release 0 1, .release 0 1, .insert 1 7 (row 9), .close 0]

theorem performAll_accounts_twoScopes :
    let pool := initial.performAll twoScopeCalls
    pool.tracker = ⟨20, 44⟩ ∧ pool.scope? 0 = none ∧
      (∃ scope, pool.scope? 1 = some scope ∧ scope.bytes = 20 ∧ scope.elements = 5 ∧
        pool.insert 1 1 default = .error (.notFound "tensor slot 1")) ∧
      (pool.open_ 3).scope? 2 = some ⟨#[none, none, none], 0⟩ := by
  intro pool
  obtain ⟨hscopes, -, hpeak, -, -, hinsert, hopen⟩ := performAll_accounts twoScopeCalls
  obtain ⟨scope, hscope, hbytes, hslots⟩ :
      ∃ scope, pool.scope? 1 = some scope ∧ scope.bytes = 20 ∧ scope.slots.size = 1 :=
    ⟨_, rfl, by decide, by decide⟩
  have hlive : pool.tracker.live = 20 := by decide
  have hmarks : (initial.marks twoScopeCalls).foldl max 0 = 44 := by decide
  have hheld := (hscopes 1 scope hscope).1
  have hrefused := hinsert 1 scope 1 default hscope
  rw [if_neg (by omega)] at hrefused
  have htracker : pool.tracker = ⟨pool.tracker.live, pool.tracker.peak⟩ := rfl
  rw [hlive, hpeak.trans hmarks] at htracker
  exact ⟨htracker, by decide, ⟨scope, hscope, hbytes, by omega, hrefused.1⟩, hopen 3 2⟩

end Pool

end TensorBench
