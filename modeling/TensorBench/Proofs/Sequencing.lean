import Mathlib.Data.List.Forall2
import Mathlib.Data.List.Nodup

/-!
Computations in order, each of which may fail. A sequence succeeds exactly when every part of it
does, and its results are those of the parts. Where there is a state, a failure keeps it as it is at
that point.
-/
namespace TensorBench.Sequencing

variable {ε α β : Type}

theorem bind_eq_ok_iff {x : Except ε α} {f : α → Except ε β} {b : β} :
    (x >>= f) = .ok b ↔ ∃ a, x = .ok a ∧ f a = .ok b := by
  cases x <;> simp [bind, Except.bind]

theorem bind_eq_error_iff {x : Except ε α} {f : α → Except ε β} {e : ε} :
    (x >>= f) = .error e ↔ x = .error e ∨ ∃ a, x = .ok a ∧ f a = .error e := by
  cases x <;> simp [bind, Except.bind]

/-- A check in front of a computation only decides whether that computation takes place. -/
theorem check_bind_eq_ok_iff {x : Except ε PUnit} {f : PUnit → Except ε β} {b : β} :
    (x >>= f) = .ok b ↔ x = .ok () ∧ f () = .ok b := by
  rw [bind_eq_ok_iff]
  exact ⟨fun ⟨(), hx, hf⟩ => ⟨hx, hf⟩, fun ⟨hx, hf⟩ => ⟨(), hx, hf⟩⟩

theorem throw_unless_eq_ok_iff {p : Prop} [Decidable p] {e : ε} :
    (if p then throw e else pure () : Except ε Unit) = .ok () ↔ ¬ p := by
  by_cases hp : p <;> simp [hp, throw, throwThe, MonadExceptOf.throw, pure, Except.pure]

theorem throw_unless_bind_eq_ok_iff {p : Prop} [Decidable p] {e : ε} {f : α → Except ε β}
    {x : Except ε β} {b : β} : (if p then throw e >>= f else x) = .ok b ↔ ¬ p ∧ x = .ok b := by
  by_cases hp : p <;> simp [hp, throw, throwThe, MonadExceptOf.throw, bind, Except.bind]

theorem forM_eq_ok_iff (items : List α) (f : α → Except ε PUnit) :
    items.forM f = .ok () ↔ ∀ item ∈ items, f item = .ok () := by
  induction items with
  | nil => simp [pure, Except.pure]
  | cons item rest ih =>
    rw [List.forM_eq_forM] at ih ⊢
    rw [List.forM_cons, check_bind_eq_ok_iff, ih, List.forall_mem_cons]

theorem mapM_eq_ok_iff (items : List α) (f : α → Except ε β) (results : List β) :
    items.mapM f = .ok results ↔ List.Forall₂ (fun a b => f a = .ok b) items results := by
  induction items generalizing results with
  | nil => simp [pure, Except.pure, eq_comm]
  | cons item rest ih =>
    rw [List.mapM_cons, bind_eq_ok_iff]
    constructor
    · rintro ⟨b, hb, hrest⟩
      obtain ⟨bs, hbs, heq⟩ := bind_eq_ok_iff.mp hrest
      cases heq
      exact List.Forall₂.cons hb ((ih bs).mp hbs)
    · intro h
      cases h with
      | @cons _ b _ bs hb hbs =>
        exact ⟨b, hb, bind_eq_ok_iff.mpr ⟨bs, (ih bs).mpr hbs, rfl⟩⟩

theorem exists_mapM_eq_ok (items : List α) (f : α → Except ε β)
    (h : ∀ item ∈ items, ∃ b, f item = .ok b) : ∃ results, items.mapM f = .ok results := by
  induction items with
  | nil => exact ⟨[], rfl⟩
  | cons item rest ih =>
    obtain ⟨b, hb⟩ := h item List.mem_cons_self
    obtain ⟨bs, hbs⟩ := ih fun a ha => h a (List.mem_cons_of_mem item ha)
    exact ⟨b :: bs, (mapM_eq_ok_iff _ _ _).mpr (.cons hb ((mapM_eq_ok_iff _ _ _).mp hbs))⟩

theorem mapM_congr (items : List α) {f g : α → Except ε β}
    (h : ∀ item ∈ items, f item = g item) : items.mapM f = items.mapM g := by
  induction items with
  | nil => rfl
  | cons item rest ih =>
    have hrest := ih fun a ha => h a (List.mem_cons_of_mem item ha)
    rw [List.mapM_cons, List.mapM_cons, h item List.mem_cons_self, hrest]

/-- Whatever occurs among the results comes from one of the items. -/
theorem exists_item_of_mem_results {R : α → β → Prop} {items : List α} {results : List β}
    (h : List.Forall₂ R items results) {b : β} (hb : b ∈ results) : ∃ a ∈ items, R a b := by
  induction h with
  | nil => simp at hb
  | cons hab _ ih =>
    rcases List.mem_cons.mp hb with rfl | hb
    · exact ⟨_, List.mem_cons_self, hab⟩
    · obtain ⟨a, ha, hr⟩ := ih hb
      exact ⟨a, List.mem_cons_of_mem _ ha, hr⟩

theorem forall₂_trans {γ : Type} {R : α → β → Prop} {S : β → γ → Prop} {T : α → γ → Prop}
    (h : ∀ a b c, R a b → S b c → T a c) {as : List α} {bs : List β} {cs : List γ}
    (hfirst : List.Forall₂ R as bs) (hsecond : List.Forall₂ S bs cs) : List.Forall₂ T as cs := by
  induction hfirst generalizing cs with
  | nil => cases hsecond; exact .nil
  | cons hab _ ih =>
    cases hsecond with
    | cons hbc hrest => exact .cons (h _ _ _ hab hbc) (ih hrest)

/-- With one more item behind them, names still differ if they did and the last one is new. -/
theorem nodup_map_concat_iff (name : α → β) (front : List α) (last : α) :
    ((front ++ [last]).map name).Nodup ↔
      name last ∉ front.map name ∧ (front.map name).Nodup := by
  rw [List.map_append, List.map_singleton, ← List.concat_eq_append, List.nodup_concat]

/-- Whatever makes a computation fail has a property. -/
def FailsAs (P : ε → Prop) (x : Except ε α) : Prop := ∀ e, x = .error e → P e

namespace FailsAs

variable {P : ε → Prop}

theorem ok (a : α) : FailsAs P (.ok a) := nofun

theorem error {e : ε} (h : P e) : FailsAs P (.error e : Except ε α) :=
  fun _ hsame => Except.error.inj hsame ▸ h

theorem bind {x : Except ε α} {f : α → Except ε β} (hfirst : FailsAs P x)
    (hsecond : ∀ a, FailsAs P (f a)) : FailsAs P (x >>= f) := by
  cases x with
  | error e => exact .error (hfirst e rfl)
  | ok a => exact hsecond a

theorem map {x : Except ε α} (h : FailsAs P x) (f : α → β) : FailsAs P (x.map f) := by
  cases x with
  | error e => exact .error (h e rfl)
  | ok a => exact .ok (f a)

theorem mapM (items : List α) {f : α → Except ε β} (h : ∀ item ∈ items, FailsAs P (f item)) :
    FailsAs P (items.mapM f) := by
  induction items with
  | nil => exact .ok []
  | cons item rest ih =>
    rw [List.mapM_cons]
    refine bind (h item List.mem_cons_self) fun b => bind ?_ fun bs => .ok (b :: bs)
    exact ih fun a ha => h a (List.mem_cons_of_mem item ha)

end FailsAs

theorem mapM_eq_some (items : List α) (f : α → Option β) (g : α → β)
    (h : ∀ item ∈ items, f item = some (g item)) : items.mapM f = some (items.map g) := by
  induction items with
  | nil => rfl
  | cons item rest ih =>
    have hrest := ih fun a ha => h a (List.mem_cons_of_mem item ha)
    simp [List.mapM_cons, h item List.mem_cons_self, hrest]

theorem length_of_mapM_eq_some {items : List α} {f : α → Option β} {results : List β}
    (h : items.mapM f = some results) : results.length = items.length := by
  induction items generalizing results with
  | nil =>
    cases h
    rfl
  | cons item rest ih =>
    rw [List.mapM_cons, Option.bind_eq_bind, Option.bind_eq_some_iff] at h
    obtain ⟨first, -, h⟩ := h
    obtain ⟨others, hothers, h⟩ := Option.bind_eq_some_iff.mp h
    cases h
    exact congrArg (· + 1) (ih hothers)

/-- A pass over numbered items whose results depend only on the numbers. -/
theorem mapM_zipIdx_eq_some (items : List α) (f : α × Nat → Option β) (g : Nat → β)
    (h : ∀ i item, items[i]? = some item → f (item, i) = some (g i)) :
    items.zipIdx.mapM f = some ((List.range items.length).map g) := by
  have hentry : ∀ entry ∈ items.zipIdx, f entry = some (g entry.2) := by
    rintro ⟨item, i⟩ hmem
    exact h i item (List.mem_zipIdx_iff_getElem?.mp hmem)
  rw [mapM_eq_some _ _ _ hentry, List.range_eq_range', ← List.zipIdx_map_snd, List.map_map]
  rfl

theorem mapM_eq_none {items : List α} {f : α → Option β} {item : α} (hmem : item ∈ items)
    (h : f item = none) : items.mapM f = none := by
  induction items with
  | nil => cases hmem
  | cons first rest ih =>
    rw [List.mapM_cons]
    rcases List.mem_cons.mp hmem with rfl | hmem
    · rw [h]
      rfl
    · rw [ih hmem]
      cases f first <;> rfl

/-- A walk whose every step succeeds and keeps an invariant does so as a whole. -/
theorem foldlM_invariant (P : β → Prop) (items : List α) (f : β → α → Option β)
    (h : ∀ item ∈ items, ∀ b, P b → ∃ c, f b item = some c ∧ P c) (start : β) (hstart : P start) :
    ∃ stop, items.foldlM f start = some stop ∧ P stop := by
  induction items generalizing start with
  | nil => exact ⟨start, rfl, hstart⟩
  | cons item rest ih =>
    obtain ⟨next, hnext, hP⟩ := h item List.mem_cons_self start hstart
    obtain ⟨stop, hstop, hlast⟩ := ih (fun a ha => h a (List.mem_cons_of_mem item ha)) next hP
    exact ⟨stop, by simp [List.foldlM_cons, hnext, hstop], hlast⟩

/-- Two walks over the same items whose states stay related. -/
theorem foldlM_together {σ : Type} (R : β → σ → Prop) (items : List α) (f : β → α → Option β)
    (g : σ → α → Option σ)
    (h : ∀ item ∈ items, ∀ b s, R b s →
      ∃ c t, f b item = some c ∧ g s item = some t ∧ R c t)
    {start : β} {other : σ} (hstart : R start other) :
    ∃ stop final, items.foldlM f start = some stop ∧ items.foldlM g other = some final ∧
      R stop final := by
  induction items generalizing start other with
  | nil => exact ⟨start, other, rfl, rfl, hstart⟩
  | cons item rest ih =>
    obtain ⟨next, after, hnext, hafter, hR⟩ := h item List.mem_cons_self start other hstart
    obtain ⟨stop, final, hstop, hfinal, hlast⟩ :=
      ih (fun a ha => h a (List.mem_cons_of_mem item ha)) hR
    exact ⟨stop, final, by simp [List.foldlM_cons, hnext, hstop],
      by simp [List.foldlM_cons, hafter, hfinal], hlast⟩

theorem foldlM_flatMap {γ : Type} (items : List γ) (f : γ → List α) (g : β → α → Option β)
    (start : β) :
    (items.flatMap f).foldlM g start = items.foldlM (fun b item => (f item).foldlM g b) start := by
  induction items generalizing start with
  | nil => rfl
  | cons item rest ih => simp only [List.flatMap_cons, List.foldlM_append, List.foldlM_cons, ih]

/-- A walk that looks up a part for each item folds the parts. -/
theorem foldlM_map_eq_some {γ : Type} (items : List α) (look : α → Option γ) (g : β → γ → β)
    {start stop : β}
    (h : items.foldlM (fun b item => (look item).map (g b)) start = some stop) :
    ∃ parts, List.Forall₂ (fun item part => look item = some part) items parts ∧
      stop = parts.foldl g start := by
  induction items generalizing start with
  | nil =>
    cases h
    exact ⟨[], .nil, rfl⟩
  | cons item rest ih =>
    rw [List.foldlM_cons, Option.bind_eq_bind, Option.bind_eq_some_iff] at h
    obtain ⟨next, hnext, hrest⟩ := h
    obtain ⟨part, hpart, rfl⟩ := Option.map_eq_some_iff.mp hnext
    obtain ⟨parts, hparts, rfl⟩ := ih hrest
    exact ⟨part :: parts, .cons hpart hparts, rfl⟩

/-! ### With a state -/

section Stateful

variable {σ γ : Type} {before after : σ}

theorem run_lift {action : StateM σ β} {b : β} (h : action.run before = (b, after)) :
    (liftM action : ExceptT ε (StateM σ) β).run.run before = (.ok b, after) := by
  have hlift : (liftM action : ExceptT ε (StateM σ) β).run = Except.ok <$> action := rfl
  rw [hlift, StateT.run_map, h]
  rfl

theorem run_bind_ok {first : ExceptT ε (StateM σ) β} {rest : β → ExceptT ε (StateM σ) γ} {b : β}
    (h : first.run.run before = (.ok b, after)) :
    (first >>= rest).run.run before = (rest b).run.run after := by
  rw [ExceptT.run_bind, StateT.run_bind, h]
  rfl

theorem run_bind_error {first : ExceptT ε (StateM σ) β} {rest : β → ExceptT ε (StateM σ) γ}
    {e : ε} (h : first.run.run before = (.error e, after)) :
    (first >>= rest).run.run before = (.error e, after) := by
  rw [ExceptT.run_bind, StateT.run_bind, h]
  rfl

theorem run_bind_some {first : OptionT (StateM σ) β} {rest : β → OptionT (StateM σ) γ} {b : β}
    (h : first.run.run before = (some b, after)) :
    (first >>= rest).run.run before = (rest b).run.run after := by
  rw [OptionT.run_bind, Option.elimM, StateT.run_bind, h]
  rfl

theorem run_bind_none {first : OptionT (StateM σ) β} {rest : β → OptionT (StateM σ) γ}
    (h : first.run.run before = (none, after)) :
    (first >>= rest).run.run before = (none, after) := by
  rw [OptionT.run_bind, Option.elimM, StateT.run_bind, h]
  rfl

end Stateful

end TensorBench.Sequencing
