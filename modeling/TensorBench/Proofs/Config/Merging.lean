import Mathlib.Data.List.Induction
import Mathlib.Data.List.Nodup
import TensorBench.Config.Basic

/-!
Laws of overlays. A setting of an overlay that is the default stands for none, so overlays compose and
one that is laid on twice changes nothing more. Variants are put in the places of their names, one
after the other. A variant can only move past another one whose name has its place already; this is why
overlays compose where the middle one has each name once, and why names alone decide the places.
-/
namespace TensorBench.Config

/-! ### Places of variants -/

def namesOf (variants : List VariantConfig) : List String := variants.map (·.name)

/-- Put variants in their places, one after the other. -/
def placeAll (above below : List VariantConfig) : List VariantConfig :=
  above.foldl (fun list variant => placeVariant variant list) below

theorem placeAll_cons (variant : VariantConfig) (above below : List VariantConfig) :
    placeAll (variant :: above) below = placeAll above (placeVariant variant below) :=
  rfl

theorem placeAll_snoc (above : List VariantConfig) (variant : VariantConfig)
    (below : List VariantConfig) :
    placeAll (above ++ [variant]) below = placeVariant variant (placeAll above below) := by
  rw [placeAll, List.foldl_append]
  rfl

variable {v w : VariantConfig} {list : List VariantConfig}

theorem placeVariant_of_same {head : VariantConfig} (hsame : head.name = v.name)
    (rest : List VariantConfig) : placeVariant v (head :: rest) = v :: rest :=
  if_pos hsame

theorem placeVariant_of_other {head : VariantConfig} (hother : head.name ≠ v.name)
    (rest : List VariantConfig) :
    placeVariant v (head :: rest) = head :: placeVariant v rest :=
  if_neg hother

theorem namesOf_placeVariant_of_mem (hknown : v.name ∈ namesOf list) :
    namesOf (placeVariant v list) = namesOf list := by
  induction list with
  | nil => cases hknown
  | cons head rest ih =>
    by_cases hsame : head.name = v.name
    · rw [placeVariant_of_same hsame, namesOf, namesOf, List.map_cons, List.map_cons, hsame]
    · have hlater : v.name ∈ namesOf rest :=
        (List.mem_cons.mp hknown).resolve_left fun hfirst => hsame hfirst.symm
      rw [placeVariant_of_other hsame]
      exact congrArg (head.name :: ·) (ih hlater)

theorem placeVariant_of_not_mem (hfresh : v.name ∉ namesOf list) :
    placeVariant v list = list ++ [v] := by
  induction list with
  | nil => rfl
  | cons head rest ih =>
    obtain ⟨hother, hlater⟩ := not_or.mp (mt List.mem_cons.mpr hfresh)
    rw [placeVariant_of_other (Ne.symm hother), ih hlater, List.cons_append]

theorem namesOf_placeVariant_of_not_mem (hfresh : v.name ∉ namesOf list) :
    namesOf (placeVariant v list) = namesOf list ++ [v.name] := by
  rw [placeVariant_of_not_mem hfresh, namesOf, List.map_append]
  rfl

theorem mem_namesOf_placeVariant : v.name ∈ namesOf (placeVariant v list) := by
  by_cases hknown : v.name ∈ namesOf list
  · rwa [namesOf_placeVariant_of_mem hknown]
  · rw [namesOf_placeVariant_of_not_mem hknown]
    exact List.mem_append_right _ List.mem_cons_self

theorem name_mem_namesOf (hmem : v ∈ list) : v.name ∈ namesOf list :=
  List.mem_map_of_mem hmem

theorem nodup_placeVariant (hunique : (namesOf list).Nodup) (v : VariantConfig) :
    (namesOf (placeVariant v list)).Nodup := by
  by_cases hknown : v.name ∈ namesOf list
  · rwa [namesOf_placeVariant_of_mem hknown]
  · rw [namesOf_placeVariant_of_not_mem hknown]
    exact List.nodup_append.mpr ⟨hunique, List.nodup_singleton _, fun name hinside other hsingle =>
      List.mem_singleton.mp hsingle ▸ ne_of_mem_of_not_mem hinside hknown⟩

theorem nodup_namesOf_nil : (namesOf []).Nodup := List.nodup_nil

theorem nodup_namesOf_cons :
    (namesOf (v :: list)).Nodup ↔ v.name ∉ namesOf list ∧ (namesOf list).Nodup :=
  List.nodup_cons

theorem nodup_placeAll (above : List VariantConfig) {below : List VariantConfig}
    (hunique : (namesOf below).Nodup) : (namesOf (placeAll above below)).Nodup := by
  induction above generalizing below with
  | nil => exact hunique
  | cons v rest ih => exact ih (nodup_placeVariant hunique v)

/-! ### Moving past each other -/

theorem placeVariant_placeVariant (hsame : w.name = v.name) (list : List VariantConfig) :
    placeVariant v (placeVariant w list) = placeVariant v list := by
  induction list with
  | nil => exact placeVariant_of_same hsame []
  | cons head rest ih =>
    by_cases hhere : head.name = v.name
    · rw [placeVariant_of_same (hhere.trans hsame.symm), placeVariant_of_same hsame,
        placeVariant_of_same hhere]
    · rw [placeVariant_of_other (hsame ▸ hhere), placeVariant_of_other hhere,
        placeVariant_of_other hhere, ih]

theorem placeVariant_comm (hother : w.name ≠ v.name) (hknown : v.name ∈ namesOf list) :
    placeVariant v (placeVariant w list) = placeVariant w (placeVariant v list) := by
  induction list with
  | nil => cases hknown
  | cons head rest ih =>
    by_cases hhere : head.name = v.name
    · have helsewhere : head.name ≠ w.name := fun hsame => hother (hsame.symm.trans hhere)
      rw [placeVariant_of_other helsewhere, placeVariant_of_same hhere, placeVariant_of_same hhere,
        placeVariant_of_other hother.symm]
    · rw [placeVariant_of_other hhere]
      by_cases hthere : head.name = w.name
      · rw [placeVariant_of_same hthere, placeVariant_of_same hthere, placeVariant_of_other hother]
      · have hlater : v.name ∈ namesOf rest :=
          (List.mem_cons.mp hknown).resolve_left fun hfirst => hhere hfirst.symm
        rw [placeVariant_of_other hthere, placeVariant_of_other hthere, placeVariant_of_other hhere,
          ih hlater]

theorem placeAll_placeVariant_comm {above : List VariantConfig} (hfresh : v.name ∉ namesOf above)
    (hknown : v.name ∈ namesOf list) :
    placeAll above (placeVariant v list) = placeVariant v (placeAll above list) := by
  induction above generalizing list with
  | nil => rfl
  | cons w rest ih =>
    obtain ⟨hother, hlater⟩ := not_or.mp (mt List.mem_cons.mpr hfresh)
    have hstill : v.name ∈ namesOf (placeVariant w list) := by
      by_cases hplaced : w.name ∈ namesOf list
      · rwa [namesOf_placeVariant_of_mem hplaced]
      · rw [namesOf_placeVariant_of_not_mem hplaced]
        exact List.mem_append_left _ hknown
    rw [placeAll_cons, placeAll_cons, ← placeVariant_comm (Ne.symm hother) hknown, ih hlater hstill]

/-- To place a variant among the overlays is to place it after them, if they have each name once. -/
theorem placeAll_placeVariant {above : List VariantConfig} (hunique : (namesOf above).Nodup)
    (v : VariantConfig) (list : List VariantConfig) :
    placeAll (placeVariant v above) list = placeVariant v (placeAll above list) := by
  induction above generalizing list with
  | nil => rfl
  | cons w rest ih =>
    obtain ⟨hsingle, hunique⟩ := nodup_namesOf_cons.mp hunique
    by_cases hsame : w.name = v.name
    · rw [placeVariant_of_same hsame, placeAll_cons, placeAll_cons,
        ← placeAll_placeVariant_comm (hsame ▸ hsingle) (hsame ▸ mem_namesOf_placeVariant),
        placeVariant_placeVariant hsame]
    · rw [placeVariant_of_other hsame, placeAll_cons, placeAll_cons, ih hunique]

theorem placeAll_placeAll {middle : List VariantConfig} (hunique : (namesOf middle).Nodup)
    (above below : List VariantConfig) :
    placeAll (placeAll above middle) below = placeAll above (placeAll middle below) := by
  induction above generalizing middle with
  | nil => rfl
  | cons v rest ih =>
    rw [placeAll_cons, placeAll_cons, ih (nodup_placeVariant hunique v),
      placeAll_placeVariant hunique]

theorem placeVariant_of_mem (hunique : (namesOf list).Nodup) (hplaced : v ∈ list) :
    placeVariant v list = list := by
  induction list with
  | nil => cases hplaced
  | cons head rest ih =>
    obtain ⟨hsingle, hunique⟩ := nodup_namesOf_cons.mp hunique
    rcases List.mem_cons.mp hplaced with rfl | hlater
    · exact placeVariant_of_same rfl rest
    · have hother : head.name ≠ v.name := fun hsame =>
        hsingle (hsame ▸ name_mem_namesOf hlater)
      rw [placeVariant_of_other hother, ih hunique hlater]

theorem placeAll_of_subset {above : List VariantConfig} (hunique : (namesOf list).Nodup)
    (hplaced : above ⊆ list) : placeAll above list = list := by
  induction above with
  | nil => rfl
  | cons v rest ih =>
    obtain ⟨hfirst, hlater⟩ := List.cons_subset.mp hplaced
    rw [placeAll_cons, placeVariant_of_mem hunique hfirst, ih hlater]

/-- Variants that are placed again find their places taken by themselves. -/
theorem placeAll_twice (above below : List VariantConfig) :
    placeAll above (placeAll above below) = placeAll above below := by
  -- the overlays by themselves, each name once, do the same as all of them
  have hunique : (namesOf (placeAll above [])).Nodup := nodup_placeAll above nodup_namesOf_nil
  have hsettled (list : List VariantConfig) :
      placeAll (placeAll above []) list = placeAll above list :=
    placeAll_placeAll nodup_namesOf_nil above list
  have hagain : placeAll above (placeAll above []) = placeAll above [] := by
    rw [← hsettled, placeAll_of_subset hunique (List.Subset.refl _)]
  rw [← hsettled below, ← placeAll_placeAll hunique, hagain]

/-! ### What lies where -/

/-- The last variant of a name. -/
def lastNamed? (name : String) (variants : List VariantConfig) : Option VariantConfig :=
  variants.reverse.find? (·.name == name)

theorem lastNamed?_snoc_same (variants : List VariantConfig) (v : VariantConfig) :
    lastNamed? v.name (variants ++ [v]) = some v := by
  rw [lastNamed?, List.reverse_concat, List.find?_cons_of_pos (by exact beq_self_eq_true v.name)]

theorem lastNamed?_snoc_other {name : String} (hother : v.name ≠ name)
    (variants : List VariantConfig) :
    lastNamed? name (variants ++ [v]) = lastNamed? name variants := by
  rw [lastNamed?, List.reverse_concat, List.find?_cons_of_neg (by simpa using hother)]
  rfl

/-- Variants laid over others. The names are those below in their places and behind them the new ones
in their order. A name that occurs above has the last variant of that name; under any other name is
what was there before. -/
structure LaidOver (below above result : List VariantConfig) : Prop where
  unique : (namesOf result).Nodup
  names : namesOf result =
    namesOf below ++ ((namesOf above).filter (· ∉ namesOf below)).eraseDups
  contents : ∀ (place : Nat) (v : VariantConfig), result[place]? = some v →
    lastNamed? v.name above = some v ∨ v.name ∉ namesOf above ∧ below[place]? = some v

theorem namesOf_placeAll (above below : List VariantConfig) :
    namesOf (placeAll above below) =
      namesOf below ++ ((namesOf above).filter (· ∉ namesOf below)).eraseDups := by
  induction above generalizing below with
  | nil => exact (List.append_nil _).symm
  | cons v rest ih =>
    have hnames : namesOf (v :: rest) = v.name :: namesOf rest := rfl
    rw [placeAll_cons, ih, hnames]
    by_cases hknown : v.name ∈ namesOf below
    · rw [namesOf_placeVariant_of_mem hknown, List.filter_cons_of_neg (by simpa using hknown)]
    · rw [namesOf_placeVariant_of_not_mem hknown, List.filter_cons_of_pos (by simpa using hknown),
        List.eraseDups_cons, List.append_assoc, List.singleton_append, List.filter_filter]
      congr 3
      refine List.filter_congr fun name _ => ?_
      simp [List.mem_append, not_or, Bool.and_comm, beq_eq_decide]

theorem getElem?_placeVariant (hunique : (namesOf list).Nodup) {place : Nat}
    (hfound : (placeVariant v list)[place]? = some w) :
    w = v ∨ v.name ≠ w.name ∧ list[place]? = some w := by
  induction list generalizing place with
  | nil => exact .inl (List.mem_singleton.mp (List.mem_of_getElem? hfound))
  | cons head rest ih =>
    obtain ⟨hsingle, hunique⟩ := nodup_namesOf_cons.mp hunique
    by_cases hsame : head.name = v.name
    · rw [placeVariant_of_same hsame] at hfound
      cases place with
      | zero => exact .inl (Option.some.inj hfound).symm
      | succ place =>
        have hlater : w.name ∈ namesOf rest := name_mem_namesOf (List.mem_of_getElem? hfound)
        exact .inr ⟨fun hequal => hsingle (hsame.trans hequal ▸ hlater), hfound⟩
    · rw [placeVariant_of_other hsame] at hfound
      cases place with
      | zero =>
        obtain rfl := Option.some.inj hfound
        exact .inr ⟨Ne.symm hsame, rfl⟩
      | succ place => exact ih hunique hfound

theorem placeAll_laidOver (above : List VariantConfig) {below : List VariantConfig}
    (hunique : (namesOf below).Nodup) : LaidOver below above (placeAll above below) := by
  refine ⟨nodup_placeAll above hunique, namesOf_placeAll above below, ?_⟩
  -- by induction from behind, since the last variant of a name is placed last
  induction above using List.reverseRecOn with
  | nil => exact fun _ _ hfound => .inr ⟨List.not_mem_nil, hfound⟩
  | append_singleton rest v ih =>
    intro place w hfound
    rw [placeAll_snoc] at hfound
    rcases getElem?_placeVariant (nodup_placeAll rest hunique) hfound with rfl | ⟨hother, hfound⟩
    · exact .inl (lastNamed?_snoc_same rest w)
    · rcases ih place w hfound with hlast | ⟨habsent, hbefore⟩
      · exact .inl ((lastNamed?_snoc_other hother rest).trans hlast)
      · refine .inr ⟨fun hpresent => ?_, hbefore⟩
        rw [namesOf, List.map_append] at hpresent
        rcases List.mem_append.mp hpresent with hearlier | hsingle
        · exact habsent hearlier
        · exact hother (List.mem_singleton.mp hsingle).symm

/-! ### Settings -/

/-- Whichever settings count as absent, it does not matter which two of three are combined first. -/
theorem setting_assoc {β : Type} (absent : β → Prop) [DecidablePred absent]
    (below middle above : β) :
    (if absent above then (if absent middle then below else middle) else above) =
      if absent (if absent above then middle else above) then below
      else (if absent above then middle else above) := by
  by_cases hleft : absent above
  · rw [if_pos hleft, if_pos hleft]
  · rw [if_neg hleft, if_neg hleft, if_neg hleft]

theorem setting_twice {β : Type} (absent : β → Prop) [DecidablePred absent] (below above : β) :
    (if absent above then (if absent above then below else above) else above) =
      if absent above then below else above := by
  by_cases hleft : absent above
  · rw [if_pos hleft]
  · rw [if_neg hleft, if_neg hleft]

theorem overlay_overlay {β : Type} [DecidableEq β] (standard below middle above : β) :
    overlay standard (overlay standard below middle) above =
      overlay standard below (overlay standard middle above) :=
  setting_assoc (· = standard) below middle above

theorem overlay_twice {β : Type} [DecidableEq β] (standard below above : β) :
    overlay standard (overlay standard below above) above = overlay standard below above :=
  setting_twice (· = standard) below above

theorem merge_merge {middle : Config} (hunique : (namesOf middle.variants).Nodup)
    (below above : Config) : (below.merge middle).merge above = below.merge (middle.merge above) := by
  have henvironment : (above.environment <|> (middle.environment <|> below.environment)) =
      ((above.environment <|> middle.environment) <|> below.environment) := by
    cases above.environment <;> rfl
  have hartifacts := setting_assoc (Path.same · defaultArtifactsDir = true) below.artifactsDir
    middle.artifactsDir above.artifactsDir
  have hvariants := placeAll_placeAll hunique above.variants below.variants
  unfold merge
  rw [Config.mk.injEq, RunnerConfig.mk.injEq]
  exact ⟨rfl, henvironment, overlay_overlay _ _ _ _,
    ⟨overlay_overlay _ _ _ _, overlay_overlay _ _ _ _⟩, hartifacts, hvariants.symm⟩

theorem merge_twice (below above : Config) :
    (below.merge above).merge above = below.merge above := by
  have henvironment : (above.environment <|> (above.environment <|> below.environment)) =
      (above.environment <|> below.environment) := by
    cases above.environment <;> rfl
  have hartifacts := setting_twice (Path.same · defaultArtifactsDir = true) below.artifactsDir
    above.artifactsDir
  have hvariants := placeAll_twice above.variants below.variants
  unfold merge
  rw [Config.mk.injEq, RunnerConfig.mk.injEq]
  exact ⟨rfl, henvironment, overlay_twice _ _ _, ⟨overlay_twice _ _ _, overlay_twice _ _ _⟩,
    hartifacts, hvariants⟩

/-- The default configuration counts as absent in each setting but the environment. -/
theorem merge_absent (below : Config) :
    below.merge { default with environment := none } = below := by
  obtain ⟨version, environment, logging, ⟨iterations, cooldown⟩, artifactsDir, variants⟩ := below
  rfl

/-- Overlays compose, if the middle one has each name of a variant once; an overlay has its effect at
the first time; the default configuration without an environment has none; and variants with names of
their own keep their places, which is where the last variants of these names go, with the new names
behind them. -/
theorem merge_laws (below middle above : Config) :
    ((namesOf middle.variants).Nodup →
      (below.merge middle).merge above = below.merge (middle.merge above)) ∧
    (below.merge above).merge above = below.merge above ∧
    below.merge { default with environment := none } = below ∧
    ((namesOf below.variants).Nodup →
      LaidOver below.variants above.variants (below.merge above).variants) :=
  ⟨fun hunique => merge_merge hunique below above, merge_twice below above, merge_absent below,
    placeAll_laidOver above.variants⟩

/-- A variant told from others of its name by its description. -/
def described (name description : String) : VariantConfig :=
  ⟨name, "resnet", some description, true, .empty⟩

/-- Names repeated below and above, and another setting in the middle. -/
theorem merge_laws_repeated :
    let below : Config :=
      { default with variants := [described "a" "1", described "b" "2", described "a" "3"] }
    let middle : Config :=
      { default with
        environment := some .testing
        runner := ⟨5, 1000⟩
        variants := [described "b" "4", described "c" "5"] }
    let above : Config :=
      { default with
        environment := none
        artifactsDir := "models"
        variants := [described "d" "6", described "a" "7", described "d" "8"] }
    (namesOf middle.variants).Nodup ∧
      (below.merge middle).merge above = below.merge (middle.merge above) ∧
      (below.merge above).merge above = below.merge above ∧
      LaidOver middle.variants above.variants (middle.merge above).variants ∧
      (middle.merge above).variants.map (·.description) =
        [some "4", some "5", some "8", some "7"] := by
  intro below middle above
  have hunique : (namesOf middle.variants).Nodup := by decide
  obtain ⟨hassoc, htwice, -⟩ := merge_laws below middle above
  obtain ⟨-, -, -, hlaid⟩ := merge_laws middle middle above
  exact ⟨hunique, hassoc hunique, htwice, hlaid hunique, by decide⟩

/-- Names that are repeated in the middle are repeated no more once they are laid on. -/
example :
    let middle : Config := { default with variants := [described "a" "1", described "a" "2"] }
    let above : Config := { default with variants := [described "a" "3"] }
    ((default.merge middle).merge above).variants.map (·.description) = [some "3"] ∧
      (default.merge (middle.merge above)).variants.map (·.description) = [some "2"] := by
  decide

end TensorBench.Config
