import Mathlib.Tactic.Linarith
import TensorBench.Proofs.TensorGraph.Acceptance
import TensorBench.Proofs.TensorGraph.Evaluation
import TensorBench.TensorGraph.Residual

/-!
Residual networks are built without a refusal, if there is room for their weights. While a network
grows, the nodes that are still to be used are known with their shapes, and all others have been used. A
basic block takes one open node to another one of a computed shape, since both of its paths reduce the
sides of the image in the same way; so do the blocks of a stage and the stages. What has no room makes
the construction crash, and the filters of a stage need the most room in it.
-/
namespace TensorBench

variable {α : Type}

/-- Some node has the node as an operand. -/
def GraphBuilder.Used (builder : GraphBuilder α) (x : Nat) : Prop :=
  ∃ (id : Nat) (node : GraphNode α), builder.nodes[id]? = some node ∧ x ∈ node.operation.inputs

theorem GraphBuilder.Used.pushed {before after : GraphBuilder α} {node : GraphNode α} {x : Nat}
    (h : before.Used x) (hnodes : after.nodes = before.nodes.push node) : after.Used x := by
  obtain ⟨id, found, hfound, huse⟩ := h
  exact ⟨id, found, getElem?_pushed hnodes hfound, huse⟩

namespace Residual

/-! ### Networks under construction -/

/-- A consistent builder of a number of nodes, the first of which is the input. The open nodes have
their shapes, all other nodes have been used, and the size of each node is a word. -/
structure Frame (builder : GraphBuilder α) (input : VolumeShape) (size : Nat)
    (heads : List (Nat × VolumeShape)) : Prop where
  consistent : builder.Consistent
  size_eq : builder.nodes.size = size
  input_first : ∃ node, builder.nodes[0]? = some node ∧ node.operation.isInput = true ∧
    node.shape = input
  knows : ∀ head ∈ heads, builder.Knows head.1 head.2
  used : ∀ x < size, (∀ head ∈ heads, head.1 ≠ x) → builder.Used x
  sized : ∀ (id : Nat) (node : GraphNode α), builder.nodes[id]? = some node →
    node.shape.size < Words.limit

variable [Scalar α] {input : VolumeShape} {size : Nat} {heads : List (Nat × VolumeShape)}

/-- A call that makes a shape of open nodes opens a new one, if there is room for its parameters.
Those that it has used may be closed. -/
theorem Frame.perform {builder : GraphBuilder α} (h : Frame builder input size heads)
    {call : NodeCall} {shape : VolumeShape} {parameters : List (List Nat)}
    (kept : List (Nat × VolumeShape))
    (hmakes : call.Makes (fun x source => (x, source) ∈ heads) shape parameters)
    (hsized : shape.size < Words.limit) (hkept : ∀ head ∈ kept, head ∈ heads)
    (hclosed : ∀ head ∈ heads, head ∈ kept ∨ head.1 ∈ call.operands)
    (hroom : ∀ parameter ∈ parameters, HasRoom parameter) :
    ∃ after, builder.perform call = (.ok size, after) ∧
      Frame after input (size + 1) ((size, shape) :: kept) := by
  obtain ⟨node, after, hperform, hnodes, rfl, hinputs⟩ :=
    GraphBuilder.appends_of_makes (hmakes.mono fun x source hx => h.knows _ hx) hroom
  have hconsistent := GraphBuilder.perform_consistent h.consistent call
  rw [hperform] at hconsistent
  have hsize := h.size_eq
  refine ⟨after, by rw [hperform, hsize], hconsistent, by simp [hnodes, hsize], ?_, ?_, ?_, ?_⟩
  · obtain ⟨first, hfirst, hinput⟩ := h.input_first
    exact ⟨first, GraphBuilder.getElem?_pushed hnodes hfirst, hinput⟩
  · intro head hhead
    rcases List.mem_cons.mp hhead with rfl | hhead
    · exact hsize ▸ GraphBuilder.knows_pushed hnodes
    · exact (h.knows head (hkept head hhead)).pushed hnodes
  · intro x hx hfree
    have hne : size ≠ x := hfree _ List.mem_cons_self
    by_cases hopen : ∃ head ∈ heads, head.1 = x
    · obtain ⟨head, hhead, rfl⟩ := hopen
      rcases hclosed head hhead with hstays | huse
      · exact absurd rfl (hfree head (List.mem_cons_of_mem _ hstays))
      · exact ⟨size, node, by rw [hnodes, ← hsize, Array.getElem?_push_size], hinputs ▸ huse⟩
    · refine (h.used x (by omega) fun head hhead hsame => hopen ⟨head, hhead, hsame⟩).pushed hnodes
  · intro id found hfound
    rw [hnodes, Array.getElem?_push] at hfound
    split at hfound
    · cases hfound
      exact hsized
    · exact h.sized id found hfound

/-- If there is room, a chain has been built up to a node and stands as described; if not, it has
crashed. -/
structure Chain.Stands (chain : Chain α) (room : Prop) (input : VolumeShape) (last size : Nat)
    (heads : List (Nat × VolumeShape)) : Prop where
  reaches : room → ∃ builder, chain = .ok (last, builder) ∧ Frame builder input size heads
  crashes : ¬ room → chain = .error .crashed

/-- A chain has been built up to its only open node, if there is room. -/
def Chain.Ends (chain : Chain α) (room : Prop) (input : VolumeShape) (size : Nat)
    (shape : VolumeShape) : Prop :=
  ∃ last, chain.Stands room input last size [(last, shape)]

namespace Chain

variable {chain : Chain α} {room : Prop} {last : Nat} {shape source : VolumeShape}
  {parameters : List (List Nat)}

theorem Stands.call (h : chain.Stands room input last size heads) (next : Nat → NodeCall)
    (kept : List (Nat × VolumeShape))
    (hmakes : (next last).Makes (fun x source => (x, source) ∈ heads) shape parameters)
    (hsized : shape.size < Words.limit) (hkept : ∀ head ∈ kept, head ∈ heads)
    (hclosed : ∀ head ∈ heads, head ∈ kept ∨ head.1 ∈ (next last).operands) :
    (chain.call next).Stands (room ∧ ∀ parameter ∈ parameters, HasRoom parameter) input size
      (size + 1) ((size, shape) :: kept) := by
  constructor
  · rintro ⟨hroom, hparameters⟩
    obtain ⟨builder, rfl, hframe⟩ := h.reaches hroom
    obtain ⟨after, hperform, hafter⟩ :=
      hframe.perform kept hmakes hsized hkept hclosed hparameters
    refine ⟨after, ?_, hafter⟩
    show ofReply (builder.perform (next last)) = .ok (size, after)
    rw [hperform, ofReply]
  · intro hcrowded
    by_cases hroom : room
    · obtain ⟨builder, rfl, hframe⟩ := h.reaches hroom
      have hcrash := GraphBuilder.crashes_of_makes
        (hmakes.mono fun x source hx => hframe.knows _ hx) fun hparameters =>
          hcrowded ⟨hroom, hparameters⟩
      show ofReply (builder.perform (next last)) = .error .crashed
      rw [hcrash, ofReply]
    · rw [h.crashes hroom]
      rfl

omit [Scalar α] in
theorem Stands.congr (h : chain.Stands room input last size heads) {other : Prop}
    (hroom : room ↔ other) : chain.Stands other input last size heads :=
  ⟨fun hother => h.reaches (hroom.mpr hother), fun hother => h.crashes (mt hroom.mp hother)⟩

omit [Scalar α] in
theorem Ends.congr (h : chain.Ends room input size shape) {other : Prop} (hroom : room ↔ other) :
    chain.Ends other input size shape := by
  obtain ⟨last, h⟩ := h
  exact ⟨last, h.congr hroom⟩

omit [Scalar α] in
/-- What follows a chain goes on from the builder it has reached, or crashes with it. -/
theorem Stands.bind_cases (h : chain.Stands room input last size heads) :
    (∃ builder, ∀ next : Nat × GraphBuilder α → Chain α,
      Except.bind chain next = next (last, builder)) ∨ chain = .error .crashed := by
  by_cases hroom : room
  · obtain ⟨builder, rfl, -⟩ := h.reaches hroom
    exact .inl ⟨builder, fun _ => rfl⟩
  · exact .inr (h.crashes hroom)

omit [Scalar α] in
/-- Another node counts as the last one. -/
theorem Stands.turn (h : chain.Stands room input last size heads) (x : Nat) :
    Chain.Stands (chain.map fun reached => (x, reached.2)) room input x size heads := by
  constructor
  · intro hroom
    obtain ⟨builder, rfl, hframe⟩ := h.reaches hroom
    exact ⟨builder, rfl, hframe⟩
  · intro hroom
    rw [h.crashes hroom]
    rfl

/-- A call on the last node alone opens a node in its place. -/
theorem Stands.follow {others : List (Nat × VolumeShape)}
    (h : chain.Stands room input last size ((last, source) :: others)) (next : Nat → NodeCall)
    (hmakes : (next last).Makes (fun x shape => (x, shape) = (last, source)) shape parameters)
    (hsized : shape.size < Words.limit) (hoperands : (next last).operands = [last]) :
    (chain.call next).Stands (room ∧ ∀ parameter ∈ parameters, HasRoom parameter) input size
      (size + 1) ((size, shape) :: others) := by
  refine h.call next others (hmakes.mono fun x shape hx => ?_) hsized
    (fun head => List.mem_cons_of_mem _) fun head hhead => ?_
  · exact hx ▸ List.mem_cons_self
  · rcases List.mem_cons.mp hhead with rfl | hhead
    · exact .inr (by simp [hoperands])
    · exact .inl hhead

end Chain

/-! ### Blocks -/

/-- The rows or columns that are left of some when only every so many are kept. -/
def reduced (length stride : Nat) : Nat := (length - 1) / stride + 1

theorem one_le_reduced (length stride : Nat) : 1 ≤ reduced length stride := Nat.le_add_left 1 _

theorem reduced_one {length : Nat} (h : 1 ≤ length) : reduced length 1 = length := by
  rw [reduced, Nat.div_one]
  omega

/-- A window that is padded by half its length on both sides reduces any length in the same way. -/
theorem outputLength?_odd {length stride : Nat} (padding : Nat) (hlength : 1 ≤ length)
    (hstride : 0 < stride) :
    Window.outputLength? length (2 * padding + 1) stride padding = some (reduced length stride) := by
  rw [Window.outputLength?_of_le hstride (by omega), reduced]
  congr 3
  omega

/-- A convolution of a square image whose window is padded by half its length. -/
theorem makes_conv2d {known : Nat → VolumeShape → Prop} {name : String}
    {x channels side size stride padding : Nat} (outputs : Nat)
    (hsize : size = 2 * padding + 1) (hx : known x ⟨channels, side, side⟩) (hside : 1 ≤ side)
    (hstride : 0 < stride) :
    (NodeCall.conv2d name x outputs size stride padding).Makes known
      ⟨outputs, reduced side stride, reduced side stride⟩ [[outputs, channels, size, size]] := by
  subst hsize
  have hreduced := outputLength?_odd padding hside hstride
  exact .conv2d outputs hx hreduced hreduced

/-- The filters of a stage of some width. -/
def stageFilter (width : Nat) : List Nat := [width, width, 3, 3]

/-- Room for the filters of a stage is room for all other parameters of its blocks. -/
theorem stageFilter_suffices {inChannels : Nat} (channels : Nat) (hin : 0 < inChannels)
    (hle : inChannels ≤ channels) (hroom : HasRoom (stageFilter channels)) :
    HasRoom [channels, inChannels, 3, 3] ∧ HasRoom [channels, inChannels, 1, 1] ∧
      HasRoom [channels] := by
  have hchannels := Nat.lt_of_lt_of_le hin hle
  have hpositive : ∀ extent ∈ stageFilter channels, 0 < extent := by simp [stageFilter, hchannels]
  have hwide : inChannels * 9 ≤ channels * 9 := Nat.mul_le_mul_right 9 hle
  have hone : 1 ≤ channels * 9 := by omega
  refine ⟨hroom.mono (by simp [hin, hchannels]) hpositive ?_,
    hroom.mono (by simp [hin, hchannels]) hpositive ?_,
    hroom.mono (by simp [hchannels]) hpositive ?_⟩ <;>
    simp only [Words.product, stageFilter, List.foldr_cons, List.foldr_nil] <;>
    exact Nat.mul_le_mul_left channels (by omega)

/-- The sum of the two open nodes and its rectification. -/
theorem join_ends {chain : Chain α} {room : Prop} {x y : Nat} {shape : VolumeShape}
    (h : chain.Stands room input x size heads) (hsized : shape.size < Words.limit)
    (hx : (x, shape) ∈ heads) (hy : (y, shape) ∈ heads)
    (hboth : ∀ head ∈ heads, head.1 = y ∨ head.1 = x) (sum last : String) :
    (Chain.call (Chain.call chain (.add sum y ·)) (.relu last ·)).Ends room input (size + 2)
      shape := by
  have hsum := h.call (.add sum y ·) [] (.add hy hx) hsized nofun fun head hhead => .inr (by
    simpa [NodeCall.operands] using hboth head hhead)
  exact ⟨_, (hsum.follow (.relu last ·) (.relu rfl) hsized rfl).congr (by simp)⟩

/-- The path of a block without its shortcut. -/
def mainPath (name : String) (channels stride : Nat) (chain : Chain α) : Chain α :=
  chain
    |>.call (.conv2d s!"{name}.conv1" · channels 3 stride 1)
    |>.call (.batchNorm s!"{name}.bn1" ·)
    |>.call (.relu s!"{name}.relu1" ·)
    |>.call (.conv2d s!"{name}.conv2" · channels 3 1 1)
    |>.call (.batchNorm s!"{name}.bn2" ·)

variable {chain : Chain α} {room : Prop} {x y inChannels channels side stride : Nat}

theorem mainPath_stands (h : chain.Stands room input x size [(x, ⟨inChannels, side, side⟩)])
    (hin : 0 < inChannels) (hle : inChannels ≤ channels) (hside : 1 ≤ side) (hstride : 0 < stride)
    (hsized : (VolumeShape.mk channels (reduced side stride) (reduced side stride)).size <
      Words.limit) (name : String) :
    (mainPath name channels stride chain).Stands (room ∧ HasRoom (stageFilter channels)) input
      (size + 4) (size + 5) [(size + 4, ⟨channels, reduced side stride, reduced side stride⟩),
        (x, ⟨inChannels, side, side⟩)] := by
  have hfirst := h.call (.conv2d s!"{name}.conv1" · channels 3 stride 1) _
    (makes_conv2d channels rfl (List.mem_singleton_self _) hside hstride) hsized
    (fun _ => id) fun _ => .inl
  have hkept := reduced_one (one_le_reduced side stride)
  have hrelu := (hfirst.follow (.batchNorm s!"{name}.bn1" ·) (.batchNorm rfl) hsized rfl).follow
    (.relu s!"{name}.relu1" ·) (.relu rfl) hsized rfl
  have hsecond := hrelu.follow (.conv2d s!"{name}.conv2" · channels 3 1 1)
    (makes_conv2d channels rfl rfl (one_le_reduced _ _) Nat.one_pos) (by rwa [hkept]) rfl
  rw [hkept] at hsecond
  have hpath := hsecond.follow (.batchNorm s!"{name}.bn2" ·) (.batchNorm rfl) hsized rfl
  refine hpath.congr ?_
  have hall := stageFilter_suffices channels hin hle
  simp only [List.forall_mem_singleton, List.not_mem_nil, false_implies, implies_true, and_true]
  exact ⟨fun ⟨⟨⟨⟨hroom, _⟩, _⟩, hfilter⟩, _⟩ => ⟨hroom, hfilter⟩, fun ⟨hroom, hfilter⟩ =>
    ⟨⟨⟨⟨hroom, (hall hfilter).1⟩, (hall hfilter).2.2⟩, hfilter⟩, (hall hfilter).2.2⟩⟩

theorem basicBlock_eq {roomy : Prop} {others : List (Nat × VolumeShape)} (name : String)
    (channels : Nat) (hx : chain.Stands room input x size heads)
    (hy : (mainPath name channels stride chain).Stands roomy input y (size + 5) others) :
    basicBlock name inChannels channels stride chain =
      Chain.call (Chain.call
        (if stride ≠ 1 ∨ inChannels ≠ channels then
          Chain.call (Chain.call (mainPath name channels stride chain)
            (fun _ => .conv2d s!"{name}.downsample" x channels 1 stride 0))
            (.batchNorm s!"{name}.downsample_bn" ·)
        else (mainPath name channels stride chain).map fun reached => (x, reached.2))
        (.add s!"{name}.add" y ·)) (.relu s!"{name}.relu2" ·) := by
  unfold basicBlock
  rcases hx.bind_cases with ⟨builder, hchain⟩ | rfl
  · rw [hchain]
    rcases hy.bind_cases with ⟨after, hpath⟩ | hcrash
    · exact hpath _
    · rw [hcrash]
      have hcalls : (mainPath name channels stride chain) = .error .crashed := hcrash
      show Except.bind (mainPath name channels stride chain) _ = _
      rw [hcalls]
      split <;> rfl
  · split <;> rfl

/-- A block opens a node in the place of another one. Both of its paths reduce the sides in the same
way, and without a convolution in the shortcut they are not reduced at all. -/
theorem basicBlock_ends (h : chain.Ends room input size ⟨inChannels, side, side⟩)
    (hin : 0 < inChannels) (hle : inChannels ≤ channels) (hside : 1 ≤ side) (hstride : 0 < stride)
    (hsized : (VolumeShape.mk channels (reduced side stride) (reduced side stride)).size <
      Words.limit) (name : String) :
    (basicBlock name inChannels channels stride chain).Ends
      (room ∧ HasRoom (stageFilter channels)) input
      (size + if stride ≠ 1 ∨ inChannels ≠ channels then 9 else 7)
      ⟨channels, reduced side stride, reduced side stride⟩ := by
  obtain ⟨x, hx⟩ := h
  have hpath := mainPath_stands hx hin hle hside hstride hsized name
  rw [basicBlock_eq name channels hx hpath]
  by_cases hshortcut : stride ≠ 1 ∨ inChannels ≠ channels
  · rw [if_pos hshortcut, if_pos hshortcut]
    have hshrunk := hpath.call (fun _ => .conv2d s!"{name}.downsample" x channels 1 stride 0)
      [(size + 4, ⟨channels, reduced side stride, reduced side stride⟩)]
      (makes_conv2d channels rfl (List.mem_cons_of_mem _ (List.mem_singleton_self _)) hside hstride)
      hsized (by simp) (by simp [NodeCall.operands])
    have hnormal := hshrunk.follow (.batchNorm s!"{name}.downsample_bn" ·) (.batchNorm rfl) hsized rfl
    have hall := stageFilter_suffices channels hin hle
    simp only [List.forall_mem_singleton] at hnormal
    exact join_ends (hnormal.congr ⟨fun ⟨⟨hroom, _⟩, _⟩ => hroom,
      fun hroom => ⟨⟨hroom, (hall hroom.2).2.1⟩, (hall hroom.2).2.2⟩⟩)
      hsized (by simp) (by simp) (by simp) _ _
  · rw [if_neg hshortcut, if_neg hshortcut]
    obtain ⟨rfl, rfl⟩ : stride = 1 ∧ inChannels = channels := by
      simpa [not_or] using hshortcut
    rw [reduced_one hside] at hpath hsized ⊢
    exact join_ends (hpath.turn x) hsized (by simp) (by simp) (by simp) _ _

/-! ### Stages -/

/-- Blocks behind the first one of their stage keep the shape. -/
theorem blocks_ends {width : Nat} (stage block count : Nat) (hlater : stage = 0 ∨ block ≠ 0)
    (h : chain.Ends room input size ⟨width, side, side⟩) (hwidth : 0 < width) (hside : 1 ≤ side)
    (hsized : (VolumeShape.mk width side side).size < Words.limit) :
    (blocks stage width width block count chain).Ends
      (room ∧ (0 < count → HasRoom (stageFilter width))) input (size + 7 * count)
      ⟨width, side, side⟩ := by
  induction count generalizing chain size block room with
  | zero => exact h.congr (by simp)
  | succ count ih =>
    have hstride : (if 0 < stage ∧ block = 0 then 2 else 1) = 1 := if_neg (by omega)
    have hblock := basicBlock_ends h hwidth (Nat.le_refl width) hside Nat.one_pos
      (by rwa [reduced_one hside]) s!"layer{stage + 1}.{block}"
    rw [if_neg (by simp), reduced_one hside] at hblock
    have hrest := ih (block + 1) (.inr (Nat.succ_ne_zero block)) hblock
    rw [blocks, hstride]
    rw [Nat.add_assoc, Nat.add_comm 7, ← Nat.mul_succ] at hrest
    exact hrest.congr (by simp only [Nat.succ_pos, true_implies]; tauto)

/-- Doubling the width and halving the sides of an image gives no more elements than the image has,
or than the width, if the image is a single point. -/
theorem size_halved_lt {width side : Nat} (hside : 1 ≤ side)
    (hsized : (VolumeShape.mk width side side).size < Words.limit)
    (hwidth : 2 * width < Words.limit) :
    (VolumeShape.mk (2 * width) (reduced side 2) (reduced side 2)).size < Words.limit := by
  simp only [VolumeShape.size, VolumeShape.plane, reduced] at *
  obtain rfl | hlarge := Nat.eq_or_lt_of_le hside
  · simpa using hwidth
  · refine Nat.lt_of_le_of_lt ?_ hsized
    rw [Nat.mul_comm 2, Nat.mul_assoc]
    refine Nat.mul_le_mul_left width ?_
    obtain ⟨half, hhalf⟩ : ∃ half, (side - 1) / 2 = half := ⟨_, rfl⟩
    rw [hhalf]
    have hlow : 2 * half + 1 ≤ side := by omega
    rcases Nat.eq_zero_or_pos half with rfl | hpos
    · nlinarith
    · nlinarith

/-- The first block of a later stage reduces the sides by half. -/
theorem laterStage_ends {width stage count : Nat} (hstage : 0 < stage) (hcount : 0 < count)
    (h : chain.Ends room input size ⟨width, side, side⟩) (hwidth : 0 < width) (hside : 1 ≤ side)
    (hsized : (VolumeShape.mk width side side).size < Words.limit)
    (hdouble : 2 * width < Words.limit) :
    (blocks stage width (2 * width) 0 count chain).Ends
      (room ∧ HasRoom (stageFilter (2 * width))) input (size + 7 * count + 2)
      ⟨2 * width, reduced side 2, reduced side 2⟩ := by
  obtain ⟨count, rfl⟩ := Nat.exists_eq_succ_of_ne_zero (Nat.ne_of_gt hcount)
  have hhalved := size_halved_lt hside hsized hdouble
  have hblock := basicBlock_ends h hwidth (by omega) hside Nat.two_pos hhalved
    s!"layer{stage + 1}.{0}"
  rw [if_pos (.inl (by decide))] at hblock
  have hrest := blocks_ends stage 1 count (.inr Nat.one_ne_zero) hblock (by omega)
    (one_le_reduced _ _) hhalved
  have hsize : size + 7 * (count + 1) + 2 = size + 9 + 7 * count := by omega
  rw [blocks, if_pos ⟨hstage, rfl⟩, hsize]
  exact hrest.congr (by tauto)

/-- The width of a stage. -/
def stageWidth (baseWidth stage : Nat) : Nat := baseWidth * Words.patterns stage

theorem stageWidth_zero (baseWidth : Nat) : stageWidth baseWidth 0 = baseWidth := Nat.mul_one _

theorem stageWidth_succ (baseWidth stage : Nat) :
    stageWidth baseWidth (stage + 1) = 2 * stageWidth baseWidth stage := by
  unfold stageWidth Words.patterns
  rw [Nat.pow_eq, Nat.pow_eq, Nat.pow_succ, ← Nat.mul_assoc, Nat.mul_comm]

theorem stageWidth_pos {baseWidth : Nat} (h : 0 < baseWidth) (stage : Nat) :
    0 < stageWidth baseWidth stage :=
  Nat.mul_pos h (Nat.pow_pos Nat.two_pos)

/-- The stages behind some stage. -/
theorem stages_ends (baseWidth stage : Nat) (counts : List Nat) (hbase : 0 < baseWidth)
    (hcounts : ∀ count ∈ counts, 0 < count)
    (hwidths : ∀ later < counts.length, stageWidth baseWidth (stage + 1 + later) < Words.limit)
    (h : chain.Ends room input size ⟨stageWidth baseWidth stage, side, side⟩) (hside : 1 ≤ side)
    (hsized : (VolumeShape.mk (stageWidth baseWidth stage) side side).size < Words.limit) :
    ∃ last, (stages baseWidth (stage + 1) (stageWidth baseWidth stage) counts chain).Ends
      (room ∧ ∀ later < counts.length,
        HasRoom (stageFilter (stageWidth baseWidth (stage + 1 + later)))) input
      (size + 7 * counts.foldr (· + ·) 0 + 2 * counts.length)
      ⟨stageWidth baseWidth (stage + counts.length), last, last⟩ := by
  induction counts generalizing chain size stage side room with
  | nil => exact ⟨side, h.congr (by simp)⟩
  | cons count rest ih =>
    obtain ⟨hcount, hrest⟩ := List.forall_mem_cons.mp hcounts
    rw [List.length_cons, Nat.forall_lt_succ_left] at hwidths
    obtain ⟨hnext, hlater⟩ := hwidths
    have hdouble : 2 * stageWidth baseWidth stage < Words.limit := stageWidth_succ _ _ ▸ hnext
    have hfirst := laterStage_ends (Nat.succ_pos stage) hcount h (stageWidth_pos hbase stage) hside
      hsized hdouble
    have hhalved := size_halved_lt hside hsized hdouble
    rw [← stageWidth_succ] at hfirst hhalved
    obtain ⟨last, hlast⟩ := ih (stage + 1) hrest
      (fun later hlt => Nat.add_right_comm (stage + 1) later 1 ▸ hlater later hlt) hfirst
      (one_le_reduced _ _) hhalved
    have hsize : size + 7 * (count + rest.foldr (· + ·) 0) + 2 * (rest.length + 1) =
        size + 7 * count + 2 + 7 * rest.foldr (· + ·) 0 + 2 * rest.length := by omega
    have hshift (later : Nat) : stage + 1 + (later + 1) = stage + 1 + 1 + later := by omega
    have hend : stage + (rest.length + 1) = stage + 1 + rest.length := by omega
    refine ⟨last, ?_⟩
    rw [List.length_cons, Nat.forall_lt_succ_left, stages, List.foldr_cons, hsize, hend]
    refine hlast.congr (and_assoc.trans (and_congr_right fun _ => and_congr_right fun _ => ?_))
    exact forall₂_congr fun later _ => by rw [Nat.add_zero, hshift]

/-! ### Whole networks -/

theorem input_stands (seed : UInt64) (shape : VolumeShape) (hsized : shape.size < Words.limit) :
    (Chain.ofReply ((GraphBuilder.ofSeed seed : GraphBuilder α).perform
      (.input shape.channels shape.height shape.width))).Stands True shape 0 1 [(0, shape)] := by
  have hconsistent := GraphBuilder.perform_consistent (GraphBuilder.ofSeed_consistent (α := α) seed)
    (.input shape.channels shape.height shape.width)
  refine ⟨fun _ => ⟨_, rfl, hconsistent, rfl, ⟨_, rfl, rfl, rfl⟩, ?_, ?_, ?_⟩, nofun⟩
  · intro head hhead
    obtain rfl := List.mem_singleton.mp hhead
    rfl
  · intro x hx hfree
    exact absurd (Nat.lt_one_iff.mp hx).symm (hfree _ (List.mem_singleton_self _))
  · intro id node hnode
    obtain ⟨-, rfl⟩ : id = 0 ∧ _ = node := by
      simpa [GraphBuilder.perform, GraphBuilder.push, GraphBuilder.ofSeed, List.getElem?_cons,
        List.getElem?_nil] using hnode
    exact hsized

end Residual

namespace ResidualConfig

open Residual

/-- The weights that take the most room: the filters of the stem and of each stage, and the matrix of
the classifier. -/
def weightShapes (config : ResidualConfig) : List (List Nat) :=
  let stages := config.blocksPerStage.length
  [config.baseWidth, 3, 7, 7] :: [config.classes, stageWidth config.baseWidth (stages - 1)] ::
    (List.range stages).map fun stage => stageFilter (stageWidth config.baseWidth stage)

/-- Every weight fits a buffer. -/
def Roomy (config : ResidualConfig) : Prop :=
  ∀ shape ∈ config.weightShapes, Words.product shape * Words.elementSize ≤ Words.maxBuffer

/-- The widths of all stages and the sizes of all volumes are words. Behind the stem no volume is larger
than the one that the stem makes, or than its own width. -/
structure Countable (config : ResidualConfig) : Prop where
  image_lt : 3 * (config.inputSize * config.inputSize) < Words.limit
  stem_lt : config.baseWidth * (reduced config.inputSize 2 * reduced config.inputSize 2) <
    Words.limit
  width_lt : ∀ stage < config.blocksPerStage.length,
    stageWidth config.baseWidth stage < Words.limit
  classes_lt : config.classes < Words.limit

end ResidualConfig

namespace Residual

variable [Scalar α] {input : VolumeShape} {size : Nat} {heads : List (Nat × VolumeShape)}

/-- The rows and columns behind the stem. -/
def stemSide (config : ResidualConfig) : Nat := reduced (reduced config.inputSize 2) 2

theorem stem_sized {config : ResidualConfig} (h : config.Countable) :
    (VolumeShape.mk config.baseWidth (stemSide config) (stemSide config)).size < Words.limit := by
  have hle : stemSide config ≤ reduced config.inputSize 2 := by
    unfold stemSide reduced
    omega
  exact Nat.lt_of_le_of_lt (Nat.mul_le_mul_left _ (Nat.mul_le_mul hle hle)) h.stem_lt

theorem stem_ends {config : ResidualConfig} (hsize : 1 ≤ config.inputSize)
    (hcountable : config.Countable) :
    (stem config : Chain α).Ends (HasRoom [config.baseWidth, 3, 7, 7] ∧ HasRoom [config.baseWidth])
      ⟨3, config.inputSize, config.inputSize⟩ 5
      ⟨config.baseWidth, stemSide config, stemSide config⟩ := by
  have hinput := input_stands (α := α) config.seed ⟨3, config.inputSize, config.inputSize⟩
    hcountable.image_lt
  have hconv := hinput.follow (.conv2d "stem.conv" · config.baseWidth 7 2 3)
    (makes_conv2d config.baseWidth rfl rfl hsize Nat.two_pos) hcountable.stem_lt rfl
  have hrelu := (hconv.follow (.batchNorm "stem.bn" ·) (.batchNorm rfl) hcountable.stem_lt rfl).follow
    (.relu "stem.relu" ·) (.relu rfl) hcountable.stem_lt rfl
  have hside := outputLength?_odd 1 (one_le_reduced config.inputSize 2) Nat.two_pos
  have hpools : (VolumeShape.mk config.baseWidth (reduced config.inputSize 2)
      (reduced config.inputSize 2)).Pools 3 2 1
        ⟨config.baseWidth, stemSide config, stemSide config⟩ := ⟨hside, hside, rfl⟩
  have hends := hrelu.follow (.maxPool "stem.pool" · 3 2 1) (.maxPool rfl hpools (by decide))
    (stem_sized hcountable) rfl
  exact ⟨_, hends.congr (by simp)⟩

omit [Scalar α] in
/-- A graph whose output is the only open node. -/
theorem Frame.finish {builder : GraphBuilder α} {last : Nat} {shape : VolumeShape}
    (h : Frame builder input size [(last, shape)]) :
    ∃ graph, builder.finish last = .ok graph ∧ graph.inputShape? = some input ∧
      graph.outputShape = shape ∧ graph.nodes.size = size ∧ graph.Sound ∧
      (∀ x < size, x ≠ graph.output → 0 < graph.consumers.getD x 0) ∧
      ∀ (id : Nat) (node : GraphNode α), graph.nodes[id]? = some node →
        node.shape.size < Words.limit := by
  obtain ⟨node, hlast, hshape⟩ :=
    (GraphBuilder.knows_iff _ _ _).mp (h.knows _ (List.mem_singleton_self _))
  have hlt := (Array.getElem?_eq_some_iff.mp hlast).1
  obtain ⟨graph, hgraph⟩ : ∃ graph, builder.finish last = .ok graph :=
    ⟨_, by rw [GraphBuilder.finish, if_pos hlt]⟩
  obtain ⟨-, hnodes, houtput, -⟩ := GraphBuilder.finish_eq_ok hgraph
  have hsound := h.consistent.finish_sound hgraph
  refine ⟨graph, hgraph, ?_, ?_, hnodes ▸ h.size_eq, hsound, fun x hx hne => ?_, hnodes ▸ h.sized⟩
  · obtain ⟨first, hfirst, hinput, hsame⟩ := h.input_first
    rw [← Array.getElem?_toList, ← List.head?_eq_getElem?] at hfirst
    obtain ⟨rest, hlist⟩ := List.head?_eq_some_iff.mp hfirst
    simp [TensorGraph.inputShape?, hnodes, hlist, hinput, hsame]
  · simp [TensorGraph.outputShape, hnodes, houtput, hlast, hshape]
  · rw [hsound.counted, graph.usesFrom_pos_iff]
    obtain ⟨id, user, huser, huse⟩ := h.used x hx fun head hhead hsame => by
      obtain rfl := List.mem_singleton.mp hhead
      exact hne (hsame.symm.trans houtput.symm)
    exact ⟨id, Nat.zero_le id, user, hnodes ▸ huser, huse⟩

/-- A configuration that is accepted has stages, each with blocks, and no extent of zero. -/
theorem validate_eq_ok {config : ResidualConfig} (h : config.validate = .ok ()) :
    config.blocksPerStage ≠ [] ∧ (∀ count ∈ config.blocksPerStage, 0 < count) ∧
      0 < config.baseWidth ∧ 0 < config.classes ∧ 1 ≤ config.inputSize := by
  unfold ResidualConfig.validate at h
  split at h
  · cases h
  · rename_i hstages
    split at h
    · cases h
    · rename_i hpositive
      simp only [Bool.or_eq_true, List.isEmpty_iff, List.contains_eq_mem, decide_eq_true_eq,
        not_or] at hstages
      refine ⟨hstages.1, fun count hcount => Nat.pos_of_ne_zero ?_, by omega, by omega, by omega⟩
      rintro rfl
      exact hstages.2 hcount

/-- The stem and all stages. The first stage keeps the width of the stem. -/
theorem stages_stem_ends {config : ResidualConfig} (hvalid : config.validate = .ok ())
    (hcountable : config.Countable) :
    ∃ last, (stages config.baseWidth 0 config.baseWidth config.blocksPerStage
        (stem config) : Chain α).Ends
      ((HasRoom [config.baseWidth, 3, 7, 7] ∧ HasRoom [config.baseWidth]) ∧
        ∀ stage < config.blocksPerStage.length,
          HasRoom (stageFilter (stageWidth config.baseWidth stage)))
      ⟨3, config.inputSize, config.inputSize⟩
      (5 + 7 * config.blocksPerStage.foldr (· + ·) 0 + 2 * (config.blocksPerStage.length - 1))
      ⟨stageWidth config.baseWidth (config.blocksPerStage.length - 1), last, last⟩ := by
  obtain ⟨hstages, hblocks, hbase, -, hsize⟩ := validate_eq_ok hvalid
  have hwidths := hcountable.width_lt
  obtain ⟨count, rest, hcounts⟩ := List.exists_cons_of_ne_nil hstages
  rw [hcounts] at hblocks hwidths ⊢
  obtain ⟨hcount, hrest⟩ := List.forall_mem_cons.mp hblocks
  rw [List.length_cons, Nat.forall_lt_succ_left] at hwidths
  have hwidth := stageWidth_zero config.baseWidth
  have hfirst := blocks_ends 0 0 count (.inl rfl) (stem_ends (α := α) hsize hcountable) hbase
    (one_le_reduced _ _) (stem_sized hcountable)
  obtain ⟨last, hlast⟩ := stages_ends config.baseWidth 0 rest hbase hrest
    (fun later hlt => by simpa [Nat.add_comm] using hwidths.2 later hlt) (by rwa [hwidth])
    (one_le_reduced _ _) (by rw [hwidth]; exact stem_sized hcountable)
  have hcounted : 5 + 7 * (count + rest.foldr (· + ·) 0) + 2 * rest.length =
      5 + 7 * count + 7 * rest.foldr (· + ·) 0 + 2 * rest.length := by omega
  refine ⟨last, ?_⟩
  rw [List.length_cons, Nat.forall_lt_succ_left, Nat.add_sub_cancel, List.foldr_cons, hcounted,
    stages, ← stageWidth, hwidth]
  rw [hwidth, Nat.zero_add rest.length] at hlast
  refine hlast.congr ?_
  rw [and_assoc]
  refine and_congr_right fun _ => and_congr ?_ (forall₂_congr fun later _ => ?_)
  · exact forall_prop_of_true hcount
  · rw [Nat.zero_add, Nat.add_comm]

omit [Scalar α] in
/-- The weights that take the most room decide. -/
theorem roomy_iff {config : ResidualConfig} (hvalid : config.validate = .ok ()) :
    config.Roomy ↔ HasRoom [config.baseWidth, 3, 7, 7] ∧
      HasRoom [config.classes,
        stageWidth config.baseWidth (config.blocksPerStage.length - 1)] ∧
      ∀ stage < config.blocksPerStage.length,
        HasRoom (stageFilter (stageWidth config.baseWidth stage)) := by
  obtain ⟨-, -, hbase, hclasses, -⟩ := validate_eq_ok hvalid
  have hwidth := stageWidth_pos hbase
  have hstem : ∀ extent ∈ [config.baseWidth, 3, 7, 7], 0 < extent := by simp [hbase]
  have hmatrix : ∀ extent ∈ [config.classes,
      stageWidth config.baseWidth (config.blocksPerStage.length - 1)], 0 < extent := by
    simp [hclasses, hwidth]
  have hfilter (stage : Nat) :
      ∀ extent ∈ stageFilter (stageWidth config.baseWidth stage), 0 < extent := by
    simp [stageFilter, hwidth]
  simp only [ResidualConfig.Roomy, ResidualConfig.weightShapes, List.forall_mem_cons,
    List.forall_mem_map, List.mem_range, hasRoom_iff_of_pos hstem, hasRoom_iff_of_pos hmatrix,
    hasRoom_iff_of_pos (hfilter _)]

omit [Scalar α] in
/-- Room for the weights that take the most is room for all parameters of the network. -/
theorem roomy_iff_all {config : ResidualConfig} (hvalid : config.validate = .ok ()) {width : Nat}
    (hwidth : width = stageWidth config.baseWidth (config.blocksPerStage.length - 1)) :
    config.Roomy ↔
      (((HasRoom [config.baseWidth, 3, 7, 7] ∧ HasRoom [config.baseWidth]) ∧
        ∀ stage < config.blocksPerStage.length,
          HasRoom (stageFilter (stageWidth config.baseWidth stage))) ∧
        ∀ parameter ∈ ([] : List (List Nat)), HasRoom parameter) ∧
      ∀ parameter ∈ [[config.classes, (VolumeShape.mk width 1 1).size], [config.classes]],
        HasRoom parameter := by
  obtain ⟨-, -, hbase, hclasses, -⟩ := validate_eq_ok hvalid
  have hlast := stageWidth_pos hbase (config.blocksPerStage.length - 1)
  have hsize : (VolumeShape.mk width 1 1).size = width := Nat.mul_one width
  have hnormal (hstem : HasRoom [config.baseWidth, 3, 7, 7]) : HasRoom [config.baseWidth] :=
    hstem.mono (by simp [hbase]) (by simp [hbase])
      (by simp only [Words.product, List.foldr_cons, List.foldr_nil]; omega)
  have hbias (hmatrix : HasRoom [config.classes, width]) : HasRoom [config.classes] :=
    hmatrix.mono (by simp [hclasses]) (by simp [hclasses, hwidth, hlast])
      (by simpa [Words.product] using Nat.le_mul_of_pos_right config.classes (hwidth ▸ hlast))
  rw [roomy_iff hvalid, ← hwidth, hsize]
  simp only [List.forall_mem_cons, List.not_mem_nil, false_implies, implies_true, and_true]
  exact ⟨fun ⟨hstem, hmatrix, hfilters⟩ =>
      ⟨⟨⟨hstem, hnormal hstem⟩, hfilters⟩, hmatrix, hbias hmatrix⟩,
    fun ⟨⟨⟨hstem, _⟩, hfilters⟩, hmatrix, _⟩ => ⟨hstem, hmatrix, hfilters⟩⟩

/-- Everything up to the classifier, which is the only node left open. -/
theorem network_ends {config : ResidualConfig} (hvalid : config.validate = .ok ())
    (hcountable : config.Countable) :
    (stages config.baseWidth 0 config.baseWidth config.blocksPerStage (stem config)
      |>.call (.globalAveragePool "pool" ·)
      |>.call (.dense "fc" · config.classes) : Chain α).Ends config.Roomy
      ⟨3, config.inputSize, config.inputSize⟩
      (7 + 7 * config.blocksPerStage.foldr (· + ·) 0 + 2 * (config.blocksPerStage.length - 1))
      ⟨config.classes, 1, 1⟩ := by
  obtain ⟨side, last, hstages⟩ := stages_stem_ends (α := α) hvalid hcountable
  have hwidth := hcountable.width_lt (config.blocksPerStage.length - 1)
    (Nat.sub_lt (List.length_pos_of_ne_nil (validate_eq_ok hvalid).1) Nat.one_pos)
  have hpool := hstages.follow (.globalAveragePool "pool" ·) (.globalAveragePool rfl)
    (by simpa [VolumeShape.size, VolumeShape.plane] using hwidth) rfl
  have hnetwork := hpool.follow (.dense "fc" · config.classes) (.dense _ rfl)
    (by simpa [VolumeShape.size, VolumeShape.plane] using hcountable.classes_lt) rfl
  have hsize : 7 + 7 * config.blocksPerStage.foldr (· + ·) 0 +
      2 * (config.blocksPerStage.length - 1) =
        5 + 7 * config.blocksPerStage.foldr (· + ·) 0 + 2 * (config.blocksPerStage.length - 1) + 1 +
          1 := by omega
  rw [← roomy_iff_all hvalid rfl] at hnetwork
  rw [hsize]
  exact ⟨_, hnetwork⟩

theorem build_eq {config : ResidualConfig} (hvalid : config.validate = .ok ()) :
    build (α := α) config = (stages config.baseWidth 0 config.baseWidth config.blocksPerStage
      (stem config)
      |>.call (.globalAveragePool "pool" ·)
      |>.call (.dense "fc" · config.classes)).bind fun reached =>
        liftM (reached.2.finish reached.1) := by
  rw [build, hvalid]
  rfl

theorem build_crashes {config : ResidualConfig} (hvalid : config.validate = .ok ())
    (hcountable : config.Countable) (hcrowded : ¬ config.Roomy) :
    build (α := α) config = .error .crashed := by
  obtain ⟨last, hnetwork⟩ := network_ends (α := α) hvalid hcountable
  rw [build_eq hvalid, hnetwork.crashes hcrowded]
  rfl

/-- The network of every configuration that is accepted, whose sizes are words and whose weights each
fit a buffer, is built. It takes images of the configured size, answers a value for each class, and has
as many nodes as its blocks and stages ask for. The operands of each sum have the shape of the sum,
every node but the output is used, and the size of every node is a word. If some weight does not fit a
buffer, the construction crashes. -/
theorem build_of_validate (config : ResidualConfig) (hvalid : config.validate = .ok ())
    (hcountable : config.Countable) :
    (config.Roomy → ∃ graph : TensorGraph α, build config = .ok graph ∧
      graph.inputShape? = some ⟨3, config.inputSize, config.inputSize⟩ ∧
      graph.outputShape = ⟨config.classes, 1, 1⟩ ∧
      graph.nodes.size = 7 + 7 * config.blocksPerStage.foldr (· + ·) 0 +
        2 * (config.blocksPerStage.length - 1) ∧
      (∀ (id : Nat) (name : String) (x y : Nat) (shape : VolumeShape),
        graph.nodes[id]? = some ⟨name, .add x y, shape⟩ →
        ∃ left right, graph.nodes[x]? = some left ∧ graph.nodes[y]? = some right ∧
          left.shape = shape ∧ right.shape = shape) ∧
      (∀ id < graph.nodes.size, id ≠ graph.output → 0 < graph.consumers.getD id 0) ∧
      ∀ (id : Nat) (node : GraphNode α), graph.nodes[id]? = some node →
        node.shape.size < Words.limit) ∧
    (¬ config.Roomy → build (α := α) config = .error .crashed) := by
  refine ⟨fun hroomy => ?_, build_crashes hvalid hcountable⟩
  obtain ⟨last, hnetwork⟩ := network_ends (α := α) hvalid hcountable
  obtain ⟨builder, hchain, hframe⟩ := hnetwork.reaches hroomy
  obtain ⟨graph, hgraph, hinput, houtput, hnodes, hsound, hused, hsized⟩ := hframe.finish
  refine ⟨graph, ?_, hinput, houtput, hnodes, ?_, hnodes ▸ hused, hsized⟩
  · rw [build_eq hvalid, hchain]
    show liftM (builder.finish _) = _
    rw [hgraph, Stop.lift_ok]
  · intro id name x y shape hnode
    obtain ⟨hx, hy⟩ := hsound.fit id _ hnode
    obtain ⟨left, -, hleft, hleftShape⟩ := exists_of_shapeBefore hx
    obtain ⟨right, -, hright, hrightShape⟩ := exists_of_shapeBefore hy
    exact ⟨left, right, hleft, hright, hleftShape, hrightShape⟩

/-- Two stages for images that are reduced to single points. -/
def twoStages : ResidualConfig := ⟨1, 4, [2, 1], 5, 11⟩

theorem build_of_validate_twoStages :
    (twoStages.validate = .ok () ∧ twoStages.Countable ∧ twoStages.Roomy) ∧
    ∃ graph : TensorGraph Binary32, build twoStages = .ok graph ∧
      graph.inputShape? = some ⟨3, 1, 1⟩ ∧ graph.outputShape = ⟨5, 1, 1⟩ ∧
      graph.nodes.size = 30 := by
  have hvalid : twoStages.validate = .ok () := rfl
  have hcountable : twoStages.Countable :=
    ⟨by decide, by decide, by decide, by decide⟩
  have hroomy : twoStages.Roomy := by
    unfold ResidualConfig.Roomy
    decide
  obtain ⟨graph, hbuild, hinput, houtput, hnodes, -⟩ :=
    (build_of_validate (α := Binary32) twoStages hvalid hcountable).1 hroomy
  exact ⟨⟨hvalid, hcountable, hroomy⟩, graph, hbuild, hinput, houtput, hnodes⟩

/-- A single point in so many classes that their matrix fits no buffer. -/
def manyClasses : ResidualConfig := ⟨1, 1, [1], 2305843009213693952, 0⟩

/-- Not every network whose sizes are words is built. -/
theorem build_manyClasses_crashes :
    manyClasses.validate = .ok () ∧ manyClasses.Countable ∧
      build (α := Binary32) manyClasses = .error .crashed ∧
      ¬ ∀ config : ResidualConfig, config.validate = .ok () → config.Countable →
        ∃ graph : TensorGraph Binary32, build config = .ok graph := by
  have hvalid : manyClasses.validate = .ok () := rfl
  have hcountable : manyClasses.Countable :=
    ⟨by decide, by decide, by decide, by decide⟩
  have hcrowded : ¬ manyClasses.Roomy := by
    unfold ResidualConfig.Roomy
    decide
  have hcrash : build (α := Binary32) manyClasses = .error .crashed :=
    build_crashes hvalid hcountable hcrowded
  refine ⟨hvalid, hcountable, hcrash, fun hbuilds => ?_⟩
  obtain ⟨graph, hbuild⟩ := hbuilds manyClasses hvalid hcountable
  cases hcrash.symm.trans hbuild

end Residual

end TensorBench
