import LayeredPage.Proofs.Climbing
import LayeredPage.Proofs.Holdings
import LayeredPage.Proofs.Ownership

/-!
# What stands on a stage

`Standing` ties the layers, the table of containers and the tree together: each layer hangs from the
mount, and the node of a container hangs from the node of its parent on the same layer, or from the
overlay, along a chain that ends. Stages that only grow keep all chains.
-/

namespace LayeredPage.Proofs

open MemoryDocument

/-- The node that members of a container hang from on a layer. -/
def target? (s : Stage) (layer : Nat) : Option UInt32 → Option NodeId
  | none => s.overlay? layer
  | some id => (s.layers[layer]?).bind fun l => (l.frames[id]?).map (·.id)

/-- The nodes from a container's on a layer outwards: those of its ancestors, the overlay, the
mount. -/
inductive Chain (s : Stage) (layer : Nat) : Option UInt32 → List NodeId → Prop where
  | overlay {l : Layer} : s.layers[layer]? = some l → Chain s layer none [l.overlay.id, s.mount]
  | inner {id : UInt32} {c : Container} {l : Layer} {node : OwnedNode} {ns : List NodeId} :
      s.containers[id]? = some c → s.layers[layer]? = some l → l.frames[id]? = some node →
      Chain s layer c.parent ns → Chain s layer (some id) (node.id :: ns)

/-- These are the first parents of a node, nearest first. -/
def Climbs (d : MemoryDocument) : NodeId → List NodeId → Prop
  | _, [] => True
  | n, p :: ps => d.parent? n = some p ∧ Climbs d p ps

/-- The layers, the containers and the tree of a stage fit together, while `others` are held by
others. -/
structure Standing (base : Nat) (mount : NodeId) (others : List OwnedNode) (s : Stage)
    (d : MemoryDocument) : Prop where
  owned : Owned base s.pools (stageNodes s ++ others) d
  mounted : s.mount = mount
  mount : s.mount.index < base
  outside : ∀ n p, d.parent? n = some p → n.index < base → p.index < base
  layers : ∀ (i : Nat) (l : Layer), s.layers[i]? = some l → l.canvas.kind = .canvas ∧
    l.overlay.kind = .div ∧
    d.parent? l.canvas.id = some s.mount ∧ d.parent? l.overlay.id = some s.mount
  frames : ∀ (i : Nat) (l : Layer) (id : UInt32) (node : OwnedNode), s.layers[i]? = some l →
    l.frames[id]? = some node → node.kind = .div ∧ ∃ c, s.containers[id]? = some c ∧
      d.parent? node.id = target? s i c.parent ∧ ∃ ns, Chain s i (some id) ns
  surfaces : ∀ i, i ∈ s.surfaces ↔ i < s.layers.size

/-- Everything on the first stage stands on the second, at the same place. -/
structure Extends (s s' : Stage) : Prop where
  mount : s'.mount = s.mount
  layers : ∀ (i : Nat) (l : Layer), s.layers[i]? = some l → ∃ l', s'.layers[i]? = some l' ∧
    l'.canvas = l.canvas ∧ l'.overlay = l.overlay ∧
    ∀ (id : UInt32) (node : OwnedNode), l.frames[id]? = some node → l'.frames[id]? = some node
  containers : ∀ (id : UInt32) (c : Container), s.containers[id]? = some c → ∃ c',
    s'.containers[id]? = some c' ∧
    c'.parent = c.parent

section Chains

variable {s s' s'' : Stage} {i : Nat} {x : Option UInt32} {ns : List NodeId}
  {d : MemoryDocument} {t : NodeId}

lemma Extends.refl (s : Stage) : Extends s s :=
  ⟨rfl, fun _ l hl => ⟨l, hl, rfl, rfl, fun _ _ => id⟩, fun _ c hc => ⟨c, hc, rfl⟩⟩

lemma Extends.trans (first : Extends s s') (second : Extends s' s'') : Extends s s'' where
  mount := second.mount.trans first.mount
  layers i l hl := by
    obtain ⟨l', hl', canvas, overlay, frames⟩ := first.layers i l hl
    obtain ⟨l'', hl'', canvas', overlay', frames'⟩ := second.layers i l' hl'
    exact ⟨l'', hl'', canvas'.trans canvas, overlay'.trans overlay, fun id node h =>
      frames' id node (frames id node h)⟩
  containers id c hc := by
    obtain ⟨c', hc', parent⟩ := first.containers id c hc
    obtain ⟨c'', hc'', parent'⟩ := second.containers id c' hc'
    exact ⟨c'', hc'', parent'.trans parent⟩

lemma target?_none {l : Layer} (hl : s.layers[i]? = some l) :
    target? s i none = some l.overlay.id := by
  simp [target?, Stage.overlay?, hl]

lemma target?_some {l : Layer} {id : UInt32} {node : OwnedNode} (hl : s.layers[i]? = some l)
    (hn : l.frames[id]? = some node) : target? s i (some id) = some node.id := by
  simp [target?, hl, hn]

lemma Chain.head (chain : Chain s i x ns) : ∃ t rest, ns = t :: rest ∧ target? s i x = some t := by
  cases chain with
  | overlay hl => exact ⟨_, _, rfl, target?_none hl⟩
  | inner _ hl hn _ => exact ⟨_, _, rfl, target?_some hl hn⟩

lemma Chain.layer (chain : Chain s i x ns) : ∃ l, s.layers[i]? = some l := by
  cases chain with
  | overlay hl => exact ⟨_, hl⟩
  | inner _ hl _ _ => exact ⟨_, hl⟩

lemma Chain.line (chain : Chain s i x ns) : ∃ ids, Line s.containers x ids := by
  induction chain with
  | overlay => exact ⟨[], .top⟩
  | inner hc _ _ _ ih =>
    obtain ⟨ids, line⟩ := ih
    exact ⟨_, .inner hc line⟩

lemma Chain.mono (ext : Extends s s') (chain : Chain s i x ns) : Chain s' i x ns := by
  induction chain with
  | overlay hl =>
    obtain ⟨l', hl', _, overlay, _⟩ := ext.layers _ _ hl
    rw [← overlay, ← ext.mount]
    exact .overlay hl'
  | inner hc hl hn _ ih =>
    obtain ⟨c', hc', parent⟩ := ext.containers _ _ hc
    obtain ⟨l', hl', _, _, frames⟩ := ext.layers _ _ hl
    rw [← parent] at ih
    exact .inner hc' hl' (frames _ _ hn) ih

lemma Extends.target? (ext : Extends s s') (ht : target? s i x = some t) :
    target? s' i x = some t := by
  unfold Proofs.target? Stage.overlay? at ht ⊢
  cases x with
  | none =>
    obtain ⟨l, hl, rfl⟩ := Option.map_eq_some_iff.1 ht
    obtain ⟨l', hl', _, overlay, _⟩ := ext.layers i l hl
    simp [hl', overlay]
  | some id =>
    obtain ⟨l, hl, found⟩ := Option.bind_eq_some_iff.1 ht
    obtain ⟨node, hn, rfl⟩ := Option.map_eq_some_iff.1 found
    obtain ⟨l', hl', _, _, frames⟩ := ext.layers i l hl
    simp [hl', frames id node hn]

/-- A climb ends at a node of the layer. -/
lemma Ascent.root_mem {l : Layer} {ids : List UInt32} {root : NodeId} (a : Ascent s l x ids root) :
    root ∈ (layerNodes l).map (·.id) := by
  induction a with
  | overlay => exact List.mem_map_of_mem (mem_layerNodes.2 (.inr (.inl rfl)))
  | here found => exact List.mem_map_of_mem (mem_layerNodes.2 (.inr (.inr ⟨_, found⟩)))
  | up _ _ _ ih => exact ih

end Chains

section Standings

variable {base : Nat} {mount : NodeId} {others others' : List OwnedNode} {s s' : Stage}
  {d d' : MemoryDocument} {i : Nat} {x : Option UInt32} {ns : List NodeId} {t : NodeId}

/-- Following parents up from a place on a layer gives the chain of its containers. -/
lemma Standing.climbs (st : Standing base mount others s d) (chain : Chain s i x ns) :
    ∃ t rest, ns = t :: rest ∧ target? s i x = some t ∧ Climbs d t rest := by
  induction chain with
  | overlay hl => exact ⟨_, _, rfl, target?_none hl, (st.layers _ _ hl).2.2.2, trivial⟩
  | @inner id c l node ns hc hl hn _ ih =>
    obtain ⟨t, rest, rfl, place, climbs⟩ := ih
    obtain ⟨_, c', hc', parent, _⟩ := st.frames _ _ _ _ hl hn
    obtain rfl : c = c' := by
      rw [hc] at hc'
      exact Option.some.inj hc'
    exact ⟨node.id, t :: rest, rfl, target?_some hl hn, parent.trans place, climbs⟩

lemma target?_mem (ht : target? s i x = some t) : t ∈ (stageNodes s).map (·.id) := by
  unfold target? Stage.overlay? at ht
  cases x with
  | none =>
    obtain ⟨l, hl, rfl⟩ := Option.map_eq_some_iff.1 ht
    exact List.mem_map_of_mem (mem_stageNodes.2 ⟨i, l, hl, mem_layerNodes.2 (.inr (.inl rfl))⟩)
  | some id =>
    obtain ⟨l, hl, found⟩ := Option.bind_eq_some_iff.1 ht
    obtain ⟨node, hn, rfl⟩ := Option.map_eq_some_iff.1 found
    exact List.mem_map_of_mem (mem_stageNodes.2 ⟨i, l, hl, mem_layerNodes.2 (.inr (.inr ⟨id, hn⟩))⟩)

/-- A node of the stage hangs from the mount or from another node of the stage. -/
lemma Standing.parent_of_stage (st : Standing base mount others s d) {n p : NodeId}
    (hn : n ∈ (stageNodes s).map (·.id))
    (hp : d.parent? n = some p) : p = s.mount ∨ p ∈ (stageNodes s).map (·.id) := by
  obtain ⟨node, held, rfl⟩ := List.mem_map.1 hn
  obtain ⟨i, l, hl, place⟩ := mem_stageNodes.1 held
  rcases mem_layerNodes.1 place with rfl | rfl | ⟨id, found⟩
  · rw [(st.layers i l hl).2.2.1] at hp
    exact .inl (Option.some.inj hp).symm
  · rw [(st.layers i l hl).2.2.2] at hp
    exact .inl (Option.some.inj hp).symm
  · obtain ⟨_, c, _, parent, _⟩ := st.frames i l id node hl found
    exact .inr (target?_mem (parent.symm.trans hp))

lemma Extends.mem_stageNodes (ext : Extends s s') {n : OwnedNode} (hn : n ∈ stageNodes s) :
    n ∈ stageNodes s' := by
  obtain ⟨i, l, hl, place⟩ := Proofs.mem_stageNodes.1 hn
  obtain ⟨l', hl', canvas, overlay, frames⟩ := ext.layers i l hl
  refine Proofs.mem_stageNodes.2 ⟨i, l', hl', mem_layerNodes.2 ?_⟩
  rw [canvas, overlay]
  exact (mem_layerNodes.1 place).imp_right fun h => h.imp_right fun ⟨id, found⟩ =>
    ⟨id, frames id n found⟩

lemma Extends.known (ext : Extends s s') {m : NodeId} (hm : Known base (stageNodes s ++ others) m) :
    Known base (stageNodes s' ++ others) m := by
  refine hm.imp_right fun held => ?_
  obtain ⟨n, hn, rfl⟩ := List.mem_map.1 held
  refine List.mem_map_of_mem (List.mem_append.2 ?_)
  exact (List.mem_append.1 hn).imp_left ext.mem_stageNodes

lemma known_of_stage {n : OwnedNode} (hn : n ∈ stageNodes s) : Known base (stageNodes s) n.id :=
  .inr (List.mem_map_of_mem hn)

/-- A stage stands again after it grew if what is new hangs where it should. -/
lemma Standing.grow (st : Standing base mount others s d) (ext : Extends s s')
    (owned : Owned base s'.pools (stageNodes s' ++ others') d')
    (kept : ∀ m, Known base (stageNodes s) m → d'.parent? m = d.parent? m)
    (layers : ∀ (i : Nat) (l' : Layer), s'.layers[i]? = some l' →
      (∃ l, s.layers[i]? = some l ∧ l'.canvas = l.canvas ∧ l'.overlay = l.overlay) ∨
      l'.canvas.kind = .canvas ∧ l'.overlay.kind = .div ∧ d'.parent? l'.canvas.id = some s'.mount ∧
        d'.parent? l'.overlay.id = some s'.mount)
    (frames : ∀ (i : Nat) (l' : Layer) (id : UInt32) (node : OwnedNode), s'.layers[i]? = some l' →
      l'.frames[id]? = some node → (∃ l, s.layers[i]? = some l ∧ l.frames[id]? = some node) ∨
      node.kind = .div ∧ ∃ c, s'.containers[id]? = some c ∧
        d'.parent? node.id = target? s' i c.parent ∧
        ∃ ns, Chain s' i (some id) ns)
    (surfaces : ∀ i, i ∈ s'.surfaces ↔ i < s'.layers.size) : Standing base mount others' s' d' where
  owned := owned
  mounted := ext.mount.trans st.mounted
  mount := by
    rw [ext.mount]
    exact st.mount
  outside n p hp hn := by
    rw [kept n (.inl hn)] at hp
    exact st.outside n p hp hn
  layers i l' hl' := by
    rcases layers i l' hl' with ⟨l, hl, canvas, overlay⟩ | new
    · obtain ⟨canvas_kind, overlay_kind, canvas_parent, overlay_parent⟩ := st.layers i l hl
      have hc : Known base _ _ := known_of_stage
        (mem_stageNodes.2 ⟨i, l, hl, mem_layerNodes.2 (.inl rfl)⟩)
      have ho : Known base _ _ := known_of_stage
        (mem_stageNodes.2 ⟨i, l, hl, mem_layerNodes.2 (.inr (.inl rfl))⟩)
      rw [canvas, overlay, kept _ hc, kept _ ho, ext.mount]
      exact ⟨canvas_kind, overlay_kind, canvas_parent, overlay_parent⟩
    · exact new
  frames i l' id node hl' found := by
    rcases frames i l' id node hl' found with ⟨l, hl, found⟩ | new
    · obtain ⟨kind, c, hc, parent, ns, chain⟩ := st.frames i l id node hl found
      obtain ⟨c', hc', same⟩ := ext.containers id c hc
      have hn : Known base _ _ := known_of_stage
        (mem_stageNodes.2 ⟨i, l, hl, mem_layerNodes.2 (.inr (.inr ⟨id, found⟩))⟩)
      refine ⟨kind, c', hc', ?_, ns, chain.mono ext⟩
      rw [kept _ hn, parent, same]
      cases chain with
      | inner hc₁ _ _ outer =>
        obtain rfl := Option.some.inj (hc.symm.trans hc₁)
        obtain ⟨t, _, _, place⟩ := outer.head
        rw [place, ext.target? place]
    · exact new
  surfaces := surfaces

lemma extends_withPools (s : Stage) (ps : NodePools) : Extends s { s with pools := ps } :=
  ⟨rfl, fun _ l hl => ⟨l, hl, rfl, rfl, fun _ _ hm => hm⟩, fun _ c hc => ⟨c, hc, rfl⟩⟩

/-- What others hold may change, as long as the stage keeps its own nodes. -/
lemma Standing.exchange (st : Standing base mount others s d) {ps : NodePools}
    (owned : Owned base ps (stageNodes s ++ others') d')
    (kept : ∀ m, Known base (stageNodes s) m → d'.parent? m = d.parent? m) :
    Standing base mount others' { s with pools := ps } d' :=
  st.grow (extends_withPools s ps) owned kept (fun _ l hl => .inl ⟨l, hl, rfl, rfl⟩)
    (fun _ l _ _ hl hm => .inl ⟨l, hl, hm⟩) st.surfaces

lemma Standing.perm (st : Standing base mount others s d) (perm : others.Perm others') :
    Standing base mount others' s d :=
  ⟨st.owned.perm (perm.append_left _), st.mounted, st.mount, st.outside, st.layers,
    st.frames, st.surfaces⟩

/-- What others hold is neither of the stage nor foreign. -/
lemma Standing.apart (st : Standing base mount others s d) {n : NodeId}
    (hn : n ∈ others.map (·.id)) :
    ¬ Known base (stageNodes s) n := by
  rintro (foreign | inside)
  · obtain ⟨m, hm, rfl⟩ := List.mem_map.1 hn
    have := st.owned.base_le_of_mem (List.mem_append_right _ hm)
    omega
  · have distinct := st.owned.nodup
    rw [List.map_append, List.nodup_append, List.map_append, List.nodup_append] at distinct
    exact distinct.2.1.2.2 _ inside _ hn rfl

/-- Every node with a parent is foreign, of the stage, or held by others. -/
lemma Standing.holder_of_parent (st : Standing base mount others s d) {n p : NodeId}
    (parent : d.parent? n = some p) :
    n.index < base ∨ n ∈ (stageNodes s).map (·.id) ∨ n ∈ others.map (·.id) := by
  by_cases foreign : n.index < base
  · exact .inl foreign
  · have held := st.owned.mem_iff.2 ⟨Nat.le_of_not_lt foreign, issued_of_parent? parent⟩
    obtain ⟨m, hm, rfl⟩ := List.mem_map.1 held
    rcases List.mem_append.1 hm with waiting | hm
    · rw [parent?_of_node? (st.owned.fresh m waiting)] at parent
      cases parent
    · exact .inr ((List.mem_append.1 hm).imp (List.mem_map_of_mem ·) (List.mem_map_of_mem ·))

/-- What hangs from a node of others is held by others. -/
lemma Standing.below_others (st : Standing base mount others s d) {n p : NodeId}
    (parent : d.parent? n = some p) (hp : p ∈ others.map (·.id)) : n ∈ others.map (·.id) := by
  rcases st.holder_of_parent parent with foreign | inside | held
  · exact absurd (.inl (st.outside n p parent foreign)) (st.apart hp)
  · rcases st.parent_of_stage inside parent with rfl | above
    · exact absurd (.inl st.mount) (st.apart hp)
    · exact absurd (.inr above) (st.apart hp)
  · exact held

end Standings

end LayeredPage.Proofs
