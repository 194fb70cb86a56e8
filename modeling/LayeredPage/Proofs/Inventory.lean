import LayeredPage.Proofs.Placement

/-!
# Where nodes are

Every node that the pools made is in one place: a position on the shelf of its kind, the canvas or
the overlay of a layer, the node of a container on a layer, or a position in an element. The census
lists the places of a scene with their nodes, in the order in which the scene lists its nodes.
-/

namespace LayeredPage.Proofs

open MemoryDocument

/-- Where a node can be. -/
inductive Place where
  | shelf (kind : NodeKind) (i : Nat)
  | canvas (layer : Nat)
  | overlay (layer : Nat)
  | container (layer : Nat) (id : UInt32)
  | element (id : UInt32) (spot : Spot)

/-- The node at a place. -/
def occupant? (s : Scene) : Place → Option OwnedNode
  | .shelf kind i => (shelf s.pools kind)[i]?
  | .canvas layer => (s.layers[layer]?).map (·.canvas)
  | .overlay layer => (s.layers[layer]?).map (·.overlay)
  | .container layer id => (s.layers[layer]?).bind fun l => l.frames[id]?
  | .element id .leaf => (s.elements[id]?).map (·.leaf)
  | .element id (.part i) => (s.elements[id]?).bind fun e => e.parts[i]?
  | .element id (.option i) => (s.elements[id]?).bind fun e => e.options[i]?

/-- The nodes of a list, each with its position. -/
def positions (place : Nat → Place) (nodes : List OwnedNode) : List (Place × OwnedNode) :=
  nodes.zipIdx.map fun (n, i) => (place i, n)

def layerCensus (l : Layer) (i : Nat) : List (Place × OwnedNode) :=
  (.canvas i, l.canvas) :: (.overlay i, l.overlay) :: l.frames.toList.map fun (id, n) =>
    (.container i id, n)

def elementCensus (id : UInt32) (e : Element) : List (Place × OwnedNode) :=
  (.element id .leaf, e.leaf) :: (positions (fun i => .element id (.part i)) e.parts ++
    positions (fun i => .element id (.option i)) e.options)

def census (s : Scene) : List (Place × OwnedNode) :=
  (NodeKind.all.flatMap fun kind => positions (.shelf kind) (shelf s.pools kind)) ++
    (s.layers.toList.zipIdx.flatMap (fun (l, i) => layerCensus l i) ++
      s.elements.toList.flatMap fun (id, e) => elementCensus id e)

section Census

variable {s : Scene} {p : Place} {n : OwnedNode} {nodes : List OwnedNode}

@[simp] lemma map_positions (place : Nat → Place) : (positions place nodes).map (·.2) = nodes := by
  simp [positions, Function.comp_def]

@[simp] lemma mem_positions {place : Nat → Place} :
    (p, n) ∈ positions place nodes ↔ ∃ i, p = place i ∧ nodes[i]? = some n := by
  simp only [positions, List.mem_map, Prod.exists, List.mk_mem_zipIdx_iff_getElem?, Prod.mk.injEq]
  constructor
  · rintro ⟨m, i, hm, rfl, rfl⟩
    exact ⟨i, rfl, hm⟩
  · rintro ⟨i, rfl, hn⟩
    exact ⟨n, i, hn, rfl, rfl⟩

/-- The census lists all nodes, those on the shelves first. -/
lemma map_census (s : Scene) :
    (census s).map (·.2) =
      shelved s.pools ++ (stageNodes s.toStage ++ elementNodes s.elements) := by
  have layer (l : Layer) (i : Nat) : (layerCensus l i).map (·.2) = layerNodes l := by
    simp [layerCensus, layerNodes, Function.comp_def]
  have element (id : UInt32) (e : Element) : (elementCensus id e).map (·.2) = e.nodes := by
    simp [elementCensus, Element.nodes, Element.fittings]
  have layers (ls : List Layer) (k : Nat) :
      (ls.zipIdx k).flatMap (fun p => layerNodes p.1) = ls.flatMap layerNodes := by
    induction ls generalizing k with
    | nil => rfl
    | cons l ls ih => rw [List.zipIdx_cons, List.flatMap_cons, List.flatMap_cons, ih]
  simp only [census, List.map_append, List.map_flatMap, map_positions, layer, element, layers]
  rfl

/-- The census lists the occupants. -/
lemma mem_census : (p, n) ∈ census s ↔ occupant? s p = some n := by
  simp only [census, List.mem_append, List.mem_flatMap, mem_positions, Prod.exists,
    layerCensus, elementCensus,
    List.mem_cons, List.mem_map, Prod.mk.injEq, List.mk_mem_zipIdx_iff_getElem?,
    Array.getElem?_toList,
    Std.ExtTreeMap.mem_toList_iff_getElem?_eq_some]
  cases p with
  | shelf kind i =>
    have all : kind ∈ NodeKind.all := by cases kind <;> simp [NodeKind.all]
    simp [occupant?, all]
  | canvas layer => simp [occupant?, eq_comm]
  | overlay layer => simp [occupant?, eq_comm]
  | container layer id => simp [occupant?, Option.bind_eq_some_iff]
  | element id spot =>
    cases spot with
    | leaf => simp [occupant?, eq_comm]
    | part i => simp [occupant?, Option.bind_eq_some_iff]
    | option i => simp [occupant?, Option.bind_eq_some_iff]

end Census

section Places

variable {κ : Type} {base : Nat} {mount : NodeId} {h : MemoryHost κ} {s : Scene}
  {p q : Place} {n m : OwnedNode}

lemma map_census_id (s : Scene) : (census s).map (·.2.id) =
    (shelved s.pools ++ (stageNodes s.toStage ++ elementNodes s.elements)).map (·.id) := by
  rw [← map_census, List.map_map]
  rfl

/-- Nodes at two places are two nodes. -/
lemma Sound.place_unique (sound : Sound base mount s h) (hn : occupant? s p = some n)
    (hm : occupant? s q = some m) (same : n.id = m.id) : p = q := by
  have distinct := sound.stage.owned.nodup
  rw [← map_census_id] at distinct
  have eq := List.inj_on_of_nodup_map distinct (mem_census.2 hn) (mem_census.2 hm) same
  exact congrArg Prod.fst eq

/-- Every node from `base` on has its place. -/
lemma Sound.exists_place (sound : Sound base mount s h) {i : NodeId} (hi : h.document.issued i)
    (made : base ≤ i.index) :
    ∃ p n, occupant? s p = some n ∧ n.id = i := by
  have listed := sound.stage.owned.mem_iff.2 ⟨made, hi⟩
  rw [← map_census_id] at listed
  obtain ⟨⟨p, n⟩, hn, rfl⟩ := List.mem_map.1 listed
  exact ⟨p, n, mem_census.1 hn, rfl⟩

/-- What a place asks of its node. -/
def Place.wants (kind : NodeKind) : Place → Prop
  | .shelf k _ => kind = k
  | .canvas _ => kind = .canvas
  | .overlay _ | .container .. => kind = .div
  | .element .. => True

lemma Sound.kind_at (sound : Sound base mount s h) (hn : occupant? s p = some n) :
    (∃ node, h.document.node? n.id = some node ∧ node.kind = n.kind) ∧ p.wants n.kind := by
  constructor
  · have listed : n ∈ (census s).map (·.2) := List.mem_map_of_mem (mem_census.2 hn)
    rw [map_census, List.mem_append] at listed
    rcases listed with waiting | held
    · exact ⟨_, sound.stage.owned.fresh n waiting, rfl⟩
    · exact sound.stage.owned.kinds n held
  · cases p with
    | shelf kind i => exact sound.stage.owned.sorted kind n (List.mem_of_getElem? hn)
    | canvas layer =>
      obtain ⟨l, hl, rfl⟩ := Option.map_eq_some_iff.1 hn
      exact (sound.stage.layers layer l hl).1
    | overlay layer =>
      obtain ⟨l, hl, rfl⟩ := Option.map_eq_some_iff.1 hn
      exact (sound.stage.layers layer l hl).2.1
    | container layer id =>
      obtain ⟨l, hl, found⟩ := Option.bind_eq_some_iff.1 hn
      exact (sound.stage.frames layer l id n hl found).1
    | element id spot => trivial

/-- A scene without elements and containers holds canvases and overlays only, and the overlays are
childless. -/
lemma Sound.bare (sound : Sound base mount s h) (no_elements : s.elements = ∅)
    (no_containers : s.containers = ∅) :
    (∀ p n, occupant? s p = some n → (∃ kind i, p = .shelf kind i) ∨ (∃ i, p = .canvas i) ∨
      ∃ i, p = .overlay i) ∧
      ∀ (i : Nat) (l : Layer), s.layers[i]? = some l → h.document.children l.overlay.id = [] := by
  have no_frames (i : Nat) (l : Layer) (id : UInt32) (node : OwnedNode) (hl : s.layers[i]? = some l)
      (found : l.frames[id]? = some node) : False := by
    obtain ⟨_, c, hc, _⟩ := sound.stage.frames i l id node hl found
    simp [no_containers] at hc
  constructor
  · intro p n hn
    cases p with
    | shelf kind i => exact .inl ⟨kind, i, rfl⟩
    | canvas i => exact .inr (.inl ⟨i, rfl⟩)
    | overlay i => exact .inr (.inr ⟨i, rfl⟩)
    | container i id =>
      obtain ⟨l, hl, found⟩ := Option.bind_eq_some_iff.1 hn
      exact (no_frames i l id n hl found).elim
    | element id spot => cases spot <;> simp [occupant?, no_elements] at hn
  · intro i l hl
    refine List.eq_nil_iff_forall_not_mem.2 fun c hc => ?_
    have parent := (sound.stage.owned.linked c l.overlay.id).1 hc
    have overlay : l.overlay ∈ stageNodes s.toStage ++ elementNodes s.elements :=
      List.mem_append_left _ (mem_stageNodes.2 ⟨i, l, hl, mem_layerNodes.2 (.inr (.inl rfl))⟩)
    have not_foreign := sound.stage.owned.base_le_of_mem overlay
    have below_mount : l.overlay.id ≠ s.mount := by
      rintro eq
      have := sound.stage.mount
      rw [← eq] at this
      omega
    rcases sound.stage.holder_of_parent parent with foreign | staged | held
    · have := sound.stage.outside c _ parent foreign
      omega
    · obtain ⟨node, inside, rfl⟩ := List.mem_map.1 staged
      obtain ⟨j, l', hl', place⟩ := mem_stageNodes.1 inside
      have hangs := sound.stage.layers j l' hl'
      rcases mem_layerNodes.1 place with rfl | rfl | ⟨id, found⟩
      · exact below_mount (Option.some.inj (parent.symm.trans hangs.2.2.1))
      · exact below_mount (Option.some.inj (parent.symm.trans hangs.2.2.2))
      · exact no_frames j l' id node hl' found
    · obtain ⟨node, inside, _⟩ := List.mem_map.1 held
      obtain ⟨id, e, he, _⟩ := mem_elementNodes.1 inside
      simp [no_elements] at he

/-- On a page that was nothing but the mount, every other node is in one place and of the kind for
it, each pool accounts for what it made, no patch asks for a pool that is not there, and without
elements and containers only layers hold nodes. -/
theorem inventory_of_history [Core κ] {config : Config} {h₀ : MemoryHost κ}
    (reached : Reached h₀.document) (alone : h₀.document.nodes.size = 1)
    (there : h₀.document.issued mount) (history : History mount config h₀ s h) :
    (∀ i : NodeId, h.document.issued i → i ≠ mount → ∃! p, ∃ n, occupant? s p = some n ∧ n.id = i) ∧
    (∀ p n, occupant? s p = some n →
      (∃ node, h.document.node? n.id = some node ∧ node.kind = n.kind) ∧ p.wants n.kind) ∧
    (∀ kind, ∃ pool, s.pools.get? kind = some pool ∧ pool.created =
      pool.available + (stageNodes s.toStage ++ elementNodes s.elements).countP (·.kind = kind)) ∧
    (∀ p,
      Ends (Scene.apply p) s h (fun _ _ _ => True) (fun e _ _ => ∀ tag, e ≠ .unregisteredTag tag)
        fun _ => True) ∧
    (s.elements = ∅ → s.containers = ∅ →
      (∀ p n, occupant? s p = some n → (∃ kind i, p = .shelf kind i) ∨ (∃ i, p = .canvas i) ∨
        ∃ i, p = .overlay i) ∧
        ∀ (i : Nat) (l : Layer), s.layers[i]? = some l →
          h.document.children l.overlay.id = []) := by
  have sound := history.sound reached.tidy.linked there
  refine ⟨fun i hi other => ?_, fun p n hn => sound.kind_at hn, fun kind => ?_, fun p => ?_,
    fun e c => sound.bare e c⟩
  · have made : h₀.document.nodes.size ≤ i.index := by
      have first : mount.index < h₀.document.nodes.size := of_decide_eq_true there
      have apart : i.index ≠ mount.index := fun eq => other (by cases i; cases mount; simp_all)
      omega
    obtain ⟨p, n, hn, rfl⟩ := sound.exists_place hi made
    exact ⟨p, ⟨n, hn, rfl⟩, fun q ⟨m, hm, same⟩ => sound.place_unique hm hn same⟩
  · obtain ⟨pool, hp, _⟩ := sound.stage.owned.stocked kind
    have counted := sound.stage.owned.counted kind
    rw [made_of_get? hp, shelf_of_get? hp] at counted
    exact ⟨pool, hp, counted⟩
  · exact (sound.apply p).mono (fun _ _ _ _ => trivial)
      (fun _ _ _ kept => kept.2) fun _ _ => trivial

theorem inventory_after_a_refusal : ∃ (s : Scene) (h : MemoryHost Recorder),
    History ⟨0⟩ .standard blankPage s h ∧ (∃ e, s.elements[(9 : UInt32)]? = some e) ∧
      ∀ i : NodeId, h.document.issued i → i ≠ ⟨0⟩ → ∃! p, ∃ n,
      occupant? s p = some n ∧ n.id = i := by
  obtain ⟨s, h, history, lives⟩ := exists_history ⟨0⟩ .standard blankPage
    [.create .button ⟨7, none, 2⟩, .create .textbox ⟨8, some 5, 0⟩, .delete .button 7,
      .create .slider ⟨9, none, 0⟩]
    (fun s => s.elements[(9 : UInt32)]?.isSome) (by decide +kernel)
  refine ⟨s, h, history, Option.isSome_iff_exists.1 lives, ?_⟩
  exact (inventory_of_history reached_blankPage rfl rfl history).1

end Places

end LayeredPage.Proofs
