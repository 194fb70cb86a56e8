import LayeredPage.Proofs.Clipping
import LayeredPage.Proofs.Inventory

/-!
# Containers that are taken away

What counts when a container is to be removed are the children of its nodes. These are the leaves of
the elements in it and the nodes of the containers in it, over all layers and each once, so the
count says how many members the container has. Without members it goes with all its nodes and
nothing else.
-/

namespace LayeredPage.Proofs

open MemoryDocument

/-! ## Children are listed once -/

/-- The tree is linked, and no node is listed twice. -/
structure Listed (d : MemoryDocument) : Prop where
  linked : Linked d
  once : ∀ p, (d.children p).Nodup

section Documents

variable {d d' : MemoryDocument} {n p c : NodeId}

lemma Listed.of_children (listed : Listed d) (linked : Linked d')
    (same : ∀ m, d'.children m = d.children m) : Listed d' :=
  ⟨linked, fun m => by rw [same]; exact listed.once m⟩

lemma Listed.modify (listed : Listed d) {f : MemoryNode → MemoryNode}
    (hp : ∀ node, (f node).parent = node.parent)
    (hc : ∀ node, (f node).children = node.children) : Listed (d.modify n f) :=
  listed.of_children (listed.linked.modify hp hc) fun _ => children_modify hc

lemma Listed.of_nodes (listed : Listed d) (same : d'.nodes = d.nodes) : Listed d' :=
  listed.of_children (listed.linked.of_nodes same) fun _ => children_of_nodes same

lemma Listed.create (listed : Listed d) (kind : NodeKind) : Listed (d.create kind).2 :=
  listed.of_children (listed.linked.create kind) fun _ => children_create kind

lemma Listed.append (listed : Listed d) (hp : d.issued p) (hc : d.issued c) :
    Listed (d.append p c) := by
  refine ⟨listed.linked.append hp hc, fun m => ?_⟩
  rw [children_append listed.linked hp, List.nodup_append]
  refine ⟨(listed.once m).filter _, by split <;> simp, fun a ha b hb => ?_⟩
  split at hb
  · rintro rfl
    simp_all
  · cases hb

/-- Every answered request keeps it so. -/
lemma Listed.answered (listed : Listed d) {r : DocumentRequest} {reply : r.Reply}
    (run : answer r d = .ok (reply, d')) :
    Listed d' := by
  cases r with
  | createElement kind =>
    cases run
    exact listed.create kind
  | appendChild p c =>
    obtain ⟨hc, run⟩ := require_inv run
    obtain ⟨hp, run⟩ := require_inv run
    cases run
    exact listed.append hp hc
  | detach n =>
    cases (require_inv run).2
    refine ⟨listed.linked.of_detach, fun m => ?_⟩
    rw [children_detach listed.linked]
    exact (listed.once m).filter _
  | reset n =>
    cases (require_inv run).2
    refine ⟨listed.linked.reset, fun m => ?_⟩
    rw [children_reset listed.linked]
    split
    · exact List.nodup_nil
    · exact (listed.once m).filter _
  | setInnerHtml n html | setText n text =>
    cases (require_inv run).2
    refine ⟨listed.linked.setHtml _, fun m => ?_⟩
    rw [children_setHtml listed.linked]
    split
    · exact List.nodup_nil
    · exact listed.once m
  | parent n | childCount n | innerHtml n | surfaceMetrics n =>
    rw [read_inv run]
    exact listed
  | setAttribute n | removeAttribute n | setStyle n | removeStyle n | setLinkStyle n
    | setForm n | bindInput n
  | clearSurface n | resizeSurface n =>
    rw [change_inv run]
    exact listed.modify (fun _ => rfl) fun _ => rfl
  | setRootProperty | removeRootProperty | loadFace | loadImage | focus | observeSize
    | unobserveSize | sampleScroll
  | cancelSampler =>
    cases run
    exact listed.of_nodes rfl
  | scrollDelta sampler now =>
    obtain rfl : _ = d' := congrArg Prod.snd (Except.ok.inj run)
    dsimp only
    split
    · exact listed.of_nodes rfl
    · exact listed

theorem Reached.listed (reached : Reached d) : Listed d := by
  induction reached with
  | empty =>
    exact ⟨Reached.empty.tidy.linked, fun p =>
      by simp [MemoryDocument.children, node?, MemoryDocument.empty]⟩
  | asked _ _ run listed => exact listed.answered run
  | fired _ run listed =>
    rcases fire_inv run with rfl | ⟨state, rfl⟩
    · exact listed
    · exact listed.modify (fun _ => rfl) fun _ => rfl
  | laidOut n width height _ listed => exact listed.modify (fun _ => rfl) fun _ => rfl
  | tracked sampler f _ listed => exact listed.of_nodes rfl

end Documents

/-! ## Members -/

/-- The elements in a container. -/
def residents (elements : Std.ExtTreeMap UInt32 Element) (c : UInt32) : List Element :=
  (elements.toList.filter fun p => decide (p.2.frame = some c)).map (·.2)

/-- The nodes of the containers in a container, on all layers. -/
def lodgers (s : Stage) (c : UInt32) : List OwnedNode :=
  s.layers.toList.flatMap fun l =>
    (l.frames.toList.filter fun p => (s.containers[p.1]?).any fun inner =>
      decide (inner.parent = some c)).map (·.2)

/-- How many members a container has. -/
def occupancy (s : Scene) (c : UInt32) : Nat :=
  (residents s.elements c).length + (lodgers s.toStage c).length

section Members

variable {κ : Type} {base i j : Nat} {mount : NodeId} {h : MemoryHost κ} {s : Scene}
  {c : UInt32} {e : Element} {node : OwnedNode} {n t : NodeId} {x y : Option UInt32}

lemma mem_residents :
    e ∈ residents s.elements c ↔
      ∃ id : UInt32, s.elements[id]? = some e ∧ e.frame = some c := by
  simp [residents, Std.ExtTreeMap.mem_toList_iff_getElem?_eq_some]

lemma mem_lodgers : node ∈ lodgers s.toStage c ↔ ∃ (i : Nat) (l : Layer) (id : UInt32)
    (inner : Container),
    s.layers[i]? = some l ∧ l.frames[id]? = some node ∧ s.containers[id]? = some inner ∧
    inner.parent = some c := by
  simp only [lodgers, List.mem_flatMap, List.mem_map, List.mem_filter, Prod.exists,
    Array.mem_toList_iff, Array.mem_iff_getElem?,
    Std.ExtTreeMap.mem_toList_iff_getElem?_eq_some, Option.any_eq_true, decide_eq_true_eq]
  constructor
  · rintro ⟨l, ⟨i, hl⟩, id, _, ⟨found, inner, known, parent⟩, rfl⟩
    exact ⟨i, l, id, inner, hl, found, known, parent⟩
  · rintro ⟨i, l, id, inner, hl, found, known, parent⟩
    exact ⟨l, ⟨i, hl⟩, id, node, ⟨found, inner, known, parent⟩, rfl⟩

/-- Nobody is a member if no element and no container is in it. -/
lemma occupancy_eq_zero : occupancy s c = 0 ↔
    (∀ (id : UInt32) (e : Element), s.elements[id]? = some e → e.frame ≠ some c) ∧
    ∀ (i : Nat) (l : Layer) (id : UInt32) (node : OwnedNode) (inner : Container),
    s.layers[i]? = some l →
      l.frames[id]? = some node → s.containers[id]? = some inner → inner.parent ≠ some c := by
  rw [occupancy, Nat.add_eq_zero_iff, List.length_eq_zero_iff, List.length_eq_zero_iff,
    List.eq_nil_iff_forall_not_mem,
    List.eq_nil_iff_forall_not_mem]
  refine and_congr ?_ ?_
  · exact ⟨fun none_in id e he frame => none_in e (mem_residents.2 ⟨id, he, frame⟩),
      fun none_in e he => by
      obtain ⟨id, he, frame⟩ := mem_residents.1 he
      exact none_in id e he frame⟩
  · exact ⟨fun none_in i l id node inner hl hn known parent =>
      none_in node (mem_lodgers.2 ⟨i, l, id, inner, hl, hn, known, parent⟩),
      fun none_in node hn => by
        obtain ⟨i, l, id, inner, hl, hn, known, parent⟩ := mem_lodgers.1 hn
        exact none_in i l id node inner hl hn known parent⟩

lemma sublist_leaves (es : List (UInt32 × Element)) (which : UInt32 × Element → Bool) :
    ((es.filter which).map (·.2.leaf)).Sublist (es.flatMap (·.2.nodes)) := by
  induction es with
  | nil => exact .slnil
  | cons p es ih =>
    rw [List.filter_cons, List.flatMap_cons]
    split
    · exact (ih.trans (List.sublist_append_right _ _)).cons_cons _
    · exact ih.trans (List.sublist_append_right _ _)

lemma sublist_frames (ls : List Layer) (which : UInt32 × OwnedNode → Bool) :
    (ls.flatMap fun l => (l.frames.toList.filter which).map (·.2)).Sublist
      (ls.flatMap layerNodes) := by
  induction ls with
  | nil => exact .slnil
  | cons l ls ih =>
    have own : ((l.frames.toList.filter which).map (·.2)).Sublist (layerNodes l) :=
      (List.filter_sublist.map _).trans
        ((List.sublist_cons_self _ _).trans (List.sublist_cons_self _ _))
    exact own.append ih

/-- Members are different nodes. -/
lemma Sound.nodup_members (sound : Sound base mount s h) (c : UInt32) :
    ((residents s.elements c).map (·.leaf.id) ++ (lodgers s.toStage c).map (·.id)).Nodup := by
  have leaves : ((residents s.elements c).map (·.leaf)).Sublist (elementNodes s.elements) := by
    rw [residents, List.map_map]
    exact sublist_leaves _ _
  have frames : (lodgers s.toStage c).Sublist (stageNodes s.toStage) := sublist_frames _ _
  have part := (leaves.append frames).map (·.id)
  rw [List.map_append, List.map_map] at part
  refine part.nodup ?_
  have distinct := sound.stage.owned.nodup
  rw [List.map_append, List.nodup_append] at distinct
  exact (List.perm_append_comm.map _).nodup_iff.1 distinct.2.1

/-- The node that members of a container hang from is no other container's, and of one layer. -/
lemma Sound.target_unique (sound : Sound base mount s h) (ht : target? s.toStage i x = some t)
    (hs : target? s.toStage j y = some t) : i = j ∧ x = y := by
  have place (i : Nat) (x : Option UInt32) (ht : target? s.toStage i x = some t) :
      ∃ n, occupant? s (x.elim (.overlay i) (.container i)) = some n ∧ n.id = t := by
    cases x with
    | none =>
      obtain ⟨l, hl, rfl⟩ := Option.map_eq_some_iff.1 ht
      exact ⟨l.overlay, by simp [occupant?, hl], rfl⟩
    | some id =>
      obtain ⟨l, hl, found⟩ := Option.bind_eq_some_iff.1 ht
      obtain ⟨node, hn, rfl⟩ := Option.map_eq_some_iff.1 found
      exact ⟨node, by simp [occupant?, hl, hn], rfl⟩
  obtain ⟨n, hn, here⟩ := place i x ht
  obtain ⟨m, hm, there⟩ := place j y hs
  have same := sound.place_unique hn hm (here.trans there.symm)
  cases x <;> cases y <;> simp_all

/-- What hangs from the nodes of a container are its members. -/
lemma Sound.below_container (sound : Sound base mount s h) :
    (∃ i t, target? s.toStage i (some c) = some t ∧ h.document.parent? n = some t) ↔
      n ∈ (residents s.elements c).map (·.leaf.id) ++ (lodgers s.toStage c).map (·.id) := by
  have held {i : Nat} {x : Option UInt32} {ns : List NodeId} (chain : Chain s.toStage i x ns) :
      ∃ t, target? s.toStage i x = some t := by
    obtain ⟨t, _, _, ht⟩ := chain.head
    exact ⟨t, ht⟩
  rw [List.mem_append]
  constructor
  · rintro ⟨i, t, ht, parent⟩
    have inside := target?_mem ht
    have made : base ≤ t.index := by
      obtain ⟨m, hm, rfl⟩ := List.mem_map.1 inside
      exact sound.stage.owned.base_le_of_mem (List.mem_append_left _ hm)
    have other : s.mount ≠ t := by
      rintro rfl
      exact absurd made (Nat.not_le.2 sound.stage.mount)
    rcases sound.stage.holder_of_parent parent with foreign | stage | element
    · exact absurd made (Nat.not_le.2 (sound.stage.outside n t parent foreign))
    · obtain ⟨m, hm, rfl⟩ := List.mem_map.1 stage
      obtain ⟨j, l, hl, place⟩ := mem_stageNodes.1 hm
      obtain ⟨_, _, canvas, overlay⟩ := sound.stage.layers j l hl
      rcases mem_layerNodes.1 place with rfl | rfl | ⟨id, found⟩
      · exact absurd (Option.some.inj (canvas.symm.trans parent)) other
      · exact absurd (Option.some.inj (overlay.symm.trans parent)) other
      · obtain ⟨_, inner, known, above, _⟩ := sound.stage.frames j l id m hl found
        obtain ⟨rfl, same⟩ := sound.target_unique (above.symm.trans parent) ht
        exact .inr (List.mem_map_of_mem (mem_lodgers.2 ⟨j, l, id, inner, hl, found, known, same⟩))
    · obtain ⟨m, hm, rfl⟩ := List.mem_map.1 element
      obtain ⟨id, e, he, own⟩ := mem_elementNodes.1 hm
      rcases List.mem_cons.1 own with rfl | below
      · obtain ⟨above, _⟩ := sound.placed id e he
        obtain ⟨rfl, same⟩ := sound.target_unique (above.symm.trans parent) ht
        exact .inl (List.mem_map_of_mem (mem_residents.2 ⟨id, he, same⟩))
      -- Fittings hang from their own element, never from the stage.
      · have family := (sound.families id e he m.id t parent).2 (List.mem_map_of_mem below)
        obtain ⟨k, hk, rfl⟩ := List.mem_map.1 family
        exact absurd (.inr inside)
          (sound.stage.apart (List.mem_map_of_mem (mem_elementNodes.2 ⟨id, e, he, hk⟩)))
  · rintro (leaf | lodger)
    · obtain ⟨e, he, rfl⟩ := List.mem_map.1 leaf
      obtain ⟨id, he, frame⟩ := mem_residents.1 he
      obtain ⟨above, ns, chain⟩ := sound.placed id e he
      obtain ⟨t, ht⟩ := held chain
      exact ⟨e.layer.toNat, t, frame ▸ ht, above.trans ht⟩
    · obtain ⟨node, hn, rfl⟩ := List.mem_map.1 lodger
      obtain ⟨i, l, id, inner, hl, found, known, parent⟩ := mem_lodgers.1 hn
      obtain ⟨_, inner', known', above, ns, chain⟩ := sound.stage.frames i l id node hl found
      obtain rfl := Option.some.inj (known.symm.trans known')
      cases chain with
      | inner known' _ _ outer =>
        obtain rfl := Option.some.inj (known.symm.trans known')
        obtain ⟨t, ht⟩ := held outer
        exact ⟨i, t, parent ▸ ht, above.trans ht⟩

/-- The children of a container's nodes are as many as its members. -/
lemma Sound.total_children (sound : Sound base mount s h)
    (listed : Listed h.document) (c : UInt32) :
    Stage.total ((s.instances c).map fun p => (h.document.children p.2.id).length) =
      occupancy s c := by
  have counted (ps : List (Nat × OwnedNode)) :
      Stage.total (ps.map fun p => (h.document.children p.2.id).length) =
        (ps.flatMap fun p => h.document.children p.2.id).length := by
    induction ps with
    | nil => rfl
    | cons p ps ih =>
      rw [List.flatMap_cons, List.length_append, ← ih]
      rfl
  have here (p) (hp : p ∈ s.instances c) : target? s.toStage p.1 (some c) = some p.2.id := by
    obtain ⟨l, hl, hn⟩ := mem_instances.1 hp
    exact target?_some hl hn
  have once : ((s.instances c).flatMap fun p => h.document.children p.2.id).Nodup := by
    refine List.nodup_flatMap.2 ⟨fun p _ => listed.once _, ?_⟩
    refine pairwise_instances.imp_of_mem fun {p q} hp hq apart n below below' => apart ?_
    have parent := (listed.linked n _).1 below
    rw [(listed.linked n _).1 below', Option.some.injEq] at parent
    exact (sound.target_unique (here p hp) (parent ▸ here q hq)).1
  have perm : ((s.instances c).flatMap fun p => h.document.children p.2.id).Perm
      ((residents s.elements c).map (·.leaf.id) ++ (lodgers s.toStage c).map (·.id)) := by
    refine (List.perm_ext_iff_of_nodup once (sound.nodup_members c)).2 fun n => ?_
    rw [← sound.below_container, List.mem_flatMap]
    constructor
    · rintro ⟨p, hp, below⟩
      exact ⟨p.1, p.2.id, here p hp, (listed.linked n _).1 below⟩
    · rintro ⟨i, t, ht, parent⟩
      obtain ⟨l, hl, found⟩ := Option.bind_eq_some_iff.1 ht
      obtain ⟨node, hn, rfl⟩ := Option.map_eq_some_iff.1 found
      exact ⟨(i, node), mem_instances.2 ⟨l, hl, hn⟩, (listed.linked n _).2 parent⟩
  rw [counted, perm.length_eq, List.length_append, List.length_map, List.length_map]
  rfl

end Members

/-! ## What goes with a container -/

/-- These nodes are on the shelves again, the last of them on top. -/
def Restocked (nodes : List OwnedNode) (ps ps' : NodePools) : Prop :=
  ∀ kind, shelf ps' kind = (nodes.filter fun n => decide (n.kind = kind)).reverse ++ shelf ps kind ∧
    made ps' kind = made ps kind

/-- The layer without the node of a container. -/
def unframed (id : UInt32) (l : Layer) : Layer := { l with frames := l.frames.erase id }

/-- The document after some nodes were reset. -/
def emptied (ns : List NodeId) (d : MemoryDocument) : MemoryDocument := ns.foldl reset d

lemma emptied_append (ns ns' : List NodeId) (d : MemoryDocument) :
    emptied (ns ++ ns') d = emptied ns' (emptied ns d) :=
  List.foldl_append

section Removing

variable {κ : Type} [Core κ] {h : MemoryHost κ} {s : Stage} {d : MemoryDocument}
  {ps ps' ps'' : NodePools}
  {nodes nodes' : List OwnedNode} {n : OwnedNode} {m : NodeId} {ns : List NodeId} {id : UInt32}

lemma Restocked.trans (first : Restocked nodes ps ps') (second : Restocked nodes' ps' ps'') :
    Restocked (nodes ++ nodes') ps ps'' := by
  intro kind
  obtain ⟨shelf₁, made₁⟩ := first kind
  obtain ⟨shelf₂, made₂⟩ := second kind
  rw [shelf₂, shelf₁, List.filter_append, List.reverse_append, List.append_assoc]
  exact ⟨rfl, made₂.trans made₁⟩

lemma put_restocks (stocked : Stocked true ps) (hn : h.document.issued n.id) :
    Yields (Pools.put n.kind n : Work NodePools Unit) ps h fun _ ps' h' =>
      Stocked true ps' ∧ Restocked [n] ps ps' ∧
      h' = { h with document := h.document.reset n.id } := by
  obtain ⟨p, hp, keeps, _, reset⟩ := stocked n.kind
  refine (ends_put hp _ _).2 ((answers_put reset hn _).2 ?_)
  rw [if_pos keeps]
  refine ⟨stocked.set hp rfl rfl rfl, fun kind => ?_, rfl⟩
  rw [shelf_set, made_set]
  by_cases same : kind = n.kind
  · simp [same, shelf_of_get? hp, made_of_get? hp]
  · simp [same, Ne.symm same]

lemma issued_reset {n : NodeId} :
    (d.reset n).issued m = d.issued m := by rw [issued, issued, size_reset]

lemma unframed_comp_unframed : unframed id ∘ unframed id = unframed id := by
  funext l
  simp only [Function.comp_apply, unframed, erase_erase_eq]

/-- The nodes of a container are given back, layer by layer. -/
lemma withdrawAll_exact (found : List (Nat × OwnedNode)) {s : Stage} {h : MemoryHost κ}
    (stocked : Stocked true s.pools)
    (there : ∀ p ∈ found, h.document.issued p.2.id ∧ p.2.kind = .div) :
    Yields (found.forM fun (layer, node) => Stage.withdraw id layer node) s h fun _ s' h' =>
      ∃ ps layers, s' = { s with pools := ps, layers } ∧ Restocked (found.map (·.2)) s.pools ps ∧
        (∀ i : Nat,
          layers[i]? =
            if i ∈ found.map (·.1) then (s.layers[i]?).map (unframed id) else s.layers[i]?) ∧
        h' = { h with document := emptied (found.map (·.2.id)) h.document } := by
  induction found generalizing s h with
  | nil => exact ⟨s.pools, s.layers, rfl, fun _ => ⟨rfl, rfl⟩, fun _ => by simp, rfl⟩
  | cons p found ih =>
    obtain ⟨layer, node⟩ := p
    obtain ⟨known, kind⟩ := there _ List.mem_cons_self
    refine (ends_bind _ _ _).2
      ((ends_bind _ _ _).2 ((ends_modify _ _).2 ((ends_onPools _ _ _).2 ?_)))
    dsimp only at kind known ⊢
    rw [← kind]
    refine (put_restocks stocked known).ends ?_
    rintro _ ps h₁ ⟨stocked₁, restocked, rfl⟩
    refine (ih (s := { s with pools := ps, layers := s.layers.modify layer (unframed id) }) stocked₁
      fun q hq => ?_).ends ?_
    · rw [issued_reset]
      exact there q (List.mem_cons_of_mem _ hq)
    rintro _ s₂ h₂ ⟨ps₂, layers, rfl, restocked₂, same, rfl⟩
    refine ⟨ps₂, layers, rfl, restocked.trans restocked₂, fun i => ?_, rfl⟩
    rw [same i, List.map_cons]
    by_cases here : i = layer
    · subst here
      rw [Array.getElem?_modify, if_pos rfl, if_pos List.mem_cons_self]
      split
      · rw [Option.map_map, unframed_comp_unframed]
      · rfl
    · rw [Array.getElem?_modify, if_neg (Ne.symm here)]
      simp only [List.mem_cons, here, false_or]

lemma node?_emptied (linked : Linked d) (childless : ∀ n ∈ ns, d.children n = []) :
    (emptied ns d).node? m =
    if m ∈ ns then (d.node? m).map fun node => .fresh node.kind
    else (d.node? m).map (regrouped fun cs => cs.filter (· ∉ ns)) := by
  unfold emptied
  induction ns generalizing d with
  | nil => simp [map_regrouped_id]
  | cons n ns ih =>
    have none_below := childless n List.mem_cons_self
    have still (k) (hk : k ∈ ns) : (d.reset n).children k = [] := by
      rw [children_reset linked, childless k (List.mem_cons_of_mem _ hk)]
      split <;> rfl
    have alone : d.parent? m ≠ some n := by
      rw [ne_eq, ← linked, none_below]
      exact List.not_mem_nil
    rw [List.foldl_cons, ih linked.reset still, node?_reset linked]
    cases found : d.node? m with
    | none => simp
    | some node =>
      rw [parent?_of_node? found] at alone
      by_cases first : m = n
      · by_cases later : n ∈ ns <;> simp [first, later, regrouped, MemoryNode.fresh]
      · by_cases later : m ∈ ns
        · simp [first, later, without]
        · simp [first, later, without, alone, regrouped, List.filter_filter, Bool.and_comm]

lemma exists_emptied (ns : List NodeId) (d : MemoryDocument) :
    ∃ nodes observed focused, emptied ns d = { d with nodes, observed, focused } ∧
    (∀ i, i ∈ observed ↔ i ∈ d.observed ∧ i ∉ ns.map (·.index)) ∧
    focused = d.focused.filter (· ∉ ns) := by
  unfold emptied
  induction ns generalizing d with
  | nil => exact ⟨_, _, _, rfl, by simp, by cases d.focused <;> rfl⟩
  | cons n ns ih =>
    obtain ⟨nodes, eq, _⟩ := exists_reset (d := d) (n := n)
    obtain ⟨nodes', observed, focused, eq', watched, focus⟩ := ih (d := d.reset n)
    rw [eq] at watched focus
    refine ⟨nodes', observed, focused, ?_, fun i => ?_, ?_⟩
    · rw [List.foldl_cons, eq', eq]
    · rw [watched, Std.ExtTreeSet.mem_erase, compare_eq_iff_eq.ne, List.map_cons, List.mem_cons]
      tauto
    · rw [focus]
      cases on : d.focused with
      | none => rfl
      | some k =>
        by_cases first : k = n
        · simp [first, Option.filter]
        · simp [first, Option.filter]

end Removing

/-- A container is gone, and its nodes with it: they are on their shelf, in their empty state, and
out of the lists of children. The rest is as it was. -/
structure Vacated {κ : Type} (s : Scene) (h : MemoryHost κ) (c : UInt32) (s' : Scene)
    (h' : MemoryHost κ) : Prop where
  containers : s'.containers = s.containers.erase c
  layers : s'.layers = s.layers.map (unframed c)
  shelf : shelf s'.pools .div = ((s.instances c).map (·.2)).reverse ++ shelf s.pools .div
  shelves : ∀ kind ≠ .div, Proofs.shelf s'.pools kind = Proofs.shelf s.pools kind
  made : ∀ kind, made s'.pools kind = made s.pools kind
  scene : s' = { s with pools := s'.pools, layers := s'.layers, containers := s'.containers }
  gone : ∀ m ∈ (s.instances c).map (·.2.id), h'.document.node? m = some (.fresh .div)
  kept :
    Lost ((s.instances c).map (·.2.id)) (· ∉ (s.instances c).map (·.2.id)) h.document h'.document
  root : h'.document.rootProperties = h.document.rootProperties.erase (Container.clipProperty c)
  observed : ∀ m, m ∉ (s.instances c).map (·.2.id) →
    (m.index ∈ h'.document.observed ↔ m.index ∈ h.document.observed)
  focused : h'.document.focused = h.document.focused.filter (· ∉ (s.instances c).map (·.2.id))
  document : h'.document = { h.document with
    nodes := h'.document.nodes
    rootProperties := h'.document.rootProperties
    observed := h'.document.observed
    focused := h'.document.focused }
  core : h'.core = h.core

section Histories

variable {κ : Type} {base : Nat} {mount : NodeId} {config : Config} {h₀ h : MemoryHost κ}
  {s : Scene} {c : UInt32}

/-- The nodes of a container are divs that were issued. -/
lemma Sound.instances_there (sound : Sound base mount s h) {p : Nat × OwnedNode}
    (hp : p ∈ s.instances c) :
    (∃ node, h.document.node? p.2.id = some node ∧ node.kind = .div) ∧ p.2.kind = .div := by
  obtain ⟨l, hl, hn⟩ := mem_instances.1 hp
  have kind := (sound.stage.frames p.1 l c p.2 hl hn).1
  have held : p.2 ∈ stageNodes s.toStage ++ elementNodes s.elements :=
    List.mem_append_left _ (mem_stageNodes.2 ⟨p.1, l, hl, mem_layerNodes.2 (.inr (.inr ⟨c, hn⟩))⟩)
  obtain ⟨node, found, same⟩ := sound.stage.owned.kinds p.2 held
  exact ⟨⟨node, found, same.trans kind⟩, kind⟩

/-- What is left when all nodes of a container were given back. -/
lemma Sound.vacated (sound : Sound base mount s h)
    (childless : ∀ n ∈ (s.instances c).map (·.2.id), h.document.children n = [])
    {ps : NodePools} {layers : Array Layer}
    (restocked : Restocked ((s.instances c).map (·.2)) s.pools ps) (places : ∀ i : Nat, layers[i]? =
      if i ∈ (s.instances c).map (·.1) then (s.layers[i]?).map
        (unframed c) else s.layers[i]?) {d : MemoryDocument}
    (doc : d = emptied ((s.instances c).map (·.2.id)) h.document) :
    Vacated s h c { s with pools := ps, layers, containers := s.containers.erase c }
      { h with document := { d with rootProperties := d.rootProperties.erase (Container.clipProperty
        c) } } := by
  have records (m : NodeId) := node?_emptied (m := m) sound.stage.owned.linked childless
  obtain ⟨nodes, observed, focused, eq, watched, focus⟩ :=
    exists_emptied ((s.instances c).map (·.2.id)) h.document
  rw [eq] at doc records
  subst doc
  have div (n : OwnedNode) (hn : n ∈ (s.instances c).map (·.2)) : n.kind = .div := by
    obtain ⟨p, hp, rfl⟩ := List.mem_map.1 hn
    exact (sound.instances_there hp).2
  refine ⟨rfl, ?_, ?_, ?_, fun kind => (restocked kind).2, rfl, ?_, ?_, rfl, ?_, focus, rfl, rfl⟩
  · refine Array.ext_getElem? fun i => ?_
    rw [places i, Array.getElem?_map]
    split
    · rfl
    next absent =>
      cases hl : s.layers[i]? with
      | none => rfl
      | some l =>
        have bare : l.frames[c]? = none := Option.eq_none_iff_forall_ne_some.2 fun node hn =>
          absent (List.mem_map_of_mem (f := Prod.fst) (mem_instances.2 ⟨l, hl, hn⟩))
        rw [Option.map_some, unframed, erase_of_new bare]
  · have all : ((s.instances c).map (·.2)).filter (fun n => decide (n.kind = .div)) =
        (s.instances c).map (·.2) :=
      List.filter_eq_self.2 fun n hn => decide_eq_true (div n hn)
    exact all ▸ (restocked .div).1
  · intro kind other
    have none_of : ((s.instances c).map (·.2)).filter (fun n => decide (n.kind = kind)) = [] :=
      List.filter_eq_nil_iff.2 fun n hn => by simp [div n hn, other.symm]
    have back := (restocked kind).1
    rwa [none_of] at back
  · intro m hm
    obtain ⟨p, hp, rfl⟩ := List.mem_map.1 hm
    obtain ⟨⟨node, found, kind⟩, _⟩ := sound.instances_there hp
    have record := (records p.2.id).trans (if_pos hm)
    rwa [found, Option.map_some, kind] at record
  · exact fun m hm => (records m).trans (if_neg hm)
  · intro m hm
    refine (watched m.index).trans (and_iff_left fun inside => hm ?_)
    obtain ⟨n, hn, same⟩ := List.mem_map.1 inside
    rwa [show m = n from congrArg NodeId.mk same.symm]

variable [Core κ]

/-- A container without members goes with its nodes; one with members stays, and the refusal tells
how many there are. -/
theorem Sound.vacate (sound : Sound base mount s h) (listed : Listed h.document)
    (registered : c ∈ s.containers) :
    Ends (Stage.removeContainer c) s.toStage h
      (fun _ s' h' => occupancy s c = 0 ∧ Vacated s h c { s with toStage := s' } h')
      (fun why s' h' => 0 < occupancy s c ∧ why = .containerInUse c (occupancy s c) ∧
        s' = s.toStage ∧ h' = h)
      (fun _ => False) := by
  unfold Stage.removeContainer
  refine (ends_bind _ _ _).2 ((ends_get _).2 ?_)
  dsimp only
  have there (p) (hp : p ∈ s.instances c) : h.document.issued p.2.id ∧ p.2.kind = .div := by
    obtain ⟨⟨node, found, _⟩, kind⟩ := sound.instances_there hp
    exact ⟨issued_of_node? found, kind⟩
  rw [Std.ExtTreeMap.contains_iff_mem.2 registered]
  refine (ends_bind _ _ _).2 ((ends_childCounts _ (fun p hp => (there p hp).1) _).2 ?_)
  have counted := sound.total_children listed c
  rw [counted]
  split
  · next members => exact ⟨members, rfl, rfl, rfl⟩
  next vacant =>
    have none_in := Nat.eq_zero_of_not_pos vacant
    have childless (n) (hn : n ∈ (s.instances c).map (·.2.id)) : h.document.children n = [] := by
      obtain ⟨p, hp, rfl⟩ := List.mem_map.1 hn
      exact List.length_eq_zero_iff.1
        (total_eq_zero.1 (counted.trans none_in) _ (List.mem_map_of_mem hp))
    refine (ends_bind _ _ _).2
      ((withdrawAll_exact (s.instances c) sound.stage.owned.stocked there).ends ?_)
    rintro _ s₁ h₁ ⟨ps, layers, rfl, restocked, places, rfl⟩
    exact (ends_bind _ _ _).2
      ((ends_modify _ _).2 ⟨none_in, sound.vacated childless restocked places rfl⟩)

/-- After any history a registered container is removed exactly when no element and no container
with a node is in it. Then it goes with its nodes and leaves the rest alone; otherwise the refusal
counts its members and changes nothing. -/
theorem removal_of_history (reached : Reached h₀.document) (there : h₀.document.issued mount)
    (history : History mount config h₀ s h) (registered : c ∈ s.containers) :
    Ends (Scene.apply (.deleteFrame c)) s h
      (fun _ s' h' => occupancy s c = 0 ∧ Vacated s h c s' h')
      (fun why s' h' => 0 < occupancy s c ∧
        why = .containerInUse c (occupancy s c) ∧ s' = s ∧ h' = h)
      (fun _ => False) ∧
    (occupancy s c = 0 ↔
      (∀ (id : UInt32) (e : Element), s.elements[id]? = some e → e.frame ≠ some c) ∧
      ∀ (i : Nat) (l : Layer) (id : UInt32) (node : OwnedNode) (inner : Container),
      s.layers[i]? = some l →
        l.frames[id]? = some node → s.containers[id]? = some inner → inner.parent ≠ some c) := by
  have sound := history.sound reached.tidy.linked there
  have listed : Listed h.document :=
    history.keeps (fun listed run => listed.answered run) reached.listed
  refine ⟨(ends_onStage _ _ _).2 ((sound.vacate listed registered).mono ?_ ?_ fun _ => id),
    occupancy_eq_zero⟩
  · exact fun _ _ _ done => done
  · rintro why s' h' ⟨members, eq, rfl, rfl⟩
    exact ⟨members, eq, rfl, rfl⟩

theorem removal_beside_members :
    ∃ (s : Scene) (h : MemoryHost Recorder), History ⟨0⟩ .standard blankPage s h ∧
    (s.instances 3).length = 1 ∧
    Ends (Scene.apply (.deleteFrame 1)) s h (fun _ _ _ => False)
      (fun why s' h' => why = .containerInUse 1 2 ∧ s' = s ∧ h' = h) (fun _ => False) ∧
    Yields (Scene.apply (.deleteFrame 3)) s h fun _ s' h' => Vacated s h 3 s' h' := by
  obtain ⟨s, h, history, test⟩ := exists_history ⟨0⟩ .standard blankPage
    [.createFrame ⟨1, none, 0⟩, .createFrame ⟨2, some 1, 0⟩, .createFrame ⟨3, none, 0⟩,
      .create .button ⟨7, some 2, 1⟩, .restack 7 2 0, .create .textbox ⟨8, some 3, 1⟩,
      .delete .textbox 8]
    (fun s => s.containers.contains 1 && s.containers.contains 3 && decide (occupancy s 1 = 2) &&
      decide (occupancy s 3 = 0) &&
      decide ((s.instances 3).length = 1)) (by decide +kernel)
  simp only [Bool.and_eq_true, decide_eq_true_eq] at test
  obtain ⟨⟨⟨⟨one, three⟩, two_members⟩, none_in⟩, still⟩ := test
  refine ⟨s, h, history, still, ?_, ?_⟩
  · refine (removal_of_history reached_blankPage rfl history
      (Std.ExtTreeMap.contains_iff_mem.1 one)).1.mono ?_ ?_ fun _ => id
    · rintro _ _ _ ⟨vacant, _⟩
      omega
    · rintro why s' h' ⟨_, rfl, same⟩
      exact ⟨by rw [two_members], same⟩
  · refine (removal_of_history reached_blankPage rfl history
      (Std.ExtTreeMap.contains_iff_mem.1 three)).1.mono ?_ ?_ fun _ => id
    · exact fun _ _ _ done => done.2
    · rintro _ _ _ ⟨members, _⟩
      omega

end Histories

end LayeredPage.Proofs
