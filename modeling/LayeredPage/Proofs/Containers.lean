import LayeredPage.Proofs.Growing

/-!
# Containers come and go

A container is removed only when its nodes have no children. So nothing hangs below the nodes that
are given back, and every chain that does not start at them stays whole.
-/

namespace LayeredPage.Proofs

open MemoryDocument

section Instances

variable {s : Stage} {id : UInt32} {i : Nat} {node : OwnedNode}

lemma mem_instances :
    (i, node) ∈ s.instances id ↔ ∃ l, s.layers[i]? = some l ∧ l.frames[id]? = some node := by
  simp only [Stage.instances, List.mem_filterMap, Prod.exists, List.mk_mem_zipIdx_iff_getElem?,
    Option.map_eq_some_iff, Prod.mk.injEq, Array.getElem?_toList]
  constructor
  · rintro ⟨l, j, hl, n, hn, rfl, rfl⟩
    exact ⟨l, hl, hn⟩
  · rintro ⟨l, hl, hn⟩
    exact ⟨l, i, hl, node, hn, rfl, rfl⟩

lemma pairwise_instances : (s.instances id).Pairwise fun p q => p.1 ≠ q.1 := by
  have distinct : s.layers.toList.zipIdx.Pairwise fun p q => p.2 ≠ q.2 :=
    List.pairwise_map.1 (List.nodup_zipIdx_map_snd _)
  refine List.pairwise_filterMap.2 (distinct.imp ?_)
  rintro ⟨l, i⟩ ⟨l', i'⟩ apart p hp q hq
  obtain ⟨n, _, rfl⟩ := Option.map_eq_some_iff.1 hp
  obtain ⟨n', _, rfl⟩ := Option.map_eq_some_iff.1 hq
  exact apart

end Instances

/-- The stage without the node of a container on a layer. -/
def stripped (s : Stage) (ps : NodePools) (layer : Nat) (id : UInt32) : Stage :=
  { s with
    pools := ps
    layers := s.layers.modify layer fun l => { l with frames := l.frames.erase id } }

section Stripped

variable {base : Nat} {mount : NodeId} {others : List OwnedNode} {s : Stage}
  {d d' : MemoryDocument} {ps : NodePools}
  {layer i : Nat} {l : Layer} {id : UInt32} {node : OwnedNode}
  {x : Option UInt32} {ns : List NodeId}

lemma stripped_here (hl : s.layers[layer]? = some l) :
    (stripped s ps layer id).layers[layer]? = some { l with frames := l.frames.erase id } := by
  rw [stripped, Array.getElem?_modify, if_pos rfl, hl]
  rfl

lemma stripped_there (other : i ≠ layer) : (stripped s ps layer id).layers[i]? = s.layers[i]? := by
  rw [stripped, Array.getElem?_modify, if_neg (Ne.symm other)]

lemma exists_of_stripped {l' : Layer} (hl' : (stripped s ps layer id).layers[i]? = some l') :
    ∃ l, s.layers[i]? = some l ∧ l'.canvas = l.canvas ∧ l'.overlay = l.overlay ∧
      ∀ (j : UInt32) (m : OwnedNode), l'.frames[j]? = some m → l.frames[j]? = some m ∧
        (i = layer → j ≠ id) := by
  by_cases same : i = layer
  · subst same
    rw [stripped, Array.getElem?_modify, if_pos rfl] at hl'
    obtain ⟨l, hl, rfl⟩ := Option.map_eq_some_iff.1 hl'
    refine ⟨l, hl, rfl, rfl, fun j m hm => ?_⟩
    rw [getElem?_erase_iff] at hm
    exact ⟨hm.2, fun _ => hm.1⟩
  · rw [stripped_there same] at hl'
    exact ⟨l', hl', rfl, rfl, fun j m hm => ⟨hm, fun here => absurd here same⟩⟩

/-- No container has its node below a childless one. -/
lemma Standing.parent_ne (st : Standing base mount others s d) (hl : s.layers[layer]? = some l)
    (found : l.frames[id]? = some node) (childless : d.children node.id = []) {f : UInt32}
    {c : Container} {l' : Layer}
    {m : OwnedNode} (hc : s.containers[f]? = some c) (hl' : s.layers[i]? = some l')
    (hm : l'.frames[f]? = some m) :
    i = layer → c.parent ≠ some id := by
  rintro rfl parent
  obtain rfl := Option.some.inj (hl.symm.trans hl')
  obtain ⟨_, c', hc', place, _⟩ := st.frames _ _ _ _ hl hm
  obtain rfl := Option.some.inj (hc.symm.trans hc')
  rw [parent, target?_some hl found, ← st.owned.linked, childless] at place
  cases place

/-- Chains that do not start at the lost node stay whole, since nothing hangs from it. -/
lemma Chain.strip (st : Standing base mount others s d) (hl : s.layers[layer]? = some l)
    (found : l.frames[id]? = some node)
    (childless : d.children node.id = []) (chain : Chain s i x ns) (hx : i = layer → x ≠ some id) :
    Chain (stripped s ps layer id) i x ns := by
  induction chain with
  | @overlay l' hl' =>
    by_cases same : i = layer
    · subst same
      obtain rfl := Option.some.inj (hl.symm.trans hl')
      have here : Chain (stripped s ps i id) i none _ := .overlay (stripped_here hl)
      exact here
    · exact .overlay (by rw [stripped_there same, hl'])
  | @inner f c l' m ns hc hl' hm outer ih =>
    have above := st.parent_ne hl found childless hc hl' hm
    have kept : ∃ l'', (stripped s ps layer id).layers[i]? = some l'' ∧
        l''.frames[f]? = some m := by
      by_cases same : i = layer
      · subst same
        obtain rfl := Option.some.inj (hl.symm.trans hl')
        have other : f ≠ id := fun eq => hx rfl (by rw [eq])
        exact ⟨_, stripped_here hl, getElem?_erase_iff.2 ⟨other, hm⟩⟩
      · exact ⟨l', by rw [stripped_there same, hl'], hm⟩
    obtain ⟨l'', hl'', hm'⟩ := kept
    exact .inner hc hl'' hm' (ih above)

/-- The stage stands without a childless node that was given back. -/
lemma Standing.strip (st : Standing base mount others s d) (hl : s.layers[layer]? = some l)
    (found : l.frames[id]? = some node) (childless : d.children node.id = [])
    (o : Owned base ps (stageNodes (stripped s ps layer id) ++ others) d')
    (kept : ∀ m, Known base (stageNodes (stripped s ps layer id) ++ others) m →
      d'.parent? m = d.parent? m) :
    Standing base mount others (stripped s ps layer id) d' where
  owned := o
  mounted := st.mounted
  mount := st.mount
  outside n p hp hn := by
    rw [kept n (.inl hn)] at hp
    exact st.outside n p hp hn
  layers i l' hl' := by
    obtain ⟨l₀, hl₀, canvas, overlay, _⟩ := exists_of_stripped hl'
    obtain ⟨canvas_kind, overlay_kind, canvas_parent, overlay_parent⟩ := st.layers i l₀ hl₀
    have hc : Known base _ _ :=
      known_of_stage (mem_stageNodes.2 ⟨i, l', hl', mem_layerNodes.2 (.inl rfl)⟩)
    have ho : Known base _ _ :=
      known_of_stage (mem_stageNodes.2 ⟨i, l', hl', mem_layerNodes.2 (.inr (.inl rfl))⟩)
    rw [kept _ (hc.beside others), kept _ (ho.beside others), canvas, overlay]
    exact ⟨canvas_kind, overlay_kind, canvas_parent, overlay_parent⟩
  frames i l' f m hl' hm := by
    obtain ⟨l₀, hl₀, _, _, frames⟩ := exists_of_stripped hl'
    obtain ⟨hm₀, apart⟩ := frames f m hm
    obtain ⟨kind, c, hc, parent, ns, chain⟩ := st.frames i l₀ f m hl₀ hm₀
    have here : Known base _ _ :=
      known_of_stage (mem_stageNodes.2 ⟨i, l', hl', mem_layerNodes.2 (.inr (.inr ⟨f, hm⟩))⟩)
    have whole : Chain (stripped s ps layer id) _ _ _ :=
      chain.strip st hl found childless fun same => by simpa using apart same
    refine ⟨kind, c, hc, ?_, ns, whole⟩
    rw [kept _ (here.beside others), parent]
    cases chain with
    | inner hc₀ _ _ outer =>
      obtain rfl := Option.some.inj (hc.symm.trans hc₀)
      have outer' : Chain (stripped s ps layer id) _ _ _ :=
        outer.strip st hl found childless (st.parent_ne hl found childless hc hl₀ hm₀)
      obtain ⟨t, rest, rfl, place⟩ := outer.head
      obtain ⟨t', rest', same, place'⟩ := outer'.head
      cases same
      rw [place, place']
  surfaces i := by
    rw [stripped, Array.size_modify]
    exact st.surfaces i

end Stripped

/-- A stage after nodes of a container were given back: it stands, every known node keeps its
parent, and chains that start elsewhere are whole. -/
structure Shrunk (base : Nat) (mount : NodeId) (others : List OwnedNode) (id : UInt32) (s : Stage)
    (d : MemoryDocument) (s' : Stage) (d' : MemoryDocument) : Prop where
  standing : Standing base mount others s' d'
  nodes : ∀ n ∈ stageNodes s', n ∈ stageNodes s
  kept : ∀ m, Known base (stageNodes s' ++ others) m → d'.parent? m = d.parent? m
  chains : ∀ i x ns, x ≠ some id → Chain s i x ns → Chain s' i x ns

section Removing

variable {κ : Type} [Core κ] {base : Nat} {mount : NodeId} {others : List OwnedNode}
  {s s' s'' : Stage} {h : MemoryHost κ}
  {d d' d'' : MemoryDocument} {id : UInt32} {layer : Nat} {l : Layer} {node : OwnedNode}

theorem Standing.withdraw (st : Standing base mount others s h.document)
    (hl : s.layers[layer]? = some l)
    (found : l.frames[id]? = some node) (childless : h.document.children node.id = []) :
    Yields (Stage.withdraw id layer node) s h fun _ s' h' =>
      Shrunk base mount others id s h.document s' h'.document ∧
      (∃ ps, s' = stripped s ps layer id) ∧
        ∀ m, h.document.children m = [] → h'.document.children m = [] := by
  unfold Stage.withdraw
  refine (ends_bind _ _ _).2 ((ends_modify _ _).2 ((ends_onPools _ _ _).2 ?_))
  have kind := (st.frames layer l id node hl found).1
  have joined := (stageNodes_erase hl found).append_right others
  rw [← kind]
  refine (st.owned.perm joined).put.ends ?_
  rintro _ ps h' ⟨o, parents⟩
  have kept (m) (hm : Known base (stageNodes (stripped s ps layer id) ++ others) m) :
      h'.document.parent? m = h.document.parent? m := by
    refine Option.ext fun p => ?_
    rw [parents]
    refine ⟨fun both => both.1, fun parent => ⟨parent, ne_of_joined (st.owned.perm joined) hm, ?_⟩⟩
    rintro rfl
    rw [← st.owned.linked, childless] at parent
    cases parent
  have fewer (n) (hn : n ∈ stageNodes (stripped s ps layer id)) : n ∈ stageNodes s :=
    (stageNodes_erase hl found).mem_iff.2 (List.mem_cons_of_mem _ hn)
  refine ⟨⟨st.strip hl found childless o kept, fewer, kept, fun i x ns hx chain => ?_⟩, ⟨ps, rfl⟩,
    fun m none_below => ?_⟩
  · exact chain.strip st hl found childless fun _ => hx
  · refine List.eq_nil_iff_forall_not_mem.2 fun c hc => ?_
    rw [o.linked, parents, ← st.owned.linked, none_below] at hc
    cases hc.1

lemma Shrunk.refl (st : Standing base mount others s d) : Shrunk base mount others id s d s d :=
  ⟨st, fun _ hn => hn, fun _ _ => rfl, fun _ _ _ _ chain => chain⟩

lemma Shrunk.trans (first : Shrunk base mount others id s d s' d')
    (second : Shrunk base mount others id s' d' s'' d'') :
    Shrunk base mount others id s d s'' d'' where
  standing := second.standing
  nodes n hn := first.nodes n (second.nodes n hn)
  kept m hm := by
    refine (second.kept m hm).trans (first.kept m (hm.imp_right fun held => ?_))
    obtain ⟨n, hn, rfl⟩ := List.mem_map.1 held
    exact List.mem_map_of_mem (List.mem_append.2 ((List.mem_append.1 hn).imp_left (second.nodes n)))
  chains i x ns hx chain := second.chains i x ns hx (first.chains i x ns hx chain)

/-- Childless nodes of a container, one for each layer, are given back. -/
theorem Standing.withdrawAll (found : List (Nat × OwnedNode)) {s : Stage} {h : MemoryHost κ}
    (st : Standing base mount others s h.document) (distinct : found.Pairwise fun p q => p.1 ≠ q.1)
    (there : ∀ p ∈ found, ∃ l, s.layers[p.1]? = some l ∧ l.frames[id]? = some p.2)
    (childless : ∀ p ∈ found, h.document.children p.2.id = []) :
    Yields (found.forM fun (layer, node) => Stage.withdraw id layer node) s h fun _ s' h' =>
      Shrunk base mount others id s h.document s' h'.document ∧ s'.containers = s.containers ∧
        ∀ (i : Nat) (l' : Layer), s'.layers[i]? = some l' → ∃ l, s.layers[i]? = some l ∧
          (∀ (j : UInt32) (m : OwnedNode), l'.frames[j]? = some m → l.frames[j]? = some m) ∧
          (i ∈ found.map (·.1) → l'.frames[id]? = none) := by
  induction found generalizing s h with
  | nil => exact ⟨.refl st, rfl, fun i l hl => ⟨l, hl, fun _ _ hm => hm, by simp⟩⟩
  | cons p found ih =>
    obtain ⟨apart, distinct⟩ := List.pairwise_cons.1 distinct
    obtain ⟨l, hl, here⟩ := there p List.mem_cons_self
    refine (ends_bind _ _ _).2 ((st.withdraw hl here (childless p List.mem_cons_self)).ends ?_)
    rintro _ s₁ h₁ ⟨shrunk, ⟨ps, rfl⟩, none_below⟩
    refine (ih shrunk.standing distinct ?_ ?_).ends ?_
    · intro q hq
      rw [stripped_there (apart q hq).symm]
      exact there q (List.mem_cons_of_mem _ hq)
    · exact fun q hq => none_below _ (childless q (List.mem_cons_of_mem _ hq))
    rintro _ s₂ h₂ ⟨shrunk₂, containers, places⟩
    refine ⟨shrunk.trans shrunk₂, containers, fun i l₂ hl₂ => ?_⟩
    obtain ⟨l₁, hl₁, frames₁, gone⟩ := places i l₂ hl₂
    obtain ⟨l₀, hl₀, _, _, frames₀⟩ := exists_of_stripped hl₁
    refine ⟨l₀, hl₀, fun j m hm => (frames₀ j m (frames₁ j m hm)).1, fun inside => ?_⟩
    rcases List.mem_cons.1 inside with same | later
    · refine Option.eq_none_iff_forall_ne_some.2 fun m hm => ?_
      exact (frames₀ id m (frames₁ id m hm)).2 same rfl
    · exact gone later

lemma ends_childCounts (found : List (Nat × OwnedNode)) {s : Stage}
    (issued : ∀ p ∈ found, h.document.issued p.2.id)
    {refused : PatchError → Stage → MemoryHost κ → Prop} {breach : Breach → Prop}
    (post : List Nat → Stage → MemoryHost κ → Prop) :
    Ends (found.mapM fun (_, node) => ask (.childCount node.id) : Work Stage (List Nat)) s h
      post refused breach ↔
      post (found.map fun p => (h.document.children p.2.id).length) s h := by
  induction found generalizing post with
  | nil => exact Iff.rfl
  | cons p found ih =>
    rw [List.mapM_cons, ends_bind, ends_ask]
    rw [answer_childCount (issued p List.mem_cons_self)]
    dsimp only
    rw [ends_bind, ih fun q hq => issued q (List.mem_cons_of_mem _ hq)]
    exact Iff.rfl

/-- A container without nodes may be struck from the table. -/
lemma Standing.unlist (st : Standing base mount others s d)
    (gone : ∀ (i : Nat) (l : Layer), s.layers[i]? = some l → l.frames[id]? = none) :
    Shrunk base mount others id s d { s with containers := s.containers.erase id } d := by
  have whole {i : Nat} {x : Option UInt32} {ns : List NodeId} (chain : Chain s i x ns) :
      Chain { s with containers := s.containers.erase id } i x ns := by
    induction chain with
    | overlay hl => exact .overlay hl
    | @inner f c l m ns hc hl hm _ ih =>
      have other : f ≠ id := by
        rintro rfl
        simp [gone _ _ hl] at hm
      exact .inner (getElem?_erase_iff.2 ⟨other, hc⟩) hl hm ih
  refine ⟨⟨st.owned, st.mounted, st.mount, st.outside, st.layers, fun i l f m hl hm => ?_,
    st.surfaces⟩, fun _ hn => hn,
    fun _ _ => rfl, fun _ _ _ _ => whole⟩
  obtain ⟨kind, c, hc, parent, ns, chain⟩ := st.frames i l f m hl hm
  have other : f ≠ id := by
    rintro rfl
    simp [gone i l hl] at hm
  exact ⟨kind, c, getElem?_erase_iff.2 ⟨other, hc⟩, parent, ns, whole chain⟩

/-- Changes beside the nodes of the document do not matter. -/
lemma Standing.of_nodes (st : Standing base mount others s d) (same : d'.nodes = d.nodes) :
    Standing base mount others s d' where
  owned := st.owned.of_nodes same
  mounted := st.mounted
  mount := st.mount
  outside n p hp hn := by
    rw [parent?_of_nodes same] at hp
    exact st.outside n p hp hn
  layers i l hl := by
    rw [parent?_of_nodes same, parent?_of_nodes same]
    exact st.layers i l hl
  frames i l id node hl hn := by
    rw [parent?_of_nodes same]
    exact st.frames i l id node hl hn
  surfaces := st.surfaces

lemma total_eq_zero {counts : List Nat} : Stage.total counts = 0 ↔ ∀ n ∈ counts, n = 0 := by
  unfold Stage.total
  induction counts with
  | nil => simp
  | cons n counts ih => simp [ih]

/-- A container is removed with its nodes unless something hangs from one of them; a refusal changes
nothing. -/
theorem Standing.removeContainer (st : Standing base mount others s h.document) (id : UInt32) :
    Ends (Stage.removeContainer id) s h
      (fun _ s' h' => Shrunk base mount others id s h.document s' h'.document ∧
        s.containers.contains id ∧ s'.containers = s.containers.erase id ∧
        ∀ i t n, target? s i (some id) = some t → h.document.parent? n ≠ some t)
      (fun e s' h' => s' = s ∧ h' = h ∧
        (s.containers.contains id = false ∧ e = .unknownContainer id ∨
          s.containers.contains id ∧ ∃ count, e = .containerInUse id count))
      (fun _ => False) := by
  unfold Stage.removeContainer
  refine (ends_bind _ _ _).2 ((ends_get _).2 ?_)
  dsimp only
  have issued (p) (hp : p ∈ s.instances id) : h.document.issued p.2.id := by
    obtain ⟨l, hl, hn⟩ := mem_instances.1 hp
    exact st.owned.issued_of_known
      (.beside
        (known_of_stage
          (mem_stageNodes.2 ⟨p.1, l, hl, mem_layerNodes.2 (.inr (.inr ⟨id, hn⟩))⟩)) others)
  cases known : s.containers.contains id with
  | false => exact ⟨rfl, rfl, .inl ⟨rfl, rfl⟩⟩
  | true =>
    refine (ends_bind _ _ _).2 ((ends_childCounts _ issued _).2 ?_)
    split
    · exact ⟨rfl, rfl, .inr ⟨rfl, _, rfl⟩⟩
    next vacant =>
      have childless (p) (hp : p ∈ s.instances id) : h.document.children p.2.id = [] := by
        have none_below := total_eq_zero.1 (Nat.eq_zero_of_not_pos vacant)
        exact List.length_eq_zero_iff.1 (none_below _ (List.mem_map_of_mem hp))
      refine (ends_bind _ _ _).2 ((st.withdrawAll _ pairwise_instances ?_ childless).ends ?_)
      · exact fun p hp => mem_instances.1 hp
      rintro _ s₁ h₁ ⟨shrunk, containers, places⟩
      refine (ends_bind _ _ _).2 ((ends_modify _ _).2 ?_)
      have gone (i : Nat) (l' : Layer) (hl' : s₁.layers[i]? = some l') : l'.frames[id]? = none := by
        obtain ⟨l, hl, frames, lost⟩ := places i l' hl'
        refine Option.eq_none_iff_forall_ne_some.2 fun m hm => ?_
        rw [lost (List.mem_map_of_mem (mem_instances.2 ⟨l, hl, frames id m hm⟩))] at hm
        cases hm
      have unlisted := shrunk.trans (shrunk.standing.unlist gone)
      refine ⟨⟨unlisted.standing.of_nodes rfl, unlisted.nodes, unlisted.kept, unlisted.chains⟩,
        rfl, ?_, ?_⟩
      · rw [← containers]
      · rintro i t n place parent
        obtain ⟨l, hl, found⟩ := Option.bind_eq_some_iff.1 place
        obtain ⟨node, hn, rfl⟩ := Option.map_eq_some_iff.1 found
        rw [← st.owned.linked, childless (i, node) (mem_instances.2 ⟨l, hl, hn⟩)] at parent
        cases parent

/-- A container may be entered in the table, or replaced there by one with the same parent. -/
lemma Standing.list (st : Standing base mount others s d) {c : Container}
    (same : ∀ c', s.containers[id]? = some c' → c.parent = c'.parent) :
    Standing base mount others { s with containers := s.containers.insert id c } d ∧
      Extends s { s with containers := s.containers.insert id c } := by
  have ext : Extends s { s with containers := s.containers.insert id c } := by
    refine ⟨rfl, fun i l hl => ⟨l, hl, rfl, rfl, fun _ _ hm => hm⟩, fun j c' hc' => ?_⟩
    dsimp only
    rw [Std.ExtTreeMap.getElem?_insert]
    split
    · next here =>
      obtain rfl := Std.LawfulEqCmp.eq_of_compare here
      exact ⟨c, rfl, same c' hc'⟩
    · exact ⟨c', hc', rfl⟩
  exact ⟨st.grow ext st.owned (fun _ _ => rfl) (fun i l hl => .inl ⟨l, hl, rfl, rfl⟩)
    (fun i l j m hl hm => .inl ⟨l, hl, hm⟩) st.surfaces, ext⟩

/-- A container is entered once, and its parent before it. -/
theorem ends_addContainer (s : Stage) (h : MemoryHost κ) (id : UInt32) (parent : Option UInt32) :
    Ends (Stage.addContainer id parent) s h
      (fun _ s' h' => h' = h ∧
        s' = { s with containers := s.containers.insert id (.start parent) } ∧
        s.containers[id]? = none ∧ ∀ p, parent = some p → p ∈ s.containers)
      (fun e s' h' => s' = s ∧ h' = h ∧ (s.containers.contains id ∧ e = .duplicateContainer id ∨
        s.containers.contains id = false ∧ ∃ p, parent = some p ∧ s.containers.contains p = false ∧
          e = .unknownContainer p))
      (fun _ => False) := by
  unfold Stage.addContainer
  refine (ends_bind _ _ _).2 ((ends_get _).2 ?_)
  dsimp only
  cases known : s.containers.contains id with
  | true => exact ⟨rfl, rfl, .inl ⟨rfl, rfl⟩⟩
  | false =>
    have new := Std.ExtTreeMap.getElem?_eq_none_of_contains_eq_false known
    cases parent with
    | none => exact ⟨rfl, rfl, new, by simp⟩
    | some p =>
      cases there : s.containers.contains p with
      | false =>
        simp only [there]
        exact ⟨rfl, rfl, .inr ⟨trivial, p, rfl, there, rfl⟩⟩
      | true =>
        simp only [there]
        refine ⟨rfl, rfl, new, fun q hq => ?_⟩
        cases hq
        exact Std.ExtTreeMap.contains_iff_mem.1 there

/-- A container keeps its parent when its geometry changes. -/
theorem ends_updateContainer (s : Stage) (h : MemoryHost κ) (id : UInt32) (g : Geometry) :
    Ends (Stage.updateContainer id g) s h
      (fun _ s' h' => h'.document.nodes = h.document.nodes ∧ ∃ c, s.containers[id]? = some c ∧
        s' = { s with containers := s.containers.insert id (c.merge g) })
      (fun e s' h' => s' = s ∧ h' = h ∧ s.containers[id]? = none ∧ e = .unknownContainer id)
      (fun _ => False) := by
  unfold Stage.updateContainer
  refine (ends_bind _ _ _).2 ((ends_get _).2 ?_)
  cases known : s.containers[id]? with
  | none => exact ⟨rfl, rfl, rfl, rfl⟩
  | some c => exact ⟨rfl, c, rfl, rfl⟩

end Removing

end LayeredPage.Proofs
