import LayeredPage.Proofs.Standing

/-!
# Growing a stage

Layers are built and containers get nodes. What stood before stands after, at the same place, and
what is new hangs where it should.
-/

namespace LayeredPage.Proofs

open MemoryDocument

section Building

variable {κ : Type} [Core κ] {base : Nat} {mine : List OwnedNode} {h : MemoryHost κ} {w : Workshop}
  {mount : NodeId} {index : Nat}

/-- A layer that was built: two nodes that hang from the mount, a surface, and no containers yet. -/
structure Built (base : Nat) (mine : List OwnedNode) (mount : NodeId) (index : Nat) (w : Workshop)
    (d : MemoryDocument) (l : Layer) (w' : Workshop) (d' : MemoryDocument) : Prop where
  owned : Owned base w'.pools (l.canvas :: l.overlay :: mine) d'
  frames : l.frames = ∅
  canvas : l.canvas.kind = .canvas
  overlay : l.overlay.kind = .div
  surfaces : w'.surfaces = w.surfaces.insert index l.canvas.id
  parents : ∀ m, d'.parent? m = if m = l.overlay.id ∨
    m = l.canvas.id then some mount else d.parent? m

theorem build_yields (o : Owned base w.pools mine h.document) (hm : mount.index < base)
    (new : index ∉ w.surfaces) :
    Yields (Layer.build mount index) w h fun l w' h' =>
      Built base mine mount index w h.document l w' h'.document := by
  unfold Layer.build
  refine (ends_bind _ _ _).2 ((ends_focus _ _).2 ((o.take .canvas).ends ?_))
  rintro canvas ps h₁ ⟨o₁, canvas_kind, _, parents₁⟩
  refine (ends_bind _ _ _).2 ((ends_focus _ _).2 ((o₁.take .div).ends ?_))
  rintro overlay ps' h₂ ⟨o₂, overlay_kind, _, parents₂⟩
  have hc : canvas.id ∈ (overlay :: canvas :: mine).map (·.id) := by simp
  have ho : overlay.id ∈ (overlay :: canvas :: mine).map (·.id) := by simp
  have bare : Dressed base ps' (overlay :: canvas :: mine) h.document h₂.document :=
    ⟨o₂, fun m => (parents₂ m).trans (parents₁ m)⟩
  refine bare.write (.inr hc) (.attr "class" Layer.canvasClass) rfl fun h₃ dressed => ?_
  refine dressed.write (.inr hc) (.attr "id" (Layer.surfaceName index)) rfl fun h₄ dressed => ?_
  refine dressed.write (.inr hc) (.style "z-index" (toString index)) rfl fun h₅ dressed => ?_
  refine dressed.write (.inr ho) (.attr "class" Layer.overlayClass) rfl fun h₆ dressed => ?_
  refine dressed.write (.inr ho) (.style "z-index" (toString index)) rfl fun h₇ dressed => ?_
  refine dressed.owned.hang (.inl hm) hc fun h₈ o₈ hung => ?_
  refine o₈.hang (.inl hm) ho fun h₉ o₉ hung' => ?_
  have fresh : w.surfaces.contains index = false :=
    Bool.eq_false_iff.2 (mt Std.ExtTreeMap.contains_iff_mem.1 new)
  unfold Workshop.register
  refine (ends_bind _ _ _).2 ((ends_bind _ _ _).2 ((ends_get _).2 ?_))
  simp only [fresh]
  refine ⟨o₉.perm (.swap ..), rfl, canvas_kind, overlay_kind, rfl, fun m => ?_⟩
  simp only [hung', hung, dressed.parents]
  by_cases above : m = overlay.id <;> by_cases below : m = canvas.id <;> simp [above, below]

end Building

/-- A stage after it grew: it stands, and every node that was known keeps its parent. -/
structure Grown (base : Nat) (mount : NodeId) (others : List OwnedNode) (s : Stage)
    (d : MemoryDocument) (s' : Stage) (d' : MemoryDocument) : Prop where
  standing : Standing base mount others s' d'
  ext : Extends s s'
  containers : s'.containers = s.containers
  kept : ∀ m, Known base (stageNodes s ++ others) m → d'.parent? m = d.parent? m

section Stages

variable {κ : Type} [Core κ] {base : Nat} {mount : NodeId} {others : List OwnedNode}
  {s s' s'' : Stage} {h : MemoryHost κ} {d d' d'' : MemoryDocument}

lemma Grown.refl (st : Standing base mount others s d) : Grown base mount others s d s d :=
  ⟨st, .refl s, rfl, fun _ _ => rfl⟩

lemma Grown.trans (first : Grown base mount others s d s' d')
    (second : Grown base mount others s' d' s'' d'') :
    Grown base mount others s d s'' d'' where
  standing := second.standing
  ext := first.ext.trans second.ext
  containers := second.containers.trans first.containers
  kept m hm := (second.kept m (first.ext.known hm)).trans (first.kept m hm)

theorem Standing.addLayer (st : Standing base mount others s h.document) :
    Yields Stage.addLayer s h fun _ s' h' => Grown base mount others s h.document s' h'.document ∧
      s'.layers.size = s.layers.size + 1 := by
  unfold Stage.addLayer
  have free : s.layers.size ∉ s.surfaces :=
    fun inside => absurd ((st.surfaces _).1 inside) (lt_irrefl _)
  refine (ends_bind _ _ _).2 ((ends_get _).2 ((ends_bind _ _ _).2 ((ends_focus _ _).2 ?_)))
  refine (build_yields st.owned st.mount free).ends fun l w h' built => ?_
  refine ⟨?_, by simp⟩
  have place (i : Nat) :
      (s.layers.push l)[i]? = if i = s.layers.size then some l else s.layers[i]? :=
    Array.getElem?_push
  have old {i : Nat} {l' : Layer} (hl' : s.layers[i]? = some l') :
      (s.layers.push l)[i]? = some l' := by
    rw [place, if_neg (Array.getElem?_eq_some_iff.1 hl').1.ne, hl']
  have ext : Extends s { s with toWorkshop := w, layers := s.layers.push l } :=
    ⟨rfl, fun i l' hl' => ⟨l', old hl', rfl, rfl, fun _ _ => id⟩, fun _ c hc => ⟨c, hc, rfl⟩⟩
  have kept (m) (hm : Known base (stageNodes s ++ others) m) :
      h'.document.parent? m = h.document.parent? m := by
    have not_canvas := ne_of_joined built.owned (hm.cons l.overlay)
    have not_overlay := ne_of_joined (built.owned.perm (.swap ..)) (hm.cons l.canvas)
    rw [built.parents, if_neg (by simp [not_canvas, not_overlay])]
  refine ⟨st.grow ext ?_ (fun m hm => kept m (hm.beside others)) ?_ ?_ ?_, ext, rfl, kept⟩
  · exact built.owned.perm ((stageNodes_push_perm built.frames).append_right others).symm
  · intro i l' hl'
    rw [place] at hl'
    split at hl'
    · cases hl'
      exact .inr ⟨built.canvas, built.overlay, by simp [built.parents], by simp [built.parents]⟩
    · exact .inl ⟨l', hl', rfl, rfl⟩
  · intro i l' id node hl' found
    rw [place] at hl'
    split at hl'
    · cases hl'
      simp [built.frames] at found
    · exact .inl ⟨l', hl', found⟩
  · intro i
    rw [Array.size_push, Nat.lt_succ_iff_lt_or_eq, ← st.surfaces]
    change i ∈ w.surfaces ↔ _
    rw [built.surfaces, Std.ExtTreeMap.mem_insert, compare_eq_iff_eq]
    tauto

theorem Standing.addLayers (count : Nat) {s : Stage} {h : MemoryHost κ}
    (st : Standing base mount others s h.document) :
    Yields (Stage.addLayers count) s h fun _ s' h' =>
      Grown base mount others s h.document s' h'.document ∧
      s'.layers.size = s.layers.size + count := by
  induction count generalizing s h with
  | zero => exact ⟨.refl st, rfl⟩
  | succ count ih =>
    refine (ends_bind _ _ _).2 (st.addLayer.ends ?_)
    rintro _ s' h' ⟨grown, size⟩
    refine (ih grown.standing).ends ?_
    rintro _ s'' h'' ⟨grown', size'⟩
    exact ⟨grown.trans grown', by omega⟩

theorem Standing.growTo (st : Standing base mount others s h.document) (top : UInt32) :
    Yields (Stage.growTo top) s h fun _ s' h' =>
      Grown base mount others s h.document s' h'.document ∧
      top.toNat < s'.layers.size := by
  refine (ends_bind _ _ _).2 ((ends_get _).2 ((st.addLayers _).ends ?_))
  rintro _ s' h' ⟨grown, size⟩
  exact ⟨grown, by omega⟩

/-- The stage with a node for a container on a layer. -/
def furnished (s : Stage) (ps : NodePools) (layer : Nat) (id : UInt32) (node : OwnedNode) : Stage :=
  { s with
    pools := ps
    layers := s.layers.modify layer fun l => { l with frames := l.frames.insert id node } }

section Furnished

variable {ps : NodePools} {layer i : Nat} {l : Layer} {id : UInt32} {node : OwnedNode}

lemma furnished_here (hl : s.layers[layer]? = some l) :
    (furnished s ps layer id node).layers[layer]? =
      some { l with frames := l.frames.insert id node } := by
  rw [furnished, Array.getElem?_modify, if_pos rfl, hl]
  rfl

lemma furnished_there (other : i ≠ layer) :
    (furnished s ps layer id node).layers[i]? = s.layers[i]? := by
  rw [furnished, Array.getElem?_modify, if_neg (Ne.symm other)]

lemma extends_furnished (hl : s.layers[layer]? = some l) (new : l.frames[id]? = none) :
    Extends s (furnished s ps layer id node) := by
  refine ⟨rfl, fun i l' hl' => ?_, fun _ c hc => ⟨c, hc, rfl⟩⟩
  by_cases same : i = layer
  · subst same
    obtain rfl := Option.some.inj (hl.symm.trans hl')
    refine ⟨_, furnished_here hl, rfl, rfl, fun j m hm => getElem?_insert_of_new new hm⟩
  · exact ⟨l', by rw [furnished_there same, hl'], rfl, rfl, fun _ _ => fun hm => hm⟩

/-- The node of a container hangs from that of its parent, so the stage stands. -/
lemma Standing.furnish (st : Standing base mount others s d) {c : Container} {ns : List NodeId}
    (hl : s.layers[layer]? = some l) (new : l.frames[id]? = none) (hc : s.containers[id]? = some c)
    (chain : Chain s layer c.parent ns) (kind : node.kind = .div)
    (o : Owned base ps (node :: (stageNodes s ++ others)) d')
    (kept : ∀ m, Known base (stageNodes s ++ others) m → d'.parent? m = d.parent? m)
    (parent : d'.parent? node.id = target? s layer c.parent) :
    Grown base mount others s d (furnished s ps layer id node) d' ∧
      Chain (furnished s ps layer id node) layer (some id) (node.id :: ns) := by
  have ext : Extends s (furnished s ps layer id node) := extends_furnished hl new
  have here : (furnished s ps layer id node).layers[layer]? = _ := furnished_here hl
  obtain ⟨t, _, _, place⟩ := chain.head
  have whole : Chain (furnished s ps layer id node) layer (some id) (node.id :: ns) :=
    .inner hc here (by simp) (chain.mono ext)
  refine ⟨⟨st.grow ext ?_ (fun m hm => kept m (hm.beside others)) ?_ ?_ ?_, ext, rfl, kept⟩, whole⟩
  · exact o.perm ((stageNodes_insert hl new).append_right others).symm
  · intro i l' hl'
    left
    by_cases same : i = layer
    · subst same
      obtain rfl := Option.some.inj (here.symm.trans hl')
      exact ⟨l, hl, rfl, rfl⟩
    · exact ⟨l', by rwa [furnished_there same] at hl', rfl, rfl⟩
  · intro i l' j m hl' hm
    by_cases same : i = layer
    · subst same
      obtain rfl := Option.some.inj (here.symm.trans hl')
      rw [getElem?_insert_eq] at hm
      split at hm
      · next added =>
        cases hm
        subst added
        exact .inr ⟨kind, c, hc, by rw [parent, place, ext.target? place], _, whole⟩
      · exact .inl ⟨l, hl, hm⟩
    · rw [furnished_there same] at hl'
      exact .inl ⟨l', hl', hm⟩
  · intro i
    rw [furnished, Array.size_modify]
    exact st.surfaces i

end Furnished

/-- A container gets its node on a layer where its parent has one. -/
theorem Standing.instantiate (st : Standing base mount others s h.document) {layer : Nat}
    {l : Layer} {id : UInt32}
    {c : Container} {parent : NodeId} {ns : List NodeId} (hl : s.layers[layer]? = some l)
    (new : l.frames[id]? = none)
    (hc : s.containers[id]? = some c) (place : target? s layer c.parent = some parent)
    (chain : Chain s layer c.parent ns) :
    Yields (Stage.instantiate layer parent id) s h fun t s' h' =>
      Grown base mount others s h.document s' h'.document ∧ target? s' layer (some id) = some t ∧
        (∃ ns, Chain s' layer (some id) ns) ∧
        ∃ l', s'.layers[layer]? = some l' ∧ ∀ j : UInt32, j ≠ id →
          l'.frames[j]? = l.frames[j]? := by
  unfold Stage.instantiate
  refine (ends_bind _ _ _).2 ((ends_onPools _ _ _).2 ((st.owned.take .div).ends ?_))
  rintro node ps h₁ ⟨o₁, kind, _, parents₁⟩
  have held : node.id ∈ (node :: (stageNodes s ++ others)).map (·.id) := List.mem_cons_self
  have above : Known base (node :: (stageNodes s ++ others)) parent :=
    .cons (.beside (.inr (target?_mem place)) others) node
  have bare : Dressed base ps (node :: (stageNodes s ++ others)) h.document h₁.document :=
    ⟨o₁, parents₁⟩
  refine bare.write (.inr held) (.attr "class" Stage.containerClass) rfl fun h₂ dressed => ?_
  refine dressed.write (.inr held) (.attr Stage.containerIdAttribute (toString id)) rfl
    fun h₃ dressed => ?_
  refine dressed.write (.inr held) (.style "clip-path" _) rfl fun h₄ dressed => ?_
  refine dressed.write (.inr held) (.style "-webkit-clip-path" _) rfl fun h₅ dressed => ?_
  refine dressed.owned.hang above held fun h₆ o₆ hung => ?_
  refine (ends_bind _ _ _).2 ((ends_modify _ _).2 ?_)
  obtain ⟨grown, whole⟩ := st.furnish hl new hc chain kind o₆
    (fun m hm => by rw [hung, if_neg (ne_of_joined o₆ hm), dressed.parents])
      (by rw [hung, if_pos rfl, place])
  refine ⟨grown, target?_some (furnished_here hl) (by simp), ⟨_, whole⟩, _,
    furnished_here hl, fun j other => ?_⟩
  exact getElem?_insert_of_ne other

/-- The containers passed on the climb get their nodes on the way back. -/
theorem Standing.descend {layer : Nat} {l : Layer} {x : Option UInt32}
    {ids : List UInt32} {root : NodeId}
    (st : Standing base mount others s h.document) (hl : s.layers[layer]? = some l)
    (a : Ascent s l x ids root) :
    Yields (ids.reverse.foldlM (Stage.instantiate layer) root) s h fun t s' h' =>
      Grown base mount others s h.document s' h'.document ∧ target? s' layer x = some t ∧
        (∃ ns, Chain s' layer x ns) ∧
        ∃ l', s'.layers[layer]? = some l' ∧ ∀ j : UInt32, j ∉ ids →
          l'.frames[j]? = l.frames[j]? := by
  induction a with
  | overlay => exact ⟨.refl st, target?_none hl, ⟨_, .overlay hl⟩, l, hl, fun _ _ => rfl⟩
  | here found =>
    obtain ⟨_, _, _, _, chain⟩ := st.frames layer l _ _ hl found
    exact ⟨.refl st, target?_some hl found, chain, l, hl, fun _ _ => rfl⟩
  | @up id c ids root new hc rest ih =>
    rw [List.reverse_cons, List.foldlM_append]
    refine (ends_bind _ _ _).2 (ih.ends ?_)
    rintro parent s₁ h₁ ⟨grown, place, ⟨ns, chain⟩, l₁, hl₁, same⟩
    have first : id ∉ ids := (List.nodup_cons.1 (Ascent.up new hc rest).nodup).1
    have new₁ : l₁.frames[id]? = none := by rw [same id first, new]
    have hc₁ : s₁.containers[id]? = some c := by rw [grown.containers, hc]
    refine (ends_bind _ _ _).2 ((grown.standing.instantiate hl₁ new₁ hc₁ place chain).ends ?_)
    rintro t s₂ h₂ ⟨grown₂, place₂, chain₂, l₂, hl₂, same₂⟩
    refine ⟨grown.trans grown₂, place₂, chain₂, l₂, hl₂, fun j hj => ?_⟩
    rw [List.mem_cons, not_or] at hj
    rw [same₂ j hj.1, same j hj.2]

/-- A place is found or made unless the containers above lead nowhere; then nothing has changed. -/
theorem Standing.attachPoint {layer : Nat} (st : Standing base mount others s h.document)
    (inside : layer < s.layers.size) (x : Option UInt32) :
    Ends (Stage.attachPoint x layer) s h
      (fun t s' h' => Grown base mount others s h.document s' h'.document ∧
        target? s' layer x = some t ∧
        ∃ ns, Chain s' layer x ns)
      (fun e s' h' => s' = s ∧ h' = h ∧ (∃ id, e = .unknownContainer id) ∧
        ¬ ∃ ids, Line s.containers x ids)
      (fun b => (∃ id, b = .endlessContainers id) ∧ ¬ ∃ ids, Line s.containers x ids) := by
  obtain ⟨l, hl⟩ : ∃ l, s.layers[layer]? = some l := ⟨_, Array.getElem?_eq_getElem inside⟩
  unfold Stage.attachPoint
  refine (ends_bind _ _ _).2 ((ends_get _).2 ?_)
  simp only [hl]
  cases x with
  | none => exact ⟨.refl st, target?_none hl, _, .overlay hl⟩
  | some id =>
    have lost {way : Stage.Route} (found : s.route l (s.containers.size + 1) id [] = way)
        (other : ∀ root ids, way ≠ .down root ids) : ¬ ∃ ids, Line s.containers (some id) ids := by
      rintro ⟨ids, line⟩
      obtain ⟨ids, root, a⟩ := line.ascent l
      exact other _ _ (found.symm.trans (route_eq a))
    dsimp only
    cases found : s.route l (s.containers.size + 1) id [] with
    | down root missing =>
      obtain ⟨ids, a, rfl⟩ := route_sound found
      simp only [List.append_nil]
      refine (st.descend hl a).ends ?_
      rintro t s' h' ⟨grown, place, chain, _⟩
      exact ⟨grown, place, chain⟩
    | unknown id' => exact ⟨rfl, rfl, ⟨id', rfl⟩, lost found fun _ _ h => by cases h⟩
    | endless id' => exact ⟨⟨id', rfl⟩, lost found fun _ _ h => by cases h⟩

/-- A node of others may be hung anywhere on the stage. -/
lemma Standing.hang (st : Standing base mount others s d) {p c : NodeId}
    (hp : p ∈ (stageNodes s).map (·.id))
    (hc : c ∈ others.map (·.id)) : Standing base mount others s (d.append p c) := by
  have above : Known base (stageNodes s ++ others) p := .beside (.inr hp) others
  have held : c ∈ (stageNodes s ++ others).map (·.id) := by
    rw [List.map_append]
    exact List.mem_append_right _ hc
  have kept (m) (hm : Known base (stageNodes s) m) : (d.append p c).parent? m = d.parent? m := by
    rw [parent?_append st.owned.linked (st.owned.issued_of_known (.inr held)), if_neg]
    rintro rfl
    exact st.apart hc hm
  exact st.grow (.refl s) (st.owned.append above held) kept (fun i l hl => .inl ⟨l, hl, rfl, rfl⟩)
    (fun i l id node hl found => .inl ⟨l, hl, found⟩) st.surfaces

/-- A node that was hung on the stage: the stage has grown, and only this node has a new parent. -/
structure Hung (base : Nat) (mount : NodeId) (others : List OwnedNode) (n : NodeId)
    (x : Option UInt32) (layer : Nat) (s : Stage)
    (d : MemoryDocument) (s' : Stage) (d' : MemoryDocument) : Prop where
  standing : Standing base mount others s' d'
  ext : Extends s s'
  containers : s'.containers = s.containers
  kept : ∀ m, m ≠ n → Known base (stageNodes s ++ others) m → d'.parent? m = d.parent? m
  parent : ∃ t, target? s' layer x = some t ∧ d'.parent? n = some t
  chain : ∃ ns, Chain s' layer x ns

theorem Standing.addElement {layer : UInt32} {n : NodeId}
    (st : Standing base mount others s h.document)
    (hn : n ∈ others.map (·.id)) (x : Option UInt32) :
    Ends (Stage.addElement n x layer) s h
      (fun _ s' h' => Hung base mount others n x layer.toNat s h.document s' h'.document)
      (fun e s' h' => Grown base mount others s h.document s' h'.document ∧
        (∃ id, e = .unknownContainer id) ∧
        ¬ ∃ ids, Line s.containers x ids)
      (fun b => (∃ id, b = .endlessContainers id) ∧ ¬ ∃ ids, Line s.containers x ids) := by
  unfold Stage.addElement
  refine (ends_bind _ _ _).2 ((st.growTo layer).ends ?_)
  rintro _ s₁ h₁ ⟨grown, inside⟩
  refine (ends_bind _ _ _).2 ((grown.standing.attachPoint inside x).mono ?_ ?_ ?_)
  · rintro t s₂ h₂ ⟨grown₂, place, chain⟩
    have st₂ := grown₂.standing
    have held : n ∈ (stageNodes s₂ ++ others).map (·.id) := by
      rw [List.map_append]
      exact List.mem_append_right _ hn
    have above : Known base (stageNodes s₂ ++ others) t := .beside (.inr (target?_mem place)) others
    have issued := st₂.owned.issued_of_known (.inr held)
    have hung (m) := parent?_append (m := m) (p := t) st₂.owned.linked issued
    refine (ends_ask _ _).2 ?_
    rw [answer_appendChild (st₂.owned.issued_of_known above) issued]
    have all := grown.trans grown₂
    refine ⟨st₂.hang (target?_mem place) hn, all.ext, all.containers, fun m other hm => ?_,
      ⟨t, place, by rw [hung, if_pos rfl]⟩, chain⟩
    rw [hung, if_neg other, all.kept m hm]
  · rintro e s₂ h₂ ⟨rfl, rfl, unknown, lost⟩
    rw [grown.containers] at lost
    exact ⟨grown, unknown, lost⟩
  · rintro b ⟨endless, lost⟩
    rw [grown.containers] at lost
    exact ⟨endless, lost⟩

end Stages

end LayeredPage.Proofs
