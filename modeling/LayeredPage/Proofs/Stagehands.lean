import LayeredPage.Proofs.Conduct

/-!
# Work on a stage conducts itself properly

Layers, container nodes and elements are hung where nothing above them hangs from them, and all that
is written to, emptied or given back was made since the mount was taken over. Only work on an
element and the removal of a container give nodes back.
-/

namespace LayeredPage.Proofs

open MemoryDocument

section Rules

variable {κ σ α β : Type} [Core κ] {base : Nat} {l : Licence} {s : σ} {h : MemoryHost κ}

lemma Ends.any {act : Work σ α} {post : α → σ → MemoryHost κ → Prop} (all : ∀ a s h, post a s h) :
    Ends act s h post (fun _ _ _ => True) fun _ => True := by
  unfold Ends
  split
  · exact all _ _ _
  · trivial
  · trivial

/-- What follows minds wherever it starts. -/
lemma minds_bind_any {act : Work σ α} {f : α → Work σ β} (first : Minds base l act s h)
    (next : ∀ a s (h : MemoryHost κ), Minds base l (f a) s h) : Minds base l (act >>= f) s h :=
  minds_bind first (Ends.any next)

lemma minds_tell {r : PatchRequest} (core : Becoming base l h.document r) :
    Minds base l (liftM (tell r) : Work σ r.Reply) s h := minds_script ⟨core, fun _ _ _ => trivial⟩

end Rules

section Layers

variable {κ : Type} [Core κ] {base : Nat} {l : Licence} {mine others : List OwnedNode}
  {h : MemoryHost κ} {w : Workshop} {mount : NodeId} {index : Nat} {s : Stage}

lemma ne_of_foreign {ps : NodePools} {d : MemoryDocument} {n : NodeId} (o : Owned base ps mine d)
    (hm : mount.index < base) (hn : n ∈ mine.map (·.id)) : mount ≠ n := by
  rintro rfl
  have := (o.ours hn).2
  omega

lemma childless_of_blank {d d' : MemoryDocument} {n : NodeId} {kind : NodeKind} (linked : Linked d)
    (blank : d.node? n = some (.fresh kind)) (parents : ∀ m, d'.parent? m = d.parent? m)
    (m : NodeId) : d'.parent? m ≠ some n := by
  rw [parents, ne_eq, ← linked, children_of_node? blank]
  exact List.not_mem_nil

theorem minds_build (o : Owned base w.pools mine h.document) (hm : mount.index < base) :
    Minds base l (Layer.build mount index) w h := by
  unfold Layer.build
  refine minds_bind (minds_focus (minds_take o.stocked .canvas))
    ((ends_focus _ _).2 ((o.take .canvas).ends ?_))
  rintro canvas ps h₁ ⟨o₁, _, blank₁, parents₁⟩
  refine minds_bind (minds_focus (minds_take o₁.stocked .div))
    ((ends_focus _ _).2 ((o₁.take .div).ends ?_))
  rintro overlay ps' h₂ ⟨o₂, _, blank₂, parents₂⟩
  have hc : canvas.id ∈ (overlay :: canvas :: mine).map (·.id) := by simp
  have ho : overlay.id ∈ (overlay :: canvas :: mine).map (·.id) := by simp
  have bare : Dressed base ps' (overlay :: canvas :: mine) h₂.document h₂.document :=
    ⟨o₂, fun _ => rfl⟩
  refine bare.minds_write hc (.attr "class" Layer.canvasClass) rfl rfl fun h₃ dressed => ?_
  refine dressed.minds_write hc (.attr "id" (Layer.surfaceName index)) rfl rfl fun h₄ dressed => ?_
  refine dressed.minds_write hc (.style "z-index" (toString index)) rfl rfl fun h₅ dressed => ?_
  refine dressed.minds_write ho (.attr "class" Layer.overlayClass) rfl rfl fun h₆ dressed => ?_
  refine dressed.minds_write ho (.style "z-index" (toString index)) rfl rfl fun h₇ dressed => ?_
  have bare_canvas (m) : h₇.document.parent? m ≠ some canvas.id :=
    childless_of_blank o₁.linked blank₁ (fun m => (dressed.parents m).trans (parents₂ m)) m
  have not_canvas := ne_of_foreign o₂ hm hc
  refine dressed.owned.minds_hang (.inl hm) hc (not_under_of_childless bare_canvas not_canvas)
    fun h₈ o₈ hung => ?_
  have not_overlay := ne_of_foreign o₂ hm ho
  have bare_overlay (m) : h₈.document.parent? m ≠ some overlay.id := by
    rw [hung]
    split
    · exact fun same => not_overlay (Option.some.inj same)
    · exact childless_of_blank o₂.linked blank₂ dressed.parents m
  refine o₈.minds_hang (.inl hm) ho
    (not_under_of_childless bare_overlay not_overlay) fun h₉ o₉ _ => ?_
  refine minds_bind_any (minds_get_bind ?_) fun _ _ _ =>
    minds_bind_any (minds_tell trivial) fun _ _ _ => minds_pure _
  split
  · exact minds_bind_any (minds_broken _) fun _ _ _ => minds_modify _
  · exact minds_modify _

lemma Standing.minds_addLayer (st : Standing base mount others s h.document) :
    Minds base l Stage.addLayer s h := by
  refine minds_get_bind
    (minds_bind_any (minds_focus (minds_build st.owned st.mount)) fun _ _ _ => minds_modify _)

lemma Standing.minds_addLayers (count : Nat) {s : Stage} {h : MemoryHost κ}
    (st : Standing base mount others s h.document) :
    Minds base l (Stage.addLayers count) s h := by
  induction count generalizing s h with
  | zero => trivial
  | succ count ih =>
    exact minds_bind st.minds_addLayer (st.addLayer.ends fun _ _ _ done => ih done.1.standing)

lemma Standing.minds_growTo (st : Standing base mount others s h.document) (top : UInt32) :
    Minds base l (Stage.growTo top) s h :=
  minds_get_bind (st.minds_addLayers _)

end Layers

section Stages

variable {κ : Type} [Core κ] {base : Nat} {l : Licence} {others : List OwnedNode} {h : MemoryHost κ}
  {mount : NodeId} {s : Stage} {layer : Nat} {id : UInt32}

lemma Standing.minds_instantiate (st : Standing base mount others s h.document)
    {parent : NodeId} {x : Option UInt32} (place : target? s layer x = some parent) :
    Minds base l (Stage.instantiate layer parent id) s h := by
  unfold Stage.instantiate
  refine minds_bind (minds_onPools (minds_take st.owned.stocked .div))
    ((ends_onPools _ _ _).2 ((st.owned.take .div).ends ?_))
  rintro node ps h₁ ⟨o₁, _, blank, _⟩
  have held : node.id ∈ (node :: (stageNodes s ++ others)).map (·.id) := List.mem_cons_self
  have above : Known base (stageNodes s ++ others) parent :=
    .beside (.inr (target?_mem place)) others
  have bare : Dressed base ps (node :: (stageNodes s ++ others)) h₁.document h₁.document :=
    ⟨o₁, fun _ => rfl⟩
  refine bare.minds_write held (.attr "class" Stage.containerClass) rfl rfl fun h₂ dressed => ?_
  refine dressed.minds_write held (.attr Stage.containerIdAttribute (toString id)) rfl rfl
    fun h₃ dressed => ?_
  refine dressed.minds_write held (.style "clip-path" _) rfl rfl fun h₄ dressed => ?_
  refine dressed.minds_write held (.style "-webkit-clip-path" _) rfl rfl fun h₅ dressed => ?_
  have childless := childless_of_blank o₁.linked blank dressed.parents
  refine dressed.owned.minds_hang (above.cons node) held
    (not_under_of_childless childless (ne_of_joined o₁ above)) fun h₆ o₆ _ => ?_
  exact minds_modify_bind (minds_pure _)

lemma Standing.minds_descend {lyr : Layer} {x : Option UInt32} {ids : List UInt32} {root : NodeId}
    (st : Standing base mount others s h.document) (hl : s.layers[layer]? = some lyr)
    (a : Ascent s lyr x ids root) :
    Minds base l (ids.reverse.foldlM (Stage.instantiate layer) root) s h := by
  induction a with
  | overlay => trivial
  | here found => trivial
  | @up id c ids root new hc rest ih =>
    rw [List.reverse_cons, List.foldlM_append]
    refine minds_bind ih ((st.descend hl rest).ends ?_)
    rintro parent s₁ h₁ ⟨grown, place, _, _⟩
    exact minds_bind_any (grown.standing.minds_instantiate place) fun _ _ _ => minds_pure _

lemma Standing.minds_attachPoint (st : Standing base mount others s h.document)
    (x : Option UInt32) :
    Minds base l (Stage.attachPoint x layer) s h := by
  refine minds_get_bind ?_
  cases hl : s.layers[layer]? with
  | none => exact minds_broken _
  | some lyr =>
    cases x with
    | none => trivial
    | some id =>
      cases found : s.route lyr (s.containers.size + 1) id [] with
      | down root missing =>
        obtain ⟨ids, a, rfl⟩ := route_sound found
        simp only [List.append_nil, found]
        exact st.minds_descend hl a
      | unknown id' =>
        simp only [found]
        trivial
      | endless id' =>
        simp only [found]
        exact minds_broken _

/-- Climbing from a place on the stage does not lead to what others hold. -/
lemma Standing.not_under {d : MemoryDocument} (st : Standing base mount others s d) {t n : NodeId}
    (ht : t ∈ (stageNodes s).map (·.id)) (hn : n ∈ others.map (·.id)) : ¬ Under d t n := by
  have closed (m q : NodeId) (hm : Known base (stageNodes s) m) (step : d.parent? m = some q) :
      Known base (stageNodes s) q := by
    rcases hm with foreign | inside
    · exact .inl (st.outside m q step foreign)
    · rcases st.parent_of_stage inside step with rfl | above
      · exact .inl st.mount
      · exact .inr above
  exact Proofs.not_under closed (.inr ht) (st.apart hn)

theorem Standing.minds_addElement {n : NodeId} {layer : UInt32}
    (st : Standing base mount others s h.document)
    (hn : n ∈ others.map (·.id)) (x : Option UInt32) :
    Minds base l (Stage.addElement n x layer) s h := by
  refine minds_bind (st.minds_growTo layer) ((st.growTo layer).ends ?_)
  rintro _ s₁ h₁ ⟨grown, inside⟩
  have st₁ := grown.standing
  refine minds_bind (st₁.minds_attachPoint x)
    ((st₁.attachPoint inside x).mono ?_ (fun _ _ _ _ => trivial) fun _ _ => trivial)
  rintro t s₂ h₂ ⟨grown₂, place, _⟩
  have st₂ := grown₂.standing
  have held : n ∈ (stageNodes s₂ ++ others).map (·.id) := by
    rw [List.map_append]
    exact List.mem_append_right _ hn
  have there := target?_mem place
  exact minds_ask
    (proper_append st₂.owned (.beside (.inr there) others) held (st₂.not_under there hn))

/-- A container is removed if its nodes may be reset. -/
theorem Standing.minds_removeContainer (st : Standing base mount others s h.document) (id : UInt32)
    (granted : ∀ p ∈ s.instances id, l.resets p.2.id) :
    Minds base l (Stage.removeContainer id) s h := by
  have held (p) (hp : p ∈ s.instances id) : p.2.id ∈ (stageNodes s ++ others).map (·.id) := by
    obtain ⟨lyr, hl, hn⟩ := mem_instances.1 hp
    refine List.mem_map_of_mem (List.mem_append_left _ (mem_stageNodes.2 ⟨p.1, lyr, hl, ?_⟩))
    exact mem_layerNodes.2 (.inr (.inr ⟨id, hn⟩))
  have counting (found : List (Nat × OwnedNode))
    (sub : ∀ p ∈ found, p ∈ s.instances id) (s₁ : Stage) :
      Minds base l (found.mapM fun p => ask (.childCount p.2.id) : Work Stage (List Nat)) s₁ h := by
    induction found with
    | nil => trivial
    | cons p found ih =>
      rw [List.mapM_cons]
      have own := held p (sub p List.mem_cons_self)
      refine minds_ask_bind (proper_write st.owned own rfl (fun _ _ same => by cases same) trivial)
        fun count d run => ?_
      rw [answer_childCount (st.owned.ours own).1] at run
      cases run
      exact minds_bind_any (ih fun q hq => sub q (List.mem_cons_of_mem _ hq))
        fun _ _ _ => minds_pure _
  have giving (found : List (Nat × OwnedNode)) (sub : ∀ p ∈ found, p ∈ s.instances id)
    {s₁ : Stage} {h₁ : MemoryHost κ} (st₁ : Standing base mount others s₁ h₁.document)
    (distinct : found.Pairwise fun p q => p.1 ≠ q.1)
    (there : ∀ p ∈ found, ∃ l, s₁.layers[p.1]? = some l ∧ l.frames[id]? = some p.2)
    (childless : ∀ p ∈ found, h₁.document.children p.2.id = []) :
      Minds base l (found.forM fun p => Stage.withdraw id p.1 p.2) s₁ h₁ := by
    induction found generalizing s₁ h₁ with
    | nil => trivial
    | cons p found ih =>
      obtain ⟨apart, distinct⟩ := List.pairwise_cons.1 distinct
      obtain ⟨lyr, hl, here⟩ := there p List.mem_cons_self
      have own : p.2.id ∈ (stageNodes s₁ ++ others).map (·.id) := by
        refine List.mem_map_of_mem (List.mem_append_left _ (mem_stageNodes.2 ⟨p.1, lyr, hl, ?_⟩))
        exact mem_layerNodes.2 (.inr (.inr ⟨id, here⟩))
      have reset := proper_reset st₁.owned own (granted p (sub p List.mem_cons_self))
      have withdrawn : Minds base l (Stage.withdraw id p.1 p.2) s₁ h₁ :=
        minds_modify_bind (minds_onPools (minds_put st₁.owned.stocked .div reset))
      refine minds_bind withdrawn ((st₁.withdraw hl here (childless p List.mem_cons_self)).ends ?_)
      rintro _ s₂ h₂ ⟨shrunk, ⟨ps, rfl⟩, none_below⟩
      refine ih (fun q hq => sub q (List.mem_cons_of_mem _ hq)) shrunk.standing distinct ?_ ?_
      · intro q hq
        rw [stripped_there (apart q hq).symm]
        exact there q (List.mem_cons_of_mem _ hq)
      · exact fun q hq => none_below _ (childless q (List.mem_cons_of_mem _ hq))
  unfold Stage.removeContainer
  refine minds_get_bind ?_
  dsimp only
  split
  · trivial
  · have issued (p) (hp : p ∈ s.instances id) : h.document.issued p.2.id :=
      (st.owned.ours (held p hp)).1
    refine minds_bind (counting _ (fun _ hp => hp) s) ((ends_childCounts _ issued _).2 ?_)
    split
    · trivial
    next vacant =>
      have childless (p) (hp : p ∈ s.instances id) : h.document.children p.2.id = [] := by
        have none_below := total_eq_zero.1 (Nat.eq_zero_of_not_pos vacant)
        exact List.length_eq_zero_iff.1 (none_below _ (List.mem_map_of_mem hp))
      refine minds_bind_any
        (giving _ (fun _ hp => hp) st pairwise_instances (fun p hp => mem_instances.1 hp) childless)
          fun _ _ _ => ?_
      refine minds_modify_bind
        (minds_ask (proper_of_named ?_ (fun _ _ same => by cases same) trivial))
      exact fun n hn => absurd hn List.not_mem_nil

lemma minds_addContainer (parent : Option UInt32) :
    Minds base l (Stage.addContainer id parent) s h := by
  refine minds_get_bind ?_
  dsimp only
  split
  · trivial
  · split
    · split
      · trivial
      · exact minds_modify _
    · exact minds_modify _

lemma minds_updateContainer (g : Geometry) : Minds base l (Stage.updateContainer id g) s h := by
  refine minds_get_bind ?_
  split
  · trivial
  · refine minds_modify_bind
      (minds_ask (proper_of_named ?_ (fun _ _ same => by cases same) trivial))
    exact fun n hn => absurd hn List.not_mem_nil

end Stages

end LayeredPage.Proofs
