import LayeredPage.Proofs.Housing

/-!
# Calls and who hangs where

Layers are raised, containers get nodes and lose them, callers hang nodes of their own on the stage,
take them away and do with them what they like. After each call, also after one that is refused,
everybody on a layer hangs where it should, and each layer knows its place.
-/

namespace LayeredPage.Proofs

open MemoryDocument

/-- Everybody hangs where it should, and the layers know their places. -/
structure Arranged (s : Stage) (hand : List OwnedNode) (d : MemoryDocument) : Prop where
  quartered : Quartered s hand d
  tiered : Tiered s

namespace Arranged

variable {s : Stage} {hand : List OwnedNode} {h : MemoryHost Recorder} {layer : Nat}
  {l : Layer} {id : UInt32}

/-! ## Growing -/

theorem addLayer (arranged : Arranged s hand h.document) :
    Yields Stage.addLayer s h fun _ s' h' => Arranged s' hand h'.document ∧
      s'.layers.size = s.layers.size + 1 ∧
      s'.containers = s.containers := by
  have free : s.layers.size ∉ s.surfaces :=
    fun inside => absurd ((arranged.tiered.surfaces _).1 inside) (lt_irrefl _)
  unfold Stage.addLayer Layer.build
  refine (ends_bind _ _ _).2 ((ends_get _).2 ((ends_bind _ _ _).2 ((ends_focus _ _).2 ?_)))
  refine (ends_bind _ _ _).2 ((ends_focus _ _).2 ((arranged.quartered.take .canvas).ends ?_))
  rintro canvas ps h₁ ⟨quartered₁, canvas_bare, _, _⟩
  refine (ends_bind _ _ _).2 ((ends_focus _ _).2 ((quartered₁.take .div).ends ?_))
  rintro overlay ps' h₂ ⟨quartered₂, overlay_bare, same₂, _⟩
  have hc : canvas.id ∈ (overlay :: canvas :: hand).map (·.id) := by simp
  have ho : overlay.id ∈ (overlay :: canvas :: hand).map (·.id) := by simp
  have other : canvas.id ≠ overlay.id := by
    have distinct := quartered₂.toApart.nodup.sublist ((List.sublist_append_right _ _).map _)
    rw [List.map_cons, List.nodup_cons] at distinct
    exact fun same => distinct.1 (by simp [same])
  refine quartered₂.write hc (.attr "class" Layer.canvasClass) rfl fun h₃ quartered₃ same₃ _ => ?_
  refine quartered₃.write hc (.attr "id" (Layer.surfaceName s.layers.size)) rfl
    fun h₄ quartered₄ same₄ _ => ?_
  refine quartered₄.write hc (.style "z-index" (toString s.layers.size)) rfl
    fun h₅ quartered₅ same₅ _ => ?_
  refine quartered₅.write ho (.attr "class" Layer.overlayClass) rfl fun h₆ quartered₆ same₆ _ => ?_
  refine quartered₆.write ho (.style "z-index" (toString s.layers.size)) rfl
    fun h₇ quartered₇ same₇ _ => ?_
  refine quartered₇.hang (.inl rfl) hc fun h₈ quartered₈ hung₈ _ => ?_
  refine quartered₈.hang (.inl rfl) ho fun h₉ quartered₉ hung₉ _ => ?_
  have fresh : s.surfaces.contains s.layers.size = false :=
    Bool.eq_false_iff.2 (mt Std.ExtTreeMap.contains_iff_mem.1 free)
  unfold Workshop.register
  refine (ends_bind _ _ _).2 ((ends_bind _ _ _).2 ((ends_get _).2 ?_))
  simp only [fresh]
  have dressed (m) : h₇.document.children m = h₂.document.children m := by
    rw [same₇, same₆, same₅, same₄, same₃]
  have away {m : NodeId} (hm : m ∈ (overlay :: canvas :: hand).map (·.id)) : m ≠ s.mount :=
    (quartered₇.loose hm).2.1
  have canvas_alone : h₉.document.children canvas.id = [] := by
    rw [hung₉, hung₈, dressed, same₂, canvas_bare, if_neg (away hc), if_neg (away hc)]
    rfl
  have overlay_alone : h₉.document.children overlay.id = [] := by
    rw [hung₉, hung₈, dressed, overlay_bare, if_neg (away ho), if_neg (away ho)]
    rfl
  have above : canvas.id ∈ h₉.document.children s.mount ∧
      overlay.id ∈ h₉.document.children s.mount := by
    rw [hung₉, hung₈, if_pos rfl, if_pos rfl]
    simp [other]
  have pushed :=
    (quartered₉.perm (List.Perm.swap ..)).push (l := ⟨s.layers.size, canvas, overlay, ∅⟩) rfl
      canvas_alone overlay_alone above
  refine ⟨⟨pushed.withSurfaces _,
    arranged.tiered.push (l := ⟨s.layers.size, canvas, overlay, ∅⟩) rfl rfl ⟨canvas.id, rfl⟩⟩,
    Array.size_push _, rfl⟩

theorem addLayers (count : Nat) {s : Stage} {h : MemoryHost Recorder}
    (arranged : Arranged s hand h.document) :
    Yields (Stage.addLayers count) s h fun _ s' h' => Arranged s' hand h'.document ∧
      s'.layers.size = s.layers.size + count ∧ s'.containers = s.containers := by
  induction count generalizing s h with
  | zero => exact ⟨arranged, rfl, rfl⟩
  | succ count ih =>
    refine (ends_bind _ _ _).2 (arranged.addLayer.ends ?_)
    rintro _ s₁ h₁ ⟨arranged₁, size, containers⟩
    refine (ih arranged₁).ends ?_
    rintro _ s₂ h₂ ⟨arranged₂, size₂, containers₂⟩
    exact ⟨arranged₂, by omega, containers₂.trans containers⟩

theorem growTo (arranged : Arranged s hand h.document) (top : UInt32) :
    Yields (Stage.growTo top) s h fun _ s' h' => Arranged s' hand h'.document ∧
      top.toNat < s'.layers.size ∧
      s'.containers = s.containers := by
  refine (ends_bind _ _ _).2 ((ends_get _).2 ((arranged.addLayers _).ends ?_))
  rintro _ s' h' ⟨arranged', size, containers⟩
  exact ⟨arranged', by omega, containers⟩

/-- A container gets its node on a layer, under one of the layer's holders. -/
theorem instantiate {parent : NodeId} (arranged : Arranged s hand h.document)
    (hl : s.layers[layer]? = some l) (new : l.frames[id]? = none) (hp : parent ∈ holders l) :
    Yields (Stage.instantiate layer parent id) s h fun t s' h' => Arranged s' hand h'.document ∧
      (s'.layers.size = s.layers.size ∧ s'.containers = s.containers) ∧
      ∃ l', s'.layers[layer]? = some l' ∧ t ∈ holders l' ∧ ∀ j : UInt32, j ≠ id →
        l'.frames[j]? = l.frames[j]? := by
  unfold Stage.instantiate
  refine (ends_bind _ _ _).2 ((ends_onPools _ _ _).2 ((arranged.quartered.take .div).ends ?_))
  rintro node ps h₁ ⟨quartered₁, bare, _, _⟩
  have hn : node.id ∈ (node :: hand).map (·.id) := List.mem_cons_self
  refine quartered₁.write hn (.attr "class" Stage.containerClass) rfl
    fun h₂ quartered₂ same₂ _ => ?_
  refine quartered₂.write hn (.attr Stage.containerIdAttribute (toString id)) rfl
    fun h₃ quartered₃ same₃ _ => ?_
  refine quartered₃.write hn (.style "clip-path" _) rfl fun h₄ quartered₄ same₄ _ => ?_
  refine quartered₄.write hn (.style "-webkit-clip-path" _) rfl fun h₅ quartered₅ same₅ _ => ?_
  refine quartered₅.hang (.inr ⟨layer, l, hl, hp⟩) hn fun h₆ quartered₆ hung₆ _ => ?_
  refine (ends_bind _ _ _).2 ((ends_modify _ _).2 ?_)
  have away : node.id ≠ parent := by
    rintro rfl
    exact (quartered₅.loose hn).1 (staged_of_holder hl hp)
  have alone : h₆.document.children node.id = [] := by
    rw [hung₆, same₅, same₄, same₃, same₂, bare, if_neg away]
    rfl
  have here : node.id ∈ h₆.document.children parent := by
    rw [hung₆, if_pos rfl]
    simp
  have joined := quartered₆.furnish hl new hp here alone
  refine ⟨⟨joined, arranged.tiered.of_bones (bones_modify (·.insert id node)) rfl⟩,
    ⟨by simp, rfl⟩, _,
    furnished_here hl, ?_, fun j other => getElem?_insert_of_ne other⟩
  exact mem_holders.2 (.inr ⟨id, node, by simp, rfl⟩)

/-- The containers passed on the climb get their nodes on the way back. -/
theorem descend {x : Option UInt32} {ids : List UInt32} {root : NodeId}
    (arranged : Arranged s hand h.document)
    (hl : s.layers[layer]? = some l) (a : Ascent s l x ids root) :
    Yields (ids.reverse.foldlM (Stage.instantiate layer) root) s h fun t s' h' =>
      Arranged s' hand h'.document ∧
      (s'.layers.size = s.layers.size ∧ s'.containers = s.containers) ∧
      ∃ l', s'.layers[layer]? = some l' ∧ t ∈ holders l' ∧ ∀ j : UInt32, j ∉ ids →
        l'.frames[j]? = l.frames[j]? := by
  induction a with
  | overlay => exact ⟨arranged, ⟨rfl, rfl⟩, l, hl, overlay_mem_holders, fun _ _ => rfl⟩
  | here found => exact ⟨arranged, ⟨rfl, rfl⟩, l, hl, frame_mem_holders found, fun _ _ => rfl⟩
  | @up id c ids root new hc rest ih =>
    rw [List.reverse_cons, List.foldlM_append]
    refine (ends_bind _ _ _).2 (ih.ends ?_)
    rintro parent s₁ h₁ ⟨arranged₁, ⟨size, containers⟩, l₁, hl₁, hp, same⟩
    have first : id ∉ ids := (List.nodup_cons.1 (Ascent.up new hc rest).nodup).1
    have new₁ : l₁.frames[id]? = none := by rw [same id first, new]
    refine (ends_bind _ _ _).2 ((arranged₁.instantiate hl₁ new₁ hp).ends ?_)
    rintro t s₂ h₂ ⟨arranged₂, ⟨size₂, containers₂⟩, l₂, hl₂, ht, same₂⟩
    refine ⟨arranged₂, ⟨size₂.trans size, containers₂.trans containers⟩, l₂,
      hl₂, ht, fun j hj => ?_⟩
    rw [List.mem_cons, not_or] at hj
    rw [same₂ j hj.1, same j hj.2]

theorem attachPoint (arranged : Arranged s hand h.document) (inside : layer < s.layers.size)
    (x : Option UInt32) :
    Ends (Stage.attachPoint x layer) s h
      (fun t s' h' => Arranged s' hand h'.document ∧
        ∃ l', s'.layers[layer]? = some l' ∧ t ∈ holders l')
      (fun _ s' h' => s' = s ∧ h' = h) fun _ => True := by
  have hl : s.layers[layer]? = some s.layers[layer] := Array.getElem?_eq_getElem inside
  unfold Stage.attachPoint
  refine (ends_bind _ _ _).2 ((ends_get _).2 ?_)
  simp only [hl]
  cases x with
  | none => exact ⟨arranged, _, hl, overlay_mem_holders⟩
  | some id =>
    dsimp only
    cases found : s.route s.layers[layer] (s.containers.size + 1) id [] with
    | unknown id => exact ⟨rfl, rfl⟩
    | endless id => trivial
    | down root missing =>
      obtain ⟨ids, ascent, passed⟩ := route_sound found
      obtain rfl : missing = ids.reverse := by simpa using passed
      refine (arranged.descend hl ascent).ends ?_
      rintro t s' h' ⟨arranged', _, l', hl', ht, _⟩
      exact ⟨arranged', l', hl', ht⟩

/-- A node in hand is hung on a layer. -/
theorem addElement {node : NodeId} (arranged : Arranged s hand h.document)
    (hn : node ∈ hand.map (·.id)) (x : Option UInt32) (layer : UInt32) :
    Ends (Stage.addElement node x layer) s h (fun _ s' h' => Arranged s' hand h'.document)
      (fun _ s' h' => Arranged s' hand h'.document) fun _ => True := by
  unfold Stage.addElement
  refine (ends_bind _ _ _).2 ((arranged.growTo layer).ends ?_)
  rintro _ s₁ h₁ ⟨arranged₁, inside, _⟩
  refine (ends_bind _ _ _).2 ((arranged₁.attachPoint inside x).mono ?_ ?_ fun _ _ => trivial)
  · rintro t s₂ h₂ ⟨arranged₂, l, hl, ht⟩
    rw [← bind_pure (liftM (ask (.appendChild t node)) : Work Stage Unit)]
    exact arranged₂.quartered.hang (.inr ⟨layer.toNat, l, hl, ht⟩) hn fun h₃ quartered₃ _ _ =>
      ⟨quartered₃, arranged₂.tiered⟩
  · rintro _ s₂ h₂ ⟨rfl, rfl⟩
    exact arranged₁

/-! ## Containers -/

/-- The table of containers and the properties of the document's root do not matter. -/
lemma publish {s' : Stage} {d : MemoryDocument} (arranged : Arranged s hand h.document)
    (stage : s' = { s with containers := s'.containers })
    (same : ∃ properties, d = { h.document with rootProperties := properties }) :
    Arranged s' hand d := by
  obtain ⟨properties, rfl⟩ := same
  rw [stage]
  have tidy := arranged.quartered.tidy
  have apart :
      Apart s.mount s.pools
        (stageNodes s ++ hand) { h.document with rootProperties := properties } :=
    arranged.quartered.toApart.change ⟨tidy.linked, tidy.observed, tidy.focused,
      tidy.sampled⟩ le_rfl
  have kept := arranged.quartered.of_children apart (fun _ hm => hm) fun _ => rfl
  exact ⟨⟨kept.toApart, kept.idle, kept.bare, kept.hung, kept.frames, kept.once, kept.below⟩,
    arranged.tiered.index,
    arranged.tiered.surfaces⟩

theorem withdraw {node : OwnedNode} (arranged : Arranged s hand h.document)
    (hl : s.layers[layer]? = some l)
    (found : l.frames[id]? = some node) (blank : h.document.children node.id = []) :
    Yields (Stage.withdraw id layer node) s h fun _ s' h' => Arranged s' hand h'.document ∧
      (∃ ps, s' = stripped s ps layer id) ∧
      ∀ m, h.document.children m = [] → h'.document.children m = [] := by
  unfold Stage.withdraw
  refine (ends_bind _ _ _).2 ((ends_modify _ _).2 ((ends_onPools _ _ _).2 ?_))
  have linked := arranged.quartered.tidy.linked
  refine ((arranged.quartered.unframe hl found blank).put .div).ends ?_
  rintro _ ps h' ⟨quartered', _, _, rfl⟩
  refine ⟨⟨quartered', arranged.tiered.of_bones (bones_modify (·.erase id)) rfl⟩, ⟨ps, rfl⟩,
    fun m none_below => ?_⟩
  rw [children_reset linked, none_below]
  split <;> rfl

theorem withdrawAll (found : List (Nat × OwnedNode)) {s : Stage} {h : MemoryHost Recorder}
    (arranged : Arranged s hand h.document) (distinct : found.Pairwise fun p q => p.1 ≠ q.1)
    (there : ∀ p ∈ found, ∃ l, s.layers[p.1]? = some l ∧ l.frames[id]? = some p.2)
    (blank : ∀ p ∈ found, h.document.children p.2.id = []) :
    Yields (found.forM fun (layer, node) => Stage.withdraw id layer node) s h fun _ s' h' =>
      Arranged s' hand h'.document := by
  induction found generalizing s h with
  | nil => exact arranged
  | cons p found ih =>
    obtain ⟨apart, distinct⟩ := List.pairwise_cons.1 distinct
    obtain ⟨l, hl, here⟩ := there p List.mem_cons_self
    refine (ends_bind _ _ _).2 ((arranged.withdraw hl here (blank p List.mem_cons_self)).ends ?_)
    rintro _ s₁ h₁ ⟨arranged₁, ⟨ps, rfl⟩, none_below⟩
    refine ih arranged₁ distinct (fun q hq => ?_) fun q hq =>
      none_below _ (blank q (List.mem_cons_of_mem _ hq))
    rw [stripped_there (apart q hq).symm]
    exact there q (List.mem_cons_of_mem _ hq)

theorem removeContainer (arranged : Arranged s hand h.document) (id : UInt32) :
    Ends (Stage.removeContainer id) s h (fun _ s' h' => Arranged s' hand h'.document)
    (fun _ s' h' => s' = s ∧ h' = h)
      fun _ => False := by
  unfold Stage.removeContainer
  refine (ends_bind _ _ _).2 ((ends_get _).2 ?_)
  dsimp only
  have issued (p) (hp : p ∈ s.instances id) : h.document.issued p.2.id := by
    obtain ⟨l, hl, hn⟩ := mem_instances.1 hp
    exact arranged.quartered.staged_issued (staged_of_frame hl hn)
  split
  · exact ⟨rfl, rfl⟩
  · refine (ends_bind _ _ _).2 ((ends_childCounts _ issued _).2 ?_)
    split
    · exact ⟨rfl, rfl⟩
    next vacant =>
      have blank (p) (hp : p ∈ s.instances id) : h.document.children p.2.id = [] := by
        have none_below := total_eq_zero.1 (Nat.eq_zero_of_not_pos vacant)
        exact List.length_eq_zero_iff.1 (none_below _ (List.mem_map_of_mem hp))
      refine (ends_bind _ _ _).2
        ((arranged.withdrawAll _ pairwise_instances (fun p hp => mem_instances.1 hp) blank).ends ?_)
      intro _ s₁ h₁ arranged₁
      exact arranged₁.publish rfl ⟨_, rfl⟩

theorem addContainer (arranged : Arranged s hand h.document) (id : UInt32) (x : Option UInt32) :
    Ends (Stage.addContainer id x) s h (fun _ s' h' => Arranged s' hand h'.document)
    (fun _ s' h' => s' = s ∧ h' = h)
      fun _ => False := by
  refine (ends_addContainer s h id x).mono ?_ (fun _ _ _ same => ⟨same.1, same.2.1⟩) fun _ =>
    False.elim
  rintro _ _ _ ⟨rfl, rfl, _⟩
  exact arranged.publish rfl ⟨_, rfl⟩

theorem updateContainer (arranged : Arranged s hand h.document) (id : UInt32) (g : Geometry) :
    Ends (Stage.updateContainer id g) s h (fun _ s' h' => Arranged s' hand h'.document)
    (fun _ s' h' => s' = s ∧ h' = h)
      fun _ => False := by
  unfold Stage.updateContainer
  refine (ends_bind _ _ _).2 ((ends_get _).2 ?_)
  cases s.containers[id]? with
  | none => exact ⟨rfl, rfl⟩
  | some c => exact arranged.publish rfl ⟨_, rfl⟩

/-! ## What callers do -/

/-- A node of the caller's joins the hand. -/
lemma welcome {n : OwnedNode} (arranged : Arranged s [] h.document)
    (foreign : Foreign s h.document n.id) : Arranged s [n] h.document := by
  obtain ⟨issued, strange⟩ := foreign
  have a := arranged.quartered.toApart
  refine ⟨arranged.quartered.of_children ⟨a.stocked, a.tidy, a.mounted, ?_, ?_⟩ (fun _ hm => hm)
    fun _ => rfl, arranged.tiered⟩
  · have distinct := a.distinct
    rw [List.append_nil] at distinct
    rw [← List.append_assoc, List.map_append, ← List.cons_append]
    refine List.nodup_append.2 ⟨distinct, List.nodup_singleton _, ?_⟩
    rintro m hm _ hn rfl
    obtain rfl : m = n.id := by simpa using hn
    exact strange hm
  · intro m hm
    rw [← List.append_assoc, List.mem_append, List.mem_singleton] at hm
    rcases hm with hm | rfl
    · exact a.issued m (by rwa [List.append_nil])
    · exact issued

lemma alone (arranged : Arranged s hand h.document) : Arranged s [] h.document := by
  refine ⟨arranged.quartered.of_children (arranged.quartered.toApart.fewer ?_) (fun _ hm => hm)
    fun _ => rfl, arranged.tiered⟩
  exact (List.nil_sublist hand).append_left _

/-- Whatever the caller asks about its own nodes, the stage keeps its own. -/
lemma ask (arranged : Arranged s [] h.document) {r : DocumentRequest} {reply : r.Reply}
    {d : MemoryDocument}
    (foreign : ∀ n ∈ named r, Foreign s h.document n) (run : answer r h.document = .ok (reply, d)) :
    Arranged s [] d := by
  have a := arranged.quartered.toApart
  have tidy := a.tidy.answered (fun n hn => (foreign n hn).1) run
  have own {p : NodeId} (hp : p ∈ s.mount :: (shelved s.pools ++ stageNodes s).map (·.id)) :
      h.document.issued p := by
    rcases List.mem_cons.1 hp with rfl | hp
    · exact a.mounted
    · obtain ⟨n, hn, rfl⟩ := List.mem_map.1 hp
      exact a.issued n (by rwa [List.append_nil])
  have stage {p : NodeId} (hp : p ∈ (stageNodes s).map (·.id)) :
      p ∈ s.mount :: (shelved s.pools ++ stageNodes s).map (·.id) := by
    rw [List.map_append]
    exact List.mem_cons_of_mem _ (List.mem_append_right _ hp)
  have beside (p) (hp : p ∈ s.mount :: (shelved s.pools ++ stageNodes s).map (·.id)) :
      Undisturbed p ((stageNodes s).map (·.id)) h.document d ∧
      h.document.nodes.size ≤ d.nodes.size := by
    refine Undisturbed.answered a.tidy.linked (fun n hn => ?_)
      (fun n hn => ⟨(foreign n hn).1, fun inside => ?_⟩) run
    · rcases List.mem_cons.1 hn with rfl | hn
      · exact own hp
      · exact own (stage hn)
    · rcases List.mem_cons.1 inside with rfl | inside
      · exact (foreign n hn).2 hp
      · exact (foreign n hn).2 (stage inside)
  refine ⟨arranged.quartered.quiet (a.change tidy (beside s.mount List.mem_cons_self).2) fun p hp =>
    (beside p hp).1, arranged.tiered⟩

end Arranged

end LayeredPage.Proofs
