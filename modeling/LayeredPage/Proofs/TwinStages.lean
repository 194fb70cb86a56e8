import LayeredPage.Proofs.Containers
import LayeredPage.Proofs.Twins

/-!
# Two stages alike

Stages with the same containers and the same layers under different names. A node of the first is a
node of the second under its other name, so both find the same places and grow alike.
-/

namespace LayeredPage.Proofs

/-- Two stages alike, while `others` are held by others, who also watch `ws`. -/
structure StageTwins {κ : Type} (base : Nat) (f : NodeId → NodeId) (others : List OwnedNode)
    (ws : List (NodeId × Nat)) (s s' : Stage) (h h' : MemoryHost κ) : Prop where
  mount : s'.mount = s.mount
  below : s.mount.index < base
  layers : s'.layers = s.layers.map (renamedLayer f)
  containers : s'.containers = s.containers
  surfaces : ∀ i, i ∈ s'.surfaces ↔ i ∈ s.surfaces
  twins : Twins base f (stageNodes s ++ others) ws s.pools s'.pools h h'
  apart : ∀ p ∈ ws, p.1 ∈ others.map (·.id)

/-- Work on both stages has left them alike, with what others hold under the names it had. -/
def Staged {κ : Type} (base : Nat) (f : NodeId → NodeId) (others : List OwnedNode)
    (ws : List (NodeId × Nat))
    (s : Stage) (h : MemoryHost κ) (s' : Stage) (h' : MemoryHost κ) : Prop :=
  ∃ f', Steady base others f f' ∧ StageTwins base f' others ws s s' h h'

/-- What others hold and watch may be listed otherwise, and more of it watched. -/
lemma StageTwins.perm {κ : Type} {base : Nat} {f : NodeId → NodeId}
    {others others' : List OwnedNode}
    {ws ws' : List (NodeId × Nat)} {s s' : Stage} {h h' : MemoryHost κ}
    (st : StageTwins base f others ws s s' h h')
    (perm : others.Perm others') (more : ∀ p ∈ ws, p ∈ ws')
    (apart : ∀ p ∈ ws', p.1 ∈ others'.map (·.id)) :
    StageTwins base f others' ws' s s' h h' :=
  ⟨st.mount, st.below, st.layers, st.containers, st.surfaces,
    st.twins.perm (perm.append_left _) more, apart⟩

section Building

variable {κ : Type} [Core κ] {base : Nat} {f : NodeId → NodeId} {mine : List OwnedNode}
  {ws : List (NodeId × Nat)} {w w' : Workshop} {h h' : MemoryHost κ} {mount : NodeId}
  {refused : PatchError → Workshop → MemoryHost κ → Workshop → MemoryHost κ → Prop}

/-- A surface is registered in both runs, or is there twice in both. -/
lemma sync_register {index : Nat} {canvas canvas' : NodeId} {ps ps' : NodePools} {t t' : Surfaces}
    (surfaces : ∀ i, i ∈ t' ↔ i ∈ t)
    {post : Unit → Workshop → MemoryHost κ → Unit → Workshop → MemoryHost κ → Prop}
    (next : ∀ t t' : Surfaces, (∀ i, i ∈ t' ↔ i ∈ t) → post () ⟨ps, t⟩ h () ⟨ps', t'⟩ h') :
    Sync (Workshop.register index canvas) (Workshop.register index canvas') ⟨ps, t⟩ h
      ⟨ps', t'⟩ h' post refused := by
  unfold Workshop.register
  refine sync_bind (sync_get ?_)
  have same : t'.contains index = t.contains index := by
    rw [Bool.eq_iff_iff, Std.ExtTreeMap.contains_iff_mem, Std.ExtTreeMap.contains_iff_mem, surfaces]
  rw [same]
  cases t.contains index with
  | true => exact sync_bind (sync_broken _)
  | false =>
    refine sync_modify (next _ _ fun i => ?_)
    rw [Std.ExtTreeMap.mem_insert, Std.ExtTreeMap.mem_insert, surfaces]

/-- A node is hung under a foreign one, which has the same name in both runs. -/
lemma Twins.hangForeign {σ : Type} {s s' : σ} {c : NodeId}
    {post : Unit → σ → MemoryHost κ → Unit → σ → MemoryHost κ → Prop}
    {refused : PatchError → σ → MemoryHost κ → σ → MemoryHost κ → Prop} {ps ps' : NodePools}
    (twins : Twins base f mine ws ps ps' h h') (below : mount.index < base)
    (hc : c ∈ mine.map (·.id))
    (next : ∀ h h', Twins base f mine ws ps ps' h h' → post () s h () s' h') :
    Sync (liftM (ask (.appendChild mount c))) (liftM (ask (.appendChild mount (f c)))) s h s'
      h' post refused := by
  have hung :
      Sync (liftM (ask (.appendChild mount c)))
        (liftM (ask (.appendChild (f mount) (f c)))) s h s' h' post
        refused := twins.hang (.inl below) hc next
  rwa [twins.foreign mount below] at hung

/-- A layer is built in both runs. -/
theorem Twins.build (twins : Twins base f mine ws w.pools w'.pools h h')
    (below : mount.index < base) (surfaces : ∀ i, i ∈ w'.surfaces ↔ i ∈ w.surfaces) (index : Nat) :
    Sync (Layer.build mount index) (Layer.build mount index) w h w' h'
      (fun l w h l' w' h' => ∃ f', Steady base mine f f' ∧ l' = renamedLayer f' l ∧ l.frames = ∅ ∧
        (∀ i, i ∈ w'.surfaces ↔ i ∈ w.surfaces) ∧
        Twins base f' (l.canvas :: l.overlay :: mine) ws w.pools w'.pools h h') refused := by
  unfold Layer.build
  refine sync_bind (sync_focus ((twins.take .canvas).mono ?_ fun _ _ _ _ _ kept => kept))
  rintro canvas ps₁ h₁ _ ps₁' h₁' ⟨f₁, steady₁, rfl, _, twins⟩
  refine sync_bind (sync_focus ((twins.take .div).mono ?_ fun _ _ _ _ _ kept => kept))
  rintro overlay ps₂ h₂ _ ps₂' h₂' ⟨f₂, steady₂, rfl, _, twins⟩
  have hc : Known base (overlay :: canvas :: mine) canvas.id := .inr (by simp)
  have ho : Known base (overlay :: canvas :: mine) overlay.id := .inr (by simp)
  rw [← steady₂.node List.mem_cons_self]
  refine sync_bind (twins.write hc (.attr "class" Layer.canvasClass) fun _ _ twins => ?_)
  refine sync_bind (twins.write hc (.attr "id" (Layer.surfaceName index)) fun _ _ twins => ?_)
  refine sync_bind (twins.write hc (.style "z-index" (toString index)) fun _ _ twins => ?_)
  refine sync_bind (twins.write ho (.attr "class" Layer.overlayClass) fun _ _ twins => ?_)
  refine sync_bind (twins.write ho (.style "z-index" (toString index)) fun _ _ twins => ?_)
  refine sync_bind (twins.hangForeign below (by simp) fun _ _ twins => ?_)
  refine sync_bind (twins.hangForeign below (by simp) fun _ _ twins => ?_)
  refine sync_bind (sync_register surfaces fun t t' surfaces => ?_)
  refine sync_bind (sync_script rfl rfl (sync_pure ⟨f₂, ?_, ?_, rfl, surfaces, ?_⟩))
  · exact steady₁.trans (steady₂.sub fun n hn => List.mem_cons_of_mem _ hn)
  · simp [renamedLayer]
  · exact (twins.withCore (Core.addContext index)).perm (.swap ..) fun _ hp => hp

end Building

section Layers

variable {f : NodeId → NodeId} {s : Stage} {l : Layer} {id : UInt32}
  {inner ids : List UInt32} {x : Option UInt32} {root : NodeId} {i : Nat}

/-- A change to one layer is the same change under other names. -/
lemma map_modify_eq {ls : Array Layer} {g g' : Layer → Layer}
    (same : ∀ l, renamedLayer f (g l) = g' (renamedLayer f l)) :
    (ls.modify i g).map (renamedLayer f) = (ls.map (renamedLayer f)).modify i g' := by
  refine Array.ext_getElem? fun j => ?_
  rw [Array.getElem?_map, Array.getElem?_modify, Array.getElem?_modify, Array.getElem?_map]
  split
  · cases ls[j]? with
    | none => rfl
    | some l => exact congrArg some (same l)
  · rfl

def renamedRoute (f : NodeId → NodeId) : Stage.Route → Stage.Route
  | .down base missing => .down (f base) missing
  | .unknown id => .unknown id
  | .endless id => .endless id

/-- The climb goes the same way under other names. -/
lemma route_renamed {s' : Stage} (containers : s'.containers = s.containers) (fuel : Nat) :
    s'.route (renamedLayer f l) fuel id inner = renamedRoute f (s.route l fuel id inner) := by
  induction fuel generalizing id inner with
  | zero => rfl
  | succ fuel ih =>
    rw [Stage.route, Stage.route, renamedLayer, Std.ExtTreeMap.getElem?_map, containers]
    cases l.frames[id]? with
    | some node => rfl
    | none =>
      cases s.containers[id]? with
      | none => rfl
      | some c =>
        dsimp only [Option.map_none]
        cases c.parent with
        | none => rfl
        | some p => exact ih

end Layers

section Growing

variable {κ : Type} [Core κ] {base : Nat} {f : NodeId → NodeId} {others : List OwnedNode}
  {ws : List (NodeId × Nat)} {s s' : Stage} {h h' : MemoryHost κ} {layer : Nat} {l : Layer}
  {refused : PatchError → Stage → MemoryHost κ → Stage → MemoryHost κ → Prop}

lemma known_others {mine : List OwnedNode} : ∀ n ∈ others, n ∈ mine ++ others :=
  fun _ => List.mem_append_right _

theorem StageTwins.addLayer (st : StageTwins base f others ws s s' h h') :
    Sync Stage.addLayer Stage.addLayer s h s' h'
      (fun _ s h _ s' h' => Staged base f others ws s h s' h') refused := by
  unfold Stage.addLayer
  refine sync_bind (sync_get (sync_bind (sync_focus ?_)))
  have size : s'.layers.size = s.layers.size := by rw [st.layers, Array.size_map]
  rw [st.mount, size]
  refine (st.twins.build st.below st.surfaces _).mono ?_ fun _ _ _ _ _ kept => kept
  rintro l w h₁ _ w' h₁' ⟨f', steady, rfl, empty, surfaces, twins⟩
  refine sync_modify ⟨f', steady.sub known_others, rfl, st.below, ?_, st.containers,
    surfaces, ?_, st.apart⟩
  · dsimp only
    rw [st.layers, Array.map_push, steady.layers fun n hn => List.mem_append_left _ hn]
  · exact twins.perm ((stageNodes_push_perm empty).append_right others).symm fun _ hp => hp

theorem StageTwins.addLayers (count : Nat) {s s' : Stage} {h h' : MemoryHost κ}
    {f : NodeId → NodeId} (st : StageTwins base f others ws s s' h h') :
    Sync (Stage.addLayers count) (Stage.addLayers count) s h s' h'
      (fun _ s h _ s' h' => Staged base f others ws s h s' h') refused := by
  induction count generalizing s s' h h' f with
  | zero => exact sync_pure ⟨f, .refl f, st⟩
  | succ count ih =>
    refine sync_bind (st.addLayer.mono ?_ fun _ _ _ _ _ kept => kept)
    rintro _ s₁ h₁ _ s₁' h₁' ⟨f₁, steady₁, st₁⟩
    refine (ih st₁).mono ?_ fun _ _ _ _ _ kept => kept
    exact fun _ _ _ _ _ _ ⟨f₂, steady₂, st₂⟩ => ⟨f₂, steady₁.trans steady₂, st₂⟩

theorem StageTwins.growTo (st : StageTwins base f others ws s s' h h') (top : UInt32) :
    Sync (Stage.growTo top) (Stage.growTo top) s h s' h'
      (fun _ s h _ s' h' => Staged base f others ws s h s' h')
      refused := by
  refine sync_bind (sync_get ?_)
  rw [st.layers, Array.size_map]
  exact st.addLayers _

/-- A place on both stages, under the two names of one node. -/
def Spotted {κ : Type} (base : Nat) (f : NodeId → NodeId) (others : List OwnedNode)
    (ws : List (NodeId × Nat))
    (t : NodeId) (s : Stage) (h : MemoryHost κ) (t' : NodeId) (s' : Stage)
    (h' : MemoryHost κ) : Prop :=
  ∃ f', Steady base others f f' ∧ StageTwins base f' others ws s s' h h' ∧ t' = f' t ∧
    t ∈ (stageNodes s).map (·.id)

/-- A container gets its node on a layer of both stages. -/
theorem StageTwins.instantiate (st : StageTwins base f others ws s s' h h')
    {id : UInt32} {parent : NodeId} (hl : s.layers[layer]? = some l) (new : l.frames[id]? = none)
    (above : parent ∈ (stageNodes s).map (·.id)) :
    Sync (Stage.instantiate layer parent id) (Stage.instantiate layer (f parent) id) s h s' h'
      (fun t s₁ h₁ t' s₁' h₁' => Spotted base f others ws t s₁ h₁ t' s₁' h₁' ∧
        ∃ l₁, s₁.layers[layer]? = some l₁ ∧ ∀ j : UInt32, j ≠ id →
          l₁.frames[j]? = l.frames[j]?) refused := by
  unfold Stage.instantiate
  refine sync_bind (sync_onPools ((st.twins.take .div).mono ?_ fun _ _ _ _ _ kept => kept))
  rintro node ps₁ h₁ _ ps₁' h₁' ⟨f', steady, rfl, _, twins⟩
  have known : Known base (stageNodes s ++ others) parent := .beside (.inr above) others
  have held : node.id ∈ (node :: (stageNodes s ++ others)).map (·.id) := List.mem_cons_self
  rw [← steady parent known]
  refine sync_bind
    (twins.write (.inr held) (.attr "class" Stage.containerClass) fun _ _ twins => ?_)
  refine sync_bind
    (twins.write (.inr held) (.attr Stage.containerIdAttribute (toString id)) fun _ _ twins => ?_)
  refine sync_bind (twins.write (.inr held) (.style "clip-path" _) fun _ _ twins => ?_)
  refine sync_bind (twins.write (.inr held) (.style "-webkit-clip-path" _) fun _ _ twins => ?_)
  refine sync_bind (twins.hang (known.cons node) held fun h₂ h₂' twins => ?_)
  refine sync_bind
    (sync_modify (sync_pure ⟨⟨f', steady.sub known_others, ⟨st.mount, st.below, ?_, st.containers,
      st.surfaces, ?_, st.apart⟩, rfl, ?_⟩, _, furnished_here hl, fun j other => ?_⟩))
  · dsimp only
    rw [st.layers, ← steady.layers fun n hn => List.mem_append_left _ hn]
    refine (map_modify_eq fun l => ?_).symm
    simp only [renamedLayer, map_insert_eq]
  · exact twins.perm ((stageNodes_insert hl new).append_right others).symm fun _ hp => hp
  · exact (stageNodes_insert (n := node) hl new).map _ |>.mem_iff.2 List.mem_cons_self
  · exact getElem?_insert_of_ne other

/-- Containers get their nodes on both stages, outermost first. -/
theorem StageTwins.descend (missing : List UInt32) {s s' : Stage} {h h' : MemoryHost κ}
    {f : NodeId → NodeId} {l : Layer}
    {root : NodeId} (st : StageTwins base f others ws s s' h h') (hl : s.layers[layer]? = some l)
    (new : ∀ id ∈ missing, l.frames[id]? = none) (distinct : missing.Nodup)
    (above : root ∈ (stageNodes s).map (·.id)) :
    Sync (missing.foldlM (Stage.instantiate layer) root)
    (missing.foldlM (Stage.instantiate layer) (f root)) s h s' h'
      (Spotted base f others ws) refused := by
  induction missing generalizing s s' h h' f l root with
  | nil => exact sync_pure ⟨f, .refl f, st, rfl, above⟩
  | cons id missing ih =>
    obtain ⟨first, distinct⟩ := List.nodup_cons.1 distinct
    rw [List.foldlM_cons, List.foldlM_cons]
    refine sync_bind
      ((st.instantiate hl (new id List.mem_cons_self) above).mono ?_ fun _ _ _ _ _ kept => kept)
    rintro t s₁ h₁ _ s₁' h₁' ⟨⟨f₁, steady₁, st₁, rfl, above₁⟩, l₁, hl₁, same⟩
    refine (ih st₁ hl₁ (fun j hj => ?_) distinct above₁).mono ?_ fun _ _ _ _ _ kept => kept
    · have other : j ≠ id := fun eq => first (eq ▸ hj)
      rw [same j other, new j (List.mem_cons_of_mem _ hj)]
    · exact fun _ _ _ _ _ _ ⟨f₂, steady₂, found⟩ => ⟨f₂, steady₁.trans steady₂, found⟩

/-- A place is found on both stages, or on neither for the same reason. -/
theorem StageTwins.attachPoint (st : StageTwins base f others ws s s' h h')
    (x : Option UInt32) (layer : Nat) (refusal : ∀ e, refused e s h s' h') :
    Sync (Stage.attachPoint x layer) (Stage.attachPoint x layer) s h s' h'
      (Spotted base f others ws) refused := by
  unfold Stage.attachPoint
  refine sync_bind (sync_get ?_)
  rw [st.layers, Array.getElem?_map]
  cases hl : s.layers[layer]? with
  | none => exact sync_broken _
  | some l =>
    have inside {n : NodeId} (hn : n ∈ (layerNodes l).map (·.id)) :
        n ∈ (stageNodes s).map (·.id) := by
      obtain ⟨node, place, rfl⟩ := List.mem_map.1 hn
      exact List.mem_map_of_mem (mem_stageNodes.2 ⟨layer, l, hl, place⟩)
    cases x with
    | none =>
      have overlay := inside (List.mem_map_of_mem (mem_layerNodes.2 (.inr (.inl rfl))))
      exact sync_pure ⟨f, .refl f, st, rfl, overlay⟩
    | some id =>
      simp only [Option.map_some, route_renamed st.containers, st.containers]
      cases found : s.route l (s.containers.size + 1) id [] with
      | down root missing =>
        obtain ⟨ids, a, rfl⟩ := route_sound found
        rw [List.append_nil]
        refine st.descend _ hl (fun j hj => ?_) ?_ (inside a.root_mem)
        · exact (a.passed (List.mem_reverse.1 hj)).1
        · exact List.nodup_reverse.2 a.nodup
      | unknown id' => exact sync_throw (refusal _)
      | endless id' => exact sync_broken _

/-- A node is hung at a place of both stages, which have grown even where there is no such place. -/
theorem StageTwins.addElement (st : StageTwins base f others ws s s' h h') {n : NodeId}
    (hn : n ∈ others.map (·.id)) (x : Option UInt32) (layer : UInt32) :
    Sync (Stage.addElement n x layer) (Stage.addElement (f n) x layer) s h s' h'
      (fun _ s h _ s' h' => Staged base f others ws s h s' h')
      (fun _ s h s' h' => Staged base f others ws s h s' h') := by
  unfold Stage.addElement
  refine sync_bind ((st.growTo layer).mono ?_ fun _ _ _ _ _ kept => kept)
  rintro _ s₁ h₁ _ s₁' h₁' ⟨f₁, steady₁, st₁⟩
  refine sync_bind
    ((st₁.attachPoint x layer.toNat fun _ => ⟨f₁, steady₁, st₁⟩).mono ?_ fun _ _ _ _ _ kept => kept)
  rintro t s₂ h₂ _ s₂' h₂' ⟨f₂, steady₂, st₂, rfl, above⟩
  have steady := steady₁.trans steady₂
  have held : n ∈ (stageNodes s₂ ++ others).map (·.id) := by
    rw [List.map_append]
    exact List.mem_append_right _ hn
  rw [← steady n (.inr hn)]
  exact st₂.twins.hang (.beside (.inr above) others) held fun h₃ h₃' twins =>
    ⟨f₂, steady, { st₂ with twins }⟩

end Growing

section Containers

variable {κ : Type} [Core κ] {base : Nat} {f : NodeId → NodeId} {others : List OwnedNode}
  {ws : List (NodeId × Nat)} {s s' : Stage} {h h' : MemoryHost κ} {id : UInt32}

omit [Core κ] in
/-- The same container is entered in both tables. -/
lemma StageTwins.list (st : StageTwins base f others ws s s' h h') (c : Container) :
    StageTwins base f others ws { s with containers := s.containers.insert id c }
      { s' with containers := s'.containers.insert id c } h h' :=
  ⟨st.mount, st.below, st.layers, by dsimp only; rw [st.containers],
    st.surfaces, st.twins, st.apart⟩

theorem StageTwins.addContainer (st : StageTwins base f others ws s s' h h')
    (parent : Option UInt32) :
    Sync (Stage.addContainer id parent) (Stage.addContainer id parent) s h s' h'
      (fun _ s h _ s' h' => Staged base f others ws s h s' h')
      (fun _ s h s' h' => Staged base f others ws s h s' h') := by
  unfold Stage.addContainer
  have stay : Staged base f others ws s h s' h' := ⟨f, .refl f, st⟩
  have enter :
      Staged base f others ws { s with containers := s.containers.insert id (.start parent) } h
      { s' with containers := s'.containers.insert id (.start parent) } h' :=
        ⟨f, .refl f, st.list _⟩
  refine sync_bind (sync_get ?_)
  rw [st.containers]
  cases s.containers.contains id with
  | true => exact sync_bind (sync_throw stay)
  | false =>
    cases parent with
    | none => exact sync_modify enter
    | some p =>
      cases there : s.containers.contains p with
      | false =>
        simp only [there]
        exact sync_bind (sync_throw stay)
      | true =>
        simp only [there]
        exact sync_modify enter

theorem StageTwins.updateContainer (st : StageTwins base f others ws s s' h h') (g : Geometry) :
    Sync (Stage.updateContainer id g) (Stage.updateContainer id g) s h s' h'
      (fun _ s h _ s' h' => Staged base f others ws s h s' h')
      (fun _ s h s' h' => Staged base f others ws s h s' h') := by
  unfold Stage.updateContainer
  refine sync_bind (sync_get ?_)
  rw [st.containers]
  cases s.containers[id]? with
  | none => exact sync_throw ⟨f, .refl f, st⟩
  | some c =>
    have listed :
        StageTwins base f others ws { s with containers := s.containers.insert id _ } _ h h' :=
          st.list (c.merge g)
    refine sync_bind (sync_modify ?_)
    refine listed.twins.property (·.insert _ _) (fun _ => rfl) fun h₁ h₁' twins => ?_
    exact ⟨f, .refl f, { listed with twins }⟩

lemma instances_renamed (layers : s'.layers = s.layers.map (renamedLayer f)) :
    s'.instances id = (s.instances id).map fun p => (p.1, renamedNode f p.2) := by
  unfold Stage.instances
  rw [layers, Array.toList_map, List.zipIdx_map, List.filterMap_map, List.map_filterMap]
  refine List.filterMap_congr fun p _ => ?_
  simp [renamedLayer, Function.comp_def]

variable {refused : PatchError → Stage → MemoryHost κ → Stage → MemoryHost κ → Prop}

lemma StageTwins.childCounts (found : List (Nat × OwnedNode))
    (st : StageTwins base f others ws s s' h h') (inside : ∀ p ∈ found, p.2 ∈ stageNodes s)
    {post : List Nat → Stage → MemoryHost κ → List Nat → Stage → MemoryHost κ → Prop}
    (next : ∀ counts, post counts s h counts s' h') :
    Sync (found.mapM fun (_, node) => ask (.childCount node.id) : Work Stage (List Nat))
      ((found.map fun p => (p.1, renamedNode f p.2)).mapM fun (_, node) =>
        ask (.childCount node.id) : Work Stage (List Nat))
      s h s' h' post refused := by
  induction found generalizing post with
  | nil => exact sync_pure (next [])
  | cons p found ih =>
    rw [List.map_cons, List.mapM_cons, List.mapM_cons]
    have known : Known base (stageNodes s ++ others) p.2.id :=
      .beside (known_of_stage (inside p List.mem_cons_self)) others
    refine sync_bind (st.twins.childCount known fun count => sync_bind ?_)
    exact ih (fun q hq => inside q (List.mem_cons_of_mem _ hq)) fun counts => sync_pure (next _)

/-- A container's node on a layer is given back on both stages. -/
theorem StageTwins.withdraw (st : StageTwins base f others ws s s' h h') {layer : Nat}
    {l : Layer} {node : OwnedNode}
    (hl : s.layers[layer]? = some l) (found : l.frames[id]? = some node) (kind : node.kind = .div) :
    Sync (Stage.withdraw id layer node) (Stage.withdraw id layer (renamedNode f node)) s h s' h'
      (fun _ s₁ h₁ _ s₁' h₁' => (∃ ps, s₁ = stripped s ps layer id) ∧
        StageTwins base f others ws s₁ s₁' h₁ h₁')
      refused := by
  unfold Stage.withdraw
  have joined := (stageNodes_erase hl found).append_right others
  have twins := st.twins.perm joined fun _ hp => hp
  refine sync_bind (sync_modify (sync_onPools ?_))
  rw [← kind]
  refine (twins.put fun i watched => ?_).mono ?_ fun _ _ _ _ _ kept => kept
  · have distinct := twins.owned.nodup
    rw [List.map_append, List.nodup_append, List.cons_append, List.map_cons, List.nodup_cons,
      List.map_append] at distinct
    exact distinct.2.1.1 (List.mem_append_right _ (st.apart _ watched))
  · rintro _ ps h₁ _ ps' h₁' twins
    refine ⟨⟨ps, rfl⟩, st.mount, st.below, ?_, st.containers, st.surfaces, twins, st.apart⟩
    dsimp only
    rw [st.layers]
    refine (map_modify_eq fun l => ?_).symm
    simp only [renamedLayer, map_erase_eq]

/-- The nodes of a container, one for each layer, are given back on both stages. -/
theorem StageTwins.withdrawAll (found : List (Nat × OwnedNode)) {s s' : Stage} {h h' : MemoryHost κ}
    (st : StageTwins base f others ws s s' h h') (distinct : found.Pairwise fun p q => p.1 ≠ q.1)
    (there : ∀ p ∈ found, ∃ l, s.layers[p.1]? = some l ∧ l.frames[id]? = some p.2)
    (kinds : ∀ p ∈ found, p.2.kind = .div) :
    Sync (found.forM fun (layer, node) => Stage.withdraw id layer node)
      ((found.map fun p => (p.1, renamedNode f p.2)).forM fun (layer, node) =>
        Stage.withdraw id layer node) s h s' h'
      (fun _ s h _ s' h' => StageTwins base f others ws s s' h h') refused := by
  induction found generalizing s s' h h' with
  | nil => exact sync_pure st
  | cons p found ih =>
    obtain ⟨apart, distinct⟩ := List.pairwise_cons.1 distinct
    obtain ⟨l, hl, here⟩ := there p List.mem_cons_self
    refine sync_bind
      ((st.withdraw hl here (kinds p List.mem_cons_self)).mono ?_ fun _ _ _ _ _ kept => kept)
    rintro _ s₁ h₁ _ s₁' h₁' ⟨⟨ps, rfl⟩, st₁⟩
    refine ih st₁ distinct (fun q hq => ?_) fun q hq => kinds q (List.mem_cons_of_mem _ hq)
    rw [stripped_there (apart q hq).symm]
    exact there q (List.mem_cons_of_mem _ hq)

/-- A container is removed from both stages, or is in use on both. -/
theorem StageTwins.removeContainer (st : StageTwins base f others ws s s' h h')
    (kinds : ∀ p ∈ s.instances id, p.2.kind = .div) :
    Sync (Stage.removeContainer id) (Stage.removeContainer id) s h s' h'
      (fun _ s h _ s' h' => Staged base f others ws s h s' h')
      (fun _ s h s' h' => Staged base f others ws s h s' h') := by
  unfold Stage.removeContainer
  have stay : Staged base f others ws s h s' h' := ⟨f, .refl f, st⟩
  refine sync_bind (sync_get ?_)
  rw [instances_renamed st.layers, st.containers]
  cases s.containers.contains id with
  | false => exact sync_bind (sync_throw stay)
  | true =>
    refine sync_bind (st.childCounts _ (fun p hp => ?_) fun counts => ?_)
    · obtain ⟨l, hl, found⟩ := mem_instances.1 hp
      exact mem_stageNodes.2 ⟨p.1, l, hl, mem_layerNodes.2 (.inr (.inr ⟨id, found⟩))⟩
    dsimp only
    by_cases used : 0 < Stage.total counts
    · rw [if_pos used, if_pos used]
      exact sync_bind (sync_throw stay)
    · rw [if_neg used, if_neg used]
      refine sync_bind
        ((st.withdrawAll _ pairwise_instances (fun p hp => mem_instances.1 hp) kinds).mono ?_
          fun _ _ _ _ _ kept => kept)
      rintro _ s₁ h₁ _ s₁' h₁' st₁
      refine sync_bind (sync_modify ?_)
      refine st₁.twins.property (·.erase _) (fun _ => rfl) fun h₂ h₂' twins => ?_
      exact ⟨f, .refl f, st₁.mount, st₁.below, st₁.layers, congrArg (·.erase id) st₁.containers,
        st₁.surfaces, twins,
        st₁.apart⟩

end Containers

end LayeredPage.Proofs
