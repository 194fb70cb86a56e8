import LayeredPage.Proofs.History
import LayeredPage.Proofs.TwinCrafts
import LayeredPage.Proofs.TwinStages

/-!
# Two scenes alike

Scenes with the same elements, stages and fonts, their nodes under different names. Each patch is
answered alike and leaves them alike, whichever of the two hands nodes out again.
-/

namespace LayeredPage.Proofs

/-- The samplers that elements watch. -/
def watchList (elements : Std.ExtTreeMap UInt32 Element) : List (NodeId × Nat) :=
  elements.toList.flatMap (watches ·.2)

/-- Two scenes alike. -/
structure SceneTwins {κ : Type} (base : Nat) (f : NodeId → NodeId) (s s' : Scene)
    (h h' : MemoryHost κ) : Prop where
  stage :
    StageTwins base f (elementNodes s.elements) (watchList s.elements) s.toStage s'.toStage h h'
  elements : s'.elements = renamedElements f s.elements
  fonts : s'.fonts = s.fonts
  config : s'.config = s.config

/-- Two scenes alike but for the element at hand, which may differ from the one that is entered
under its id. -/
structure HandTwins {κ : Type} (base : Nat) (f : NodeId → NodeId) (id : UInt32)
    (e : Element) (s s' : Scene) (h h' : MemoryHost κ) : Prop where
  stage :
    StageTwins base f (e.nodes ++ elementNodes (s.elements.erase id))
      (watches e ++ watchList (s.elements.erase id))
    s.toStage s'.toStage h h'
  elements : s'.elements.erase id = renamedElements f (s.elements.erase id)
  fonts : s'.fonts = s.fonts
  config : s'.config = s.config

section Tables

variable {elements : Std.ExtTreeMap UInt32 Element} {f : NodeId → NodeId} {id : UInt32}
  {e : Element} {p : NodeId × Nat}

lemma mem_watchList :
    p ∈ watchList elements ↔ ∃ (id : UInt32) (e : Element),
    elements[id]? = some e ∧ p ∈ watches e := by
  simp only [watchList, List.mem_flatMap, Prod.exists,
    Std.ExtTreeMap.mem_toList_iff_getElem?_eq_some]

lemma watched_mem (hp : p ∈ watchList elements) : p.1 ∈ (elementNodes elements).map (·.id) := by
  obtain ⟨id, e, he, hp⟩ := mem_watchList.1 hp
  rw [eq_leaf_of_watched hp]
  exact List.mem_map_of_mem (mem_elementNodes.2 ⟨id, e, he, List.mem_cons_self⟩)

lemma getElem?_renamed : (renamedElements f elements)[id]? = elements[id]?.map (renamedElement f) :=
  Std.ExtTreeMap.getElem?_map

lemma erase_renamed :
    (renamedElements f elements).erase id = renamedElements f (elements.erase id) :=
  map_erase_eq.symm

lemma insert_renamed :
    (renamedElements f elements).insert id (renamedElement f e) =
      renamedElements f (elements.insert id e) :=
  map_insert_eq.symm

lemma contains_renamed : (renamedElements f elements).contains id = elements.contains id :=
  Std.ExtTreeMap.contains_map

lemma focusable_renamed :
    ((renamedElement f e).parts ++ (renamedElement f e).options).filter (·.kind.isFocusable) =
    (e.fittings.filter (·.kind.isFocusable)).map (renamedNode f) := by
  have fittings : (renamedElement f e).parts ++ (renamedElement f e).options =
      e.fittings.map (renamedNode f) := by
    simp [renamedElement, Element.fittings]
  rw [fittings, List.filter_map]
  rfl

/-- Who watches holds the node, the element at hand included. -/
lemma watched_at_hand (hp : p ∈ watches e ++ watchList elements) :
    p.1 ∈ (e.nodes ++ elementNodes elements).map (·.id) := by
  rw [List.map_append]
  rcases List.mem_append.1 hp with own | other
  · rw [eq_leaf_of_watched own]
    exact List.mem_append_left _ List.mem_cons_self
  · exact List.mem_append_right _ (watched_mem other)

end Tables

section Hands

variable {κ : Type} {base : Nat} {f : NodeId → NodeId} {id : UInt32} {e e₁ : Element} {s s' : Scene}
  {h h' : MemoryHost κ}

/-- An element is taken from both tables. -/
lemma SceneTwins.pick (twins : SceneTwins base f s s' h h') (he : s.elements[id]? = some e) :
    HandTwins base f id e s s' h h' := by
  refine ⟨twins.stage.perm (elementNodes_erase he) (fun p hp => ?_) fun _ => watched_at_hand, ?_,
    twins.fonts, twins.config⟩
  · obtain ⟨j, e', he', watched⟩ := mem_watchList.1 hp
    by_cases same : j = id
    · subst same
      cases he.symm.trans he'
      exact List.mem_append_left _ watched
    · exact List.mem_append_right _
        (mem_watchList.2 ⟨j, e', getElem?_erase_iff.2 ⟨same, he'⟩, watched⟩)
  · rw [twins.elements, erase_renamed]

/-- The element at hand is entered in both tables. -/
lemma HandTwins.enter (hand : HandTwins base f id e s s' h h') :
    SceneTwins base f { s with elements := s.elements.insert id e }
      { s' with elements := s'.elements.insert id (renamedElement f e) } h h' := by
  refine ⟨hand.stage.perm elementNodes_insert.symm (fun p hp => ?_) fun _ => watched_mem, ?_,
    hand.fonts, hand.config⟩
  · refine mem_watchList.2 ?_
    rcases List.mem_append.1 hp with own | other
    · exact ⟨id, e, Std.ExtTreeMap.getElem?_insert_self, own⟩
    · obtain ⟨j, e', he', watched⟩ := mem_watchList.1 other
      obtain ⟨apart, he'⟩ := getElem?_erase_iff.1 he'
      exact ⟨j, e', (getElem?_insert_of_ne apart).trans he', watched⟩
  · dsimp only
    rw [← insert_erase_eq, hand.elements, insert_renamed, insert_erase_eq]

/-- An element that was just begun is at hand in both scenes. -/
lemma SceneTwins.begin (twins : SceneTwins base f s s' h h') {f' : NodeId → NodeId}
    {ps ps' : NodePools} {leaf : OwnedNode}
    {h₁ h₁' : MemoryHost κ} {widget : Widget} {c : Creation} (new : s.elements[c.id]? = none)
    (steady : Steady base (stageNodes s.toStage ++ elementNodes s.elements) f f')
    (pools : Twins base f' (leaf :: (stageNodes s.toStage ++ elementNodes s.elements))
      (watchList s.elements) ps ps' h₁ h₁') :
    HandTwins base f' c.id (.start widget leaf c) { s with pools := ps }
    { s' with pools := ps' } h₁ h₁' := by
  have st := twins.stage
  refine ⟨⟨st.mount, st.below, ?_, st.containers, st.surfaces, ?_, fun _ => watched_at_hand⟩, ?_,
    twins.fonts,
    twins.config⟩
  · exact st.layers.trans (steady.layers fun _ hn => List.mem_append_left _ hn).symm
  · dsimp only
    rw [erase_of_new new]
    exact pools.perm List.perm_middle.symm fun _ hp => hp
  · dsimp only
    rw [twins.elements, erase_renamed, erase_of_new new, steady.table fun _ hn =>
      List.mem_append_right _ hn]

/-- The element at hand follows its stage. -/
lemma HandTwins.staged (hand : HandTwins base f id e s s' h h') {f' : NodeId → NodeId}
    {t t' : Stage} {h₁ h₁' : MemoryHost κ}
    (steady : Steady base (e.nodes ++ elementNodes (s.elements.erase id)) f f')
    (st : StageTwins base f' (e.nodes ++ elementNodes (s.elements.erase id))
      (watches e ++ watchList (s.elements.erase id))
      t t' h₁ h₁') :
      HandTwins base f' id e { s with toStage := t } { s' with toStage := t' } h₁ h₁' :=
  ⟨st, hand.elements.trans (steady.table fun _ hn => List.mem_append_right _ hn).symm,
    hand.fonts, hand.config⟩

variable [Core κ] {refused : PatchError → Scene → MemoryHost κ → Scene → MemoryHost κ → Prop}

/-- A craft is carried out on the element at hand in both scenes. -/
theorem HandTwins.craft (hand : HandTwins base f id e s s' h h') (craft : Craft Unit) :
    Sync (Scene.atBench e craft) (Scene.atBench (renamedElement f e) craft) s h s' h'
      (fun r s₁ h₁ r' s₁' h₁' => ∃ e₁ f', r = (.ok (), e₁) ∧ r' = (.ok (), renamedElement f' e₁) ∧
        e₁.leaf = e.leaf ∧ f' e.leaf.id = f e.leaf.id ∧ s₁.elements = s.elements ∧
        s₁'.elements = s'.elements ∧
        HandTwins base f' id e₁ s₁ s₁' h₁ h₁') refused := by
  have bt : BenchTwins base f (stageNodes s.toStage ++ elementNodes (s.elements.erase id))
      (watchList (s.elements.erase id)) ⟨s.pools, s.fonts, e⟩
        ⟨s'.pools, s'.fonts, renamedElement f e⟩ h h' := by
    refine ⟨hand.fonts, rfl, hand.stage.twins.perm (List.perm_append_comm_assoc ..)
      fun _ hp => hp, fun p hp => ?_⟩
    rw [List.map_append]
    exact List.mem_append_right _ (watched_mem hp)
  have run : Sync (Bench.carryOut craft) (Bench.carryOut craft) ⟨s.pools, s.fonts, e⟩ h
      ⟨s'.pools, s'.fonts, renamedElement f e⟩ h' (Crafted base f _ _ e.leaf) fun _ _ _ _ _ =>
        False := bt.carryOut craft
  refine sync_atBench (run.mono ?_ fun _ _ _ _ _ => False.elim)
  rintro _ b h₁ _ b' h₁' ⟨_, leaf, f', steady, bt⟩
  have st := hand.stage
  have others : Steady base (stageNodes s.toStage ++ elementNodes (s.elements.erase id)) f f' :=
    steady.sub fun n hn => List.mem_cons_of_mem _ hn
  refine ⟨b.element, f', rfl, by rw [bt.element], leaf, steady _ (.inr List.mem_cons_self), rfl,
    rfl, ?_, ?_, bt.fonts,
    hand.config⟩
  · refine ⟨st.mount, st.below, ?_, st.containers, st.surfaces, ?_, fun _ => watched_at_hand⟩
    · dsimp only
      rw [st.layers, others.layers fun n hn => List.mem_append_left _ hn]
    · exact bt.twins.perm (List.perm_append_comm_assoc ..) fun _ hp => hp
  · exact hand.elements.trans (others.table fun n hn => List.mem_append_right _ hn).symm

omit [Core κ] in
/-- Nobody else watches the nodes of the element at hand. -/
lemma HandTwins.unwatched (hand : HandTwins base f id e s s' h h') {n : OwnedNode}
    (hn : n ∈ e.nodes) (i : Nat) :
    (n.id, i) ∉ watchList (s.elements.erase id) := by
  intro watched
  have distinct := hand.stage.twins.owned.nodup
  rw [List.map_append, List.nodup_append, List.map_append, List.nodup_append,
    List.map_append, List.nodup_append]
    at distinct
  exact distinct.2.1.2.1.2.2 _ (List.mem_map_of_mem hn) _ (watched_mem watched) rfl

/-- The scenes after the element at hand is gone. -/
def Parted (base : Nat) (f : NodeId → NodeId) (id : UInt32) (s s' s₁ : Scene)
    (h₁ : MemoryHost κ) (s₁' : Scene) (h₁' : MemoryHost κ) : Prop :=
  ∃ t t', s₁ = { s with toStage := t } ∧ s₁' = { s' with toStage := t' } ∧
    StageTwins base f (elementNodes (s.elements.erase id))
      (watchList (s.elements.erase id)) t t' h₁ h₁'

lemma HandTwins.handBack (hand : HandTwins base f id e s s' h h') {h₁ h₁' : MemoryHost κ}
    (twins : Twins base f (stageNodes s.toStage ++ (e.nodes ++ elementNodes (s.elements.erase id)))
      (watchList (s.elements.erase id)) s.pools s'.pools h₁ h₁') :
    Sync (Scene.onPools (Proofs.handBack e))
    (Scene.onPools (Proofs.handBack (renamedElement f e))) s h₁ s' h₁'
      (fun _ s₁ h₁ _ s₁' h₁' => Parted base f id s s' s₁ h₁ s₁' h₁') refused := by
  have st := hand.stage
  refine sync_onStage (sync_onPools (sync_bind ?_))
  refine ((twins.perm (handBack_perm ..) fun _ hp => hp).giveBack fun n hn => ?_).mono ?_
    fun _ _ _ _ _ kept => kept
  · exact hand.unwatched (List.mem_cons_of_mem _ (List.mem_append_right _ hn))
  rintro _ ps h₂ _ ps' h₂' twins
  refine sync_bind ((twins.giveBack fun n hn => ?_).mono ?_ fun _ _ _ _ _ kept => kept)
  · exact hand.unwatched (List.mem_cons_of_mem _ (List.mem_append_left _ hn))
  rintro _ ps h₃ _ ps' h₃' twins
  refine (twins.put (hand.unwatched List.mem_cons_self)).mono ?_ fun _ _ _ _ _ kept => kept
  rintro _ ps h₄ _ ps' h₄' twins
  exact ⟨_, _, rfl, rfl, st.mount, st.below, st.layers, st.containers, st.surfaces, twins,
    fun _ => watched_mem⟩

/-- The element at hand is released in both scenes. -/
theorem HandTwins.release (hand : HandTwins base f id e s s' h h') :
    Sync (Scene.release e) (Scene.release (renamedElement f e)) s h s' h'
      (fun _ s₁ h₁ _ s₁' h₁' => Parted base f id s s' s₁ h₁ s₁' h₁') refused := by
  have leaf :
      Known base
        (stageNodes s.toStage ++ (e.nodes ++ elementNodes (s.elements.erase id))) e.leaf.id := by
    refine .inr ?_
    rw [List.map_append, List.map_append]
    exact List.mem_append_right _ (List.mem_append_left _ List.mem_cons_self)
  unfold Scene.release
  have same : (renamedElement f e).observed = e.observed := rfl
  rw [same]
  cases e.observed with
  | false => exact sync_bind (hand.stage.twins.unsample fun h₁ h₁' twins => hand.handBack twins)
  | true =>
    refine sync_bind (hand.stage.twins.unobserve leaf fun h₁ h₁' twins => ?_)
    exact sync_bind (twins.unsample fun h₁ h₁' twins => hand.handBack twins)

end Hands

section Patches

variable {κ : Type} {base : Nat} {f : NodeId → NodeId} {id : UInt32} {e : Element}
  {s s' s₁ s₁' : Scene} {h h' h₁ h₁' : MemoryHost κ}

/-- Two scenes alike under some names. -/
def Alike (base : Nat) (s : Scene) (h : MemoryHost κ) (s' : Scene) (h' : MemoryHost κ) : Prop :=
  ∃ f, SceneTwins base f s s' h h'

/-- Without the element at hand, the scenes are alike if it is entered in neither. -/
lemma HandTwins.part (hand : HandTwins base f id e s s' h h') (gone : s.elements[id]? = none)
    (gone' : s'.elements[id]? = none) (parted : Parted base f id s s' s₁ h₁ s₁' h₁') :
    Alike base s₁ h₁ s₁' h₁' := by
  obtain ⟨t, t', rfl, rfl, st⟩ := parted
  have elements := hand.elements
  rw [erase_of_new gone] at st elements
  rw [erase_of_new gone'] at elements
  exact ⟨f, st, elements, hand.fonts, hand.config⟩

lemma SceneTwins.staged (twins : SceneTwins base f s s' h h') {f' : NodeId → NodeId} {t t' : Stage}
    (steady : Steady base (elementNodes s.elements) f f')
    (st : StageTwins base f' (elementNodes s.elements) (watchList s.elements) t t' h₁ h₁') :
    SceneTwins base f' { s with toStage := t } { s' with toStage := t' } h₁ h₁' :=
  ⟨st, twins.elements.trans (steady.table fun _ hn => hn).symm, twins.fonts, twins.config⟩

variable [Core κ]

/-- A patch is answered alike in both scenes, and leaves them alike. -/
abbrev SyncPatch (base : Nat) (act : Work Scene Unit) (s : Scene) (h : MemoryHost κ) (s' : Scene)
    (h' : MemoryHost κ) : Prop :=
  Sync act act s h s' h' (fun _ s h _ s' h' => Alike base s h s' h') fun _ s h s' h' =>
    Alike base s h s' h'

theorem SceneTwins.create (twins : SceneTwins base f s s' h h') (widget : Widget) (c : Creation) :
    SyncPatch base (Scene.create widget c) s h s' h' := by
  unfold Scene.create
  refine sync_bind (sync_get ?_)
  rw [twins.elements, contains_renamed]
  cases known : s.elements.contains c.id with
  | true => exact sync_bind (sync_throw ⟨f, twins⟩)
  | false =>
    have new := Std.ExtTreeMap.getElem?_eq_none_of_contains_eq_false known
    have new' : s'.elements[c.id]? = none := by
      rw [twins.elements, getElem?_renamed, new, Option.map_none]
    refine sync_bind
      (sync_onStage
        (sync_onPools ((twins.stage.twins.take .div).mono ?_ fun _ _ _ _ _ kept => kept)))
    rintro leaf ps₁ h₁ _ ps₁' h₁' ⟨f₁, steady₁, rfl, _, pools⟩
    have held : Known base (leaf :: (stageNodes s.toStage ++ elementNodes s.elements)) leaf.id :=
      .inr List.mem_cons_self
    refine sync_bind (pools.write held (.attr "class" Element.leafClass) fun h₂ h₂' pools => ?_)
    refine sync_bind
      (pools.write held (.attr nativeIdAttribute (toString c.id)) fun h₃ h₃' pools => ?_)
    have begun :
        HandTwins base f₁ c.id (.start widget leaf c) { s with pools := ps₁ }
          { s' with pools := ps₁' } h₃ h₃' :=
      twins.begin new steady₁ pools
    have same : Craft.build s'.config c.id widget = Craft.build s.config c.id widget := by
      rw [twins.config]
    refine sync_bind (sync_get ?_)
    dsimp only
    rw [same]
    refine sync_bind ((begun.craft _).mono ?_ fun _ _ _ _ _ kept => kept)
    rintro _ s₂ h₄ _ s₂' h₄' ⟨e, f₂, rfl, rfl, leaf_eq, name, els, els', hand⟩
    have name : (renamedNode f₁ leaf).id = f₂ e.leaf.id := by
      rw [leaf_eq]
      exact name.symm
    have leaf_id : leaf.id = e.leaf.id := by rw [leaf_eq]; rfl
    have own : e.leaf.id ∈ (e.nodes ++ elementNodes (s₂.elements.erase c.id)).map (·.id) :=
      List.mem_cons_self
    refine sync_bind (sync_outcome (sync_bind (sync_pure ?_)))
    rw [name, leaf_id]
    refine sync_onStage ((hand.stage.addElement own c.frame c.layer).mono ?_ ?_)
    · rintro _ t h₅ _ t' h₅' ⟨f₃, steady₃, st⟩
      have hand := hand.staged steady₃ st
      refine sync_modify ⟨f₃, ?_⟩
      rw [← steady₃.element fun n hn => List.mem_append_left _ hn]
      exact hand.enter
    · rintro why t h₅ t' h₅' ⟨f₃, steady₃, st⟩
      have hand := hand.staged steady₃ st
      rw [← steady₃.element fun n hn => List.mem_append_left _ hn]
      refine sync_bind (hand.release.mono ?_ fun _ _ _ _ _ kept => kept)
      intro _ s₆ h₆ _ s₆' h₆' parted
      exact sync_throw (hand.part (by rw [els, new]) (by rw [els', new']) parted)

/-- The element with an id is found in both scenes, or in neither for the same reason. -/
lemma SceneTwins.lookup (twins : SceneTwins base f s s' h h') (id : UInt32) (widget : Widget)
    {post : Element → Scene → MemoryHost κ → Element → Scene → MemoryHost κ → Prop}
    {refused : PatchError → Scene → MemoryHost κ → Scene → MemoryHost κ → Prop}
    (next : ∀ e, s.elements[id]? = some e → post e s h (renamedElement f e) s' h')
    (refusal : ∀ why, refused why s h s' h') :
    Sync (Scene.lookup id widget) (Scene.lookup id widget) s h s' h' post refused := by
  unfold Scene.lookup
  refine sync_bind (sync_get ?_)
  rw [twins.elements, getElem?_renamed]
  cases found : s.elements[id]? with
  | none => exact sync_throw (refusal _)
  | some e =>
    have same : (renamedElement f e).widget = e.widget := rfl
    simp only [Option.map_some, same]
    by_cases kind : e.widget = widget
    · rw [if_pos kind, if_pos kind]
      exact sync_pure (next e found)
    · rw [if_neg kind, if_neg kind]
      exact sync_throw (refusal _)

theorem SceneTwins.update (twins : SceneTwins base f s s' h h') (id : UInt32) (change : Change) :
    SyncPatch base (Scene.update id change) s h s' h' := by
  unfold Scene.update
  refine sync_bind (twins.lookup id change.widget (fun e found => ?_) fun _ => ⟨f, twins⟩)
  refine sync_bind (((twins.pick found).craft _).mono ?_ fun _ _ _ _ _ kept => kept)
  rintro _ s₁ h₁ _ s₁' h₁' ⟨e₁, f₁, rfl, rfl, _, _, _, _, hand⟩
  exact sync_bind (sync_modify (sync_pure ⟨f₁, hand.enter⟩))

theorem SceneTwins.delete (twins : SceneTwins base f s s' h h') (widget : Widget) (id : UInt32) :
    SyncPatch base (Scene.delete widget id) s h s' h' := by
  unfold Scene.delete
  refine sync_bind (twins.lookup id widget (fun e found => ?_) fun _ => ⟨f, twins⟩)
  refine sync_bind (sync_modify ?_)
  have hand := twins.pick found
  have struck : HandTwins base f id e { s with elements := s.elements.erase id }
      { s' with elements := s'.elements.erase id } h h' := by
    refine ⟨?_, ?_, hand.fonts, hand.config⟩
    · dsimp only
      rw [erase_erase_eq]
      exact hand.stage
    · dsimp only
      rw [erase_erase_eq, erase_erase_eq, hand.elements]
  refine struck.release.mono ?_ fun _ _ _ _ _ kept => kept
  exact fun _ s₁ h₁ _ s₁' h₁' parted => struck.part (by simp) (by simp) parted

theorem SceneTwins.loadImage (twins : SceneTwins base f s s' h h') (id : UInt32) (path : String) :
    SyncPatch base (Scene.loadImage id path) s h s' h' := by
  have pools := twins.stage.twins
  have loaded : (Core.imageLoaded path h'.core).1 = (Core.imageLoaded path h.core).1 := by
    rw [pools.core]
  have told := pools.withCore fun core => (Core.imageLoaded path core).2
  unfold Scene.loadImage
  refine sync_bind (sync_script rfl rfl ?_)
  change Sync (if (!(Core.imageLoaded path h.core).1) = true then _ else _)
    (if (!(Core.imageLoaded path h'.core).1) = true then _ else _) _ _ _ _ _ _
  rw [loaded]
  cases (Core.imageLoaded path h.core).1 with
  | true => exact sync_pure ⟨f, { twins with stage := { twins.stage with twins := told } }⟩
  | false =>
    refine sync_bind (sync_get ?_)
    rw [twins.config]
    refine told.image _ fun h₁ h₁' asked => ?_
    exact ⟨f, { twins with stage := { twins.stage with twins := asked } }⟩

theorem SceneTwins.restack (twins : SceneTwins base f s s' h h') (id layer depth : UInt32) :
    SyncPatch base (Scene.restack id layer depth) s h s' h' := by
  unfold Scene.restack
  refine sync_bind (sync_get ?_)
  rw [twins.elements, getElem?_renamed]
  cases found : s.elements[id]? with
  | none => exact sync_throw ⟨f, twins⟩
  | some e =>
    have held (n) (hn : n ∈ e.nodes) : n ∈ elementNodes s.elements :=
      mem_elementNodes.2 ⟨id, e, found, hn⟩
    have leaf := List.mem_map_of_mem (f := (·.id)) (held e.leaf List.mem_cons_self)
    refine sync_bind (sync_onStage ((twins.stage.addElement leaf e.frame layer).mono ?_ ?_))
    · rintro _ t h₁ _ t' h₁' ⟨f₁, steady, st⟩
      have twins₁ := twins.staged steady st
      rw [← steady.element held]
      have same : Scene.tabIndex? s'.config depth = Scene.tabIndex? s.config depth := by
        rw [twins.config]
      refine sync_bind (sync_get ?_)
      dsimp only
      rw [same]
      cases Scene.tabIndex? s.config depth with
      | none => exact sync_broken _
      | some tab =>
        have hand := twins₁.pick found
        have moved : HandTwins base f₁ id { e with layer, tabIndex := some tab } _ _ h₁ h₁' :=
          ⟨hand.stage, hand.elements, hand.fonts, hand.config⟩
        have entered := moved.enter
        have own (n) (hn : n ∈ e.nodes) : n ∈ stageNodes t ++ elementNodes (s.elements.insert id
            { e with layer, tabIndex := some tab }) :=
          List.mem_append_right _
            (mem_elementNodes.2 ⟨id, _, Std.ExtTreeMap.getElem?_insert_self, hn⟩)
        refine sync_bind (sync_modify ?_)
        have leaf := List.mem_map_of_mem (f := (·.id)) (own e.leaf List.mem_cons_self)
        refine sync_bind
          (entered.stage.twins.write (.inr leaf) (.style "z-index" (toString depth))
            fun _ _ pools => ?_)
        have inside (n) (hn : n ∈ e.fittings.filter fun node => node.kind.isFocusable) :=
          own n (List.mem_cons_of_mem _ (List.mem_of_mem_filter hn))
        rw [focusable_renamed]
        refine pools.writeAll (.attr "tabindex" (toString tab)) _ inside fun _ _ pools => ?_
        exact ⟨f₁, { entered with stage := { entered.stage with twins := pools } }⟩
    · rintro why t h₁ t' h₁' ⟨f₁, steady, st⟩
      exact ⟨f₁, twins.staged steady st⟩

/-- Every patch is answered alike in both scenes, to the promise that it breaks if it breaks one. -/
theorem SceneTwins.apply {mount : NodeId} (twins : SceneTwins base f s s' h h')
    (sound : Sound base mount s h) (p : Patch) :
    SyncPatch base (Scene.apply p) s h s' h' := by
  have staged {act : Work Stage Unit} (run : Sync act act s.toStage h s'.toStage h'
      (fun _ t h _ t' h' =>
        Staged base f (elementNodes s.elements) (watchList s.elements) t h t' h')
      fun _ t h t' h' => Staged base f (elementNodes s.elements) (watchList s.elements) t h t' h') :
      SyncPatch base (Scene.onStage act) s h s' h' :=
    sync_onStage (run.mono (fun _ _ _ _ _ _ ⟨f', steady, st⟩ => ⟨f', twins.staged steady st⟩)
      fun _ _ _ _ _ ⟨f', steady, st⟩ => ⟨f', twins.staged steady st⟩)
  cases p with
  | create widget c => exact twins.create widget c
  | update id change => exact twins.update id change
  | delete widget id => exact twins.delete widget id
  | restack id layer depth => exact twins.restack id layer depth
  | createFrame c => exact staged (twins.stage.addContainer c.frame)
  | updateFrame id g => exact staged (twins.stage.updateContainer g)
  | deleteFrame id =>
    refine staged (twins.stage.removeContainer fun p hp => ?_)
    obtain ⟨l, hl, found⟩ := mem_instances.1 hp
    exact (sound.stage.frames p.1 l id p.2 hl found).1
  | loadImage id path => exact twins.loadImage id path

end Patches

end LayeredPage.Proofs
