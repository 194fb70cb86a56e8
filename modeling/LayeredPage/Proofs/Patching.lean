import LayeredPage.Proofs.Hushing
import LayeredPage.Proofs.Order

/-!
# Patches keep a scene in order

One lemma for each kind of patch: whether it is accepted or refused, the scene is in order after it.
So it is after any history of patches.
-/

namespace LayeredPage.Proofs

open MemoryDocument

section Patches

variable {κ : Type} [Core κ] {base : Nat} {mount : NodeId} {s : Scene} {h : MemoryHost κ}

/-- A scene in order on its host. -/
def Sound (base : Nat) (mount : NodeId) (s : Scene) (h : MemoryHost κ) : Prop :=
  InOrder base mount s.toStage s.elements h.document

/-- The stream is to blame for a refusal, never the pools. -/
def Blames (e : PatchError) : Prop := ∀ tag, e ≠ .unregisteredTag tag

/-- A patch keeps the scene in order, accepted or refused. -/
abbrev Keeps (base : Nat) (mount : NodeId) (act : Work Scene Unit) (s : Scene)
    (h : MemoryHost κ) : Prop :=
  Ends act s h (fun _ s h => Sound base mount s h) (fun e s h => Sound base mount s h ∧
    Blames e) (fun _ => True)

/-- A leaf is taken for a new element, and carries its class and its id; nobody hears of it. -/
lemma Sound.begun (sound : Sound base mount s h) (widget : Widget) (c : Creation)
    {f : OwnedNode → Work Scene Unit} {post : Unit → Scene → MemoryHost κ → Prop}
    {refused : PatchError → Scene → MemoryHost κ → Prop} {breach : Breach → Prop}
    (next : ∀ (leaf : OwnedNode) (ps : NodePools) (h' : MemoryHost κ),
      AtHand base mount { s.toStage with pools := ps } s.elements
        (.start widget leaf c) h'.document →
      Hushes (· ≠ leaf.id) h.document h'.document →
      label? h'.document leaf.id = some (toString c.id) →
      Ends (f leaf) { s with pools := ps } h' post refused breach) :
    Ends (do
      let leaf ← Scene.onPools (Pools.take NodeKind.div)
      ask (.setAttribute leaf.id "class" Element.leafClass)
      ask (.setAttribute leaf.id nativeIdAttribute (toString c.id))
      f leaf) s h post refused breach := by
  have hushed :
      Hushed (fun ps => ps) (fun _ => True) (Pools.take .div : Work NodePools OwnedNode) :=
    hushed_take .div
  refine (ends_bind _ _ _).2
    ((ends_onStage _ _ _).2 ((ends_onPools _ _ _).2 ((Ends.and (sound.stage.owned.take .div)
      (hushed κ s.pools h sound.stage.owned.stocked)).mono ?_ (fun _ _ _ no => no.1.elim)
        fun _ no => no.1.elim)))
  rintro leaf ps h₁ ⟨⟨o₁, _, blank, parents₁⟩, _, hush₁⟩
  have childless (m) : h₁.document.parent? m ≠ some leaf.id := by
    rw [ne_eq, ← o₁.linked, children_of_node? blank]
    exact List.not_mem_nil
  have held : leaf.id ∈ (leaf :: (stageNodes s.toStage ++ elementNodes s.elements)).map (·.id) :=
    List.mem_cons_self
  have bare :
      Dressed base ps (leaf :: (stageNodes s.toStage ++ elementNodes s.elements))
        h.document h₁.document :=
    ⟨o₁, parents₁⟩
  let classed := written (.attr "class" Element.leafClass) leaf.id h₁.document
  have issued₁ : h₁.document.issued leaf.id := o₁.issued_of_known (.inr held)
  have issued₂ : classed.issued leaf.id := by rwa [issued_written]
  have dressed :=
    (bare.written (.inr held) (.attr "class" Element.leafClass) rfl).written (.inr held)
    (.attr nativeIdAttribute (toString c.id)) rfl
  refine ends_write (.attr "class" Element.leafClass) issued₁ fun h₂ doc₂ _ => ?_
  refine ends_write (.attr nativeIdAttribute (toString c.id)) (doc₂ ▸ issued₂) fun h₃ doc₃ _ =>
    next leaf ps h₃ ?_ ?_ ?_
  · rw [doc₃, doc₂]
    refine sound.begin dressed.owned dressed.parents fun m => ?_
    rw [dressed.parents, ← parents₁]
    exact childless m
  · rw [doc₃, doc₂]
    have first : Hushes (· ≠ leaf.id) h.document h₁.document := hush₁.mono fun _ _ => trivial
    have second : Hushes (· ≠ leaf.id) h₁.document classed :=
      .modify (fun _ _ hb => hb) fun other => absurd rfl other
    exact (first.trans second).trans (.modify (fun _ _ hb => hb) fun other => absurd rfl other)
  · rw [doc₃]
    exact label?_written (doc₂ ▸ issued₂)

/-- An element is created under a new id, or its containers are not known; a known id changes
nothing. -/
theorem Sound.create (sound : Sound base mount s h) (widget : Widget) (c : Creation) :
    Ends (Scene.create widget c) s h
      (fun _ s' h' => Sound base mount s' h' ∧ s.elements[c.id]? = none ∧
        ∃ e, e.widget = widget ∧ s'.elements = s.elements.insert c.id e)
      (fun why s' h' => Sound base mount s' h' ∧ s'.elements = s.elements ∧
        (s.elements[c.id]?.isSome ∧ why = .duplicateElement c.id ∧ s' = s ∧ h' = h ∨
          s.elements[c.id]? = none ∧ ∃ id, why = .unknownContainer id))
      (fun _ => s.elements[c.id]? = none) := by
  unfold Scene.create
  refine (ends_bind _ _ _).2 ((ends_get _).2 ?_)
  cases known : s.elements.contains c.id with
  | true =>
    rw [Std.ExtTreeMap.contains_eq_isSome_getElem?] at known
    exact ⟨sound, rfl, .inl ⟨known, rfl, rfl, rfl⟩⟩
  | false =>
    have new := Std.ExtTreeMap.getElem?_eq_none_of_contains_eq_false known
    refine sound.begun widget c fun leaf ps h₃ begun _ _ => ?_
    refine (ends_bind _ _ _).2 ((ends_get _).2 ((ends_bind _ _ _).2 ((ends_atBench _ _ _ _).2 ?_)))
    refine (begun.carryOut s.fonts _).mono ?_ (fun _ _ _ => False.elim) (fun _ _ => new)
    rintro _ b h₄ ⟨hand, _, same_widget, same_leaf, same_frame, same_layer⟩
    have args : leaf.id = b.element.leaf.id ∧ c.frame = b.element.frame ∧
        c.layer = b.element.layer :=
      ⟨by rw [same_leaf]; rfl, same_frame.symm, same_layer.symm⟩
    rw [args.1, args.2.1, args.2.2]
    refine (ends_bind _ _ _).2 ((ends_outcome _ _).2 ((ends_bind _ _ _).2 ((ends_onStage _ _ _).2
      ((hand.place b.element.layer).mono ?_ ?_ fun _ _ => new))))
    · rintro _ s₅ h₅ ⟨hand₅, place⟩
      rw [← erase_of_new new] at hand₅
      exact ⟨hand₅.enter place, new, b.element, same_widget, rfl⟩
    · rintro e s₅ h₅ ⟨hand₅, ⟨id, rfl⟩, _⟩
      refine (ends_bind _ _ _).2
        (AtHand.release (s := { s with toStage := s₅, fonts := b.fonts }) hand₅ |>.ends ?_)
      rintro _ s₆ h₆ ⟨ps, rfl, order⟩
      exact ⟨order, rfl, .inr ⟨new, id, rfl⟩⟩

/-- Why no element of this kind is found under an id. -/
def Missing (elements : Std.ExtTreeMap UInt32 Element) (id : UInt32) (widget : Widget)
    (why : PatchError) : Prop :=
  elements[id]? = none ∧ why = .unknownElement id ∨
    ∃ e, elements[id]? = some e ∧ e.widget ≠ widget ∧ why = .kindMismatch id widget e.widget

lemma Missing.blames {elements : Std.ExtTreeMap UInt32 Element} {id : UInt32}
    {widget : Widget} {why : PatchError}
    (missing : Missing elements id widget why) : Blames why := by
  rcases missing with ⟨_, rfl⟩ | ⟨e, _, _, rfl⟩ <;> exact fun _ h => by cases h

/-- The element with an id is found if it is of this kind; nothing changes. -/
lemma ends_lookup (s : Scene) (h : MemoryHost κ) (id : UInt32) (widget : Widget) :
    Ends (Scene.lookup id widget) s h
      (fun e s' h' => s' = s ∧ h' = h ∧ s.elements[id]? = some e ∧ e.widget = widget)
      (fun why s' h' => s' = s ∧ h' = h ∧ Missing s.elements id widget why) (fun _ => False) := by
  unfold Scene.lookup
  refine (ends_bind _ _ _).2 ((ends_get _).2 ?_)
  cases found : s.elements[id]? with
  | none => exact ⟨rfl, rfl, .inl ⟨found, rfl⟩⟩
  | some e =>
    by_cases same : e.widget = widget
    · simp only [if_pos same]
      exact ⟨rfl, rfl, rfl, same⟩
    · simp only [if_neg same]
      exact ⟨rfl, rfl, .inr ⟨e, found, same, rfl⟩⟩

/-- An element that is there with its kind is updated, and keeps its kind. -/
theorem Sound.update (sound : Sound base mount s h) (id : UInt32) (change : Change) :
    Ends (Scene.update id change) s h
      (fun _ s' h' => Sound base mount s' h' ∧ ∃ e e', s.elements[id]? = some e ∧
        e.widget = change.widget ∧
        e'.widget = change.widget ∧ s'.elements = s.elements.insert id e')
      (fun why s' h' => s' = s ∧ h' = h ∧ Missing s.elements id change.widget why)
      (fun _ => False) := by
  unfold Scene.update
  refine (ends_bind _ _ _).2
    ((ends_lookup s h id change.widget).mono ?_ (fun _ _ _ missing => missing) fun _ => False.elim)
  rintro e s₁ h₁ ⟨rfl, rfl, found, kind⟩
  refine (ends_bind _ _ _).2 ((ends_atBench _ _ _ _).2 ?_)
  refine ((sound.pick found).carryOut s₁.fonts _).mono ?_
    (fun _ _ _ => False.elim) fun _ broken => ?_
  · rintro _ b h₂ ⟨hand, placed, same, _⟩
    exact ⟨hand.enter (placed (sound.placed id e found)), e, b.element, found, kind,
      same.trans kind, rfl⟩
  · exact broken ((modest_update id change).mono fun _ _ => trivial)

/-- An element that is there with its kind is deleted. -/
theorem Sound.delete (sound : Sound base mount s h) (widget : Widget) (id : UInt32) :
    Ends (Scene.delete widget id) s h
      (fun _ s' h' => Sound base mount s' h' ∧
        (∃ e, s.elements[id]? = some e ∧ e.widget = widget) ∧ s'.elements = s.elements.erase id)
      (fun why s' h' => s' = s ∧ h' = h ∧ Missing s.elements id widget why) (fun _ => False) := by
  unfold Scene.delete
  refine (ends_bind _ _ _).2
    ((ends_lookup s h id widget).mono ?_ (fun _ _ _ missing => missing) fun _ => False.elim)
  rintro e s₁ h₁ ⟨rfl, rfl, found, kind⟩
  refine (ends_bind _ _ _).2 ((ends_modify _ _).2 ?_)
  refine (AtHand.release (s := { s₁ with elements := s₁.elements.erase id })
    (sound.pick found)).ends ?_
  rintro _ s₂ h₂ ⟨ps, rfl, order⟩
  exact ⟨order, ⟨e, found, kind⟩, rfl⟩

/-- A live element goes to any layer and depth whose tab index is one; only the id can be
refused. -/
theorem Sound.restack (sound : Sound base mount s h) (id layer depth : UInt32) :
    Ends (Scene.restack id layer depth) s h
      (fun _ s' h' => Sound base mount s' h' ∧ ∃ e tab, s.elements[id]? = some e ∧
        s'.elements = s.elements.insert id { e with layer, tabIndex := some tab })
      (fun why s' h' => s' = s ∧ h' = h ∧ why = .unknownElement id ∧ s.elements[id]? = none)
      (fun _ => s.elements[id]?.isSome ∧ Scene.tabIndex? s.config depth = none) := by
  unfold Scene.restack
  refine (ends_bind _ _ _).2 ((ends_get _).2 ?_)
  cases found : s.elements[id]? with
  | none => exact ⟨rfl, rfl, rfl, rfl⟩
  | some e =>
    obtain ⟨_, ns, chain⟩ := sound.placed id e found
    have line := chain.line
    refine (ends_bind _ _ _).2
      ((ends_onStage _ _ _).2 (((sound.pick found).place layer).mono ?_ ?_ ?_))
    · rintro _ s₁ h₁ ⟨hand, place⟩
      refine (ends_bind _ _ _).2 ((ends_get _).2 ?_)
      dsimp only
      cases inRange : Scene.tabIndex? s.config depth with
      | none => exact ⟨rfl, rfl⟩
      | some tab =>
        have moved : Sound base mount { s with
            toStage := s₁
            elements := s.elements.insert id { e with layer, tabIndex := some tab } } h₁ :=
          AtHand.enter ⟨hand.stage, hand.placed, hand.families, hand.family⟩ place
        have own (n) (hn : n ∈ e.nodes) : n ∈ stageNodes s₁ ++ elementNodes (s.elements.insert id
            { e with layer, tabIndex := some tab }) :=
          List.mem_append_right _
            (mem_elementNodes.2 ⟨id, _, Std.ExtTreeMap.getElem?_insert_self, hn⟩)
        refine (ends_bind _ _ _).2 ((ends_modify _ _).2 ?_)
        have dressed : Dressed base _ _ h₁.document h₁.document := ⟨moved.stage.owned, fun _ => rfl⟩
        refine dressed.write (.inr (List.mem_map_of_mem (own e.leaf List.mem_cons_self)))
          (.style "z-index" (toString depth)) rfl fun h₂ dressed => ?_
        refine (dressed.writeAll (.attr "tabindex" (toString tab)) rfl _ fun n hn => ?_).ends ?_
        · exact own n (List.mem_cons_of_mem _ (List.mem_of_mem_filter hn))
        · rintro _ _ h₃ ⟨rfl, dressed⟩
          refine ⟨InOrder.dressed moved dressed, e, tab, rfl, rfl⟩
    · exact fun _ _ _ ⟨_, _, lost⟩ => absurd line lost
    · exact fun _ lost => absurd line lost

theorem Sound.createFrame (sound : Sound base mount s h) (id : UInt32) (parent : Option UInt32) :
    Ends (Scene.onStage (Stage.addContainer id parent)) s h
      (fun _ s' h' => Sound base mount s' h' ∧ s'.elements = s.elements ∧
        s'.containers = s.containers.insert id (.start parent) ∧ s.containers.contains id = false ∧
        ∀ p, parent = some p → s.containers.contains p)
      (fun why s' h' => s' = s ∧ h' = h ∧ (s.containers.contains id ∧ why = .duplicateContainer id ∨
        s.containers.contains id = false ∧
          ∃ p, parent = some p ∧ s.containers.contains p = false ∧ why = .unknownContainer p))
      (fun _ => False) := by
  refine (ends_onStage _ _ _).2
    ((ends_addContainer s.toStage h id parent).mono ?_ ?_ fun _ => False.elim)
  · rintro _ s₁ h₁ ⟨rfl, rfl, new, known⟩
    have unlisted (c) (hc : s.containers[id]? = some c) :
        (Container.start parent).parent = c.parent := by simp [new] at hc
    obtain ⟨st, ext⟩ := sound.stage.list unlisted
    refine ⟨sound.restage st (fun _ _ => rfl) fun _ _ _ place =>
      place.mono ext rfl, rfl, rfl, ?_, ?_⟩
    · rw [Std.ExtTreeMap.contains_eq_isSome_getElem?, new]
      rfl
    · exact fun p hp => Std.ExtTreeMap.contains_iff_mem.2 (known p hp)
  · rintro e s₁ h₁ ⟨rfl, rfl, why⟩
    exact ⟨rfl, rfl, why⟩

theorem Sound.updateFrame (sound : Sound base mount s h) (id : UInt32) (g : Geometry) :
    Ends (Scene.onStage (Stage.updateContainer id g)) s h
      (fun _ s' h' => Sound base mount s' h' ∧ s'.elements = s.elements ∧
        ∃ c, s.containers[id]? = some c ∧ s'.containers = s.containers.insert id (c.merge g))
      (fun why s' h' => s' = s ∧ h' = h ∧ s.containers[id]? = none ∧ why = .unknownContainer id)
      (fun _ => False) := by
  refine (ends_onStage _ _ _).2
    ((ends_updateContainer s.toStage h id g).mono ?_ ?_ fun _ => False.elim)
  · rintro _ s₁ h₁ ⟨nodes, c, hc, rfl⟩
    have listed (c') (hc' : s.containers[id]? = some c') : (c.merge g).parent = c'.parent := by
      rw [hc] at hc'
      cases hc'
      rfl
    obtain ⟨st, ext⟩ := sound.stage.list listed
    have kept (m) : h₁.document.parent? m = h.document.parent? m := parent?_of_nodes nodes
    refine ⟨?_, rfl, c, hc, rfl⟩
    exact sound.restage (st.of_nodes nodes) (fun n _ => kept n) fun _ _ _ place =>
      place.mono ext (kept _)
  · rintro e s₁ h₁ ⟨rfl, rfl, why⟩
    exact ⟨rfl, rfl, why⟩

theorem Sound.deleteFrame (sound : Sound base mount s h) (id : UInt32) :
    Ends (Scene.onStage (Stage.removeContainer id)) s h
      (fun _ s' h' => Sound base mount s' h' ∧ s'.elements = s.elements ∧ s.containers.contains id ∧
        s'.containers = s.containers.erase id)
      (fun why s' h' => s' = s ∧ h' = h ∧
        (s.containers.contains id = false ∧ why = .unknownContainer id ∨
          s.containers.contains id ∧ ∃ count, why = .containerInUse id count))
      (fun _ => False) := by
  refine (ends_onStage _ _ _).2 ((sound.stage.removeContainer id).mono ?_ ?_ fun _ => False.elim)
  · rintro _ s₁ h₁ ⟨shrunk, known, containers, vacant⟩
    have kept (n) (hn : n ∈ (elementNodes s.elements).map (·.id)) :
        h₁.document.parent? n = h.document.parent? n :=
      shrunk.kept n (known_of_others hn)
    refine ⟨sound.restage shrunk.standing kept fun j e he place => ?_, rfl, known, containers⟩
    obtain ⟨parent, ns, chain⟩ := place
    obtain ⟨t, rest, eq, head⟩ := chain.head
    have leaf : e.leaf.id ∈ (elementNodes s.elements).map (·.id) :=
      List.mem_map_of_mem (mem_elementNodes.2 ⟨j, e, he, List.mem_cons_self⟩)
    -- An element of the container would hang from one of its nodes.
    have other : e.frame ≠ some id := by
      intro same
      rw [same] at head parent
      exact vacant e.layer.toNat t e.leaf.id head (parent.trans head)
    have whole := shrunk.chains e.layer.toNat e.frame ns other chain
    obtain ⟨t', rest', eq', head'⟩ := whole.head
    rw [eq] at eq'
    cases eq'
    refine ⟨?_, ns, whole⟩
    rw [kept _ leaf, parent, head, head']
  · rintro e s₁ h₁ ⟨rfl, rfl, why⟩
    exact ⟨rfl, rfl, why⟩

theorem Sound.loadImage (sound : Sound base mount s h) (id : UInt32) (path : String) :
    Yields (Scene.loadImage id path) s h fun _ s' h' => Sound base mount s' h' ∧ s' = s := by
  unfold Scene.loadImage
  refine (ends_bind _ _ _).2 ((ends_script _ _).2 ?_)
  change Ends (if (!(Core.imageLoaded path h.core).1) = true then _ else _) s
    { h with core := _ } _ _ _
  split
  · refine (ends_bind _ _ _).2 ((ends_get _).2 ((ends_ask _ _).2 ?_))
    exact ⟨InOrder.dressed sound ⟨sound.stage.owned.of_nodes rfl, fun _ => rfl⟩, rfl⟩
  · exact ⟨sound, rfl⟩

/-- Every patch keeps the scene in order. -/
theorem Sound.apply (sound : Sound base mount s h) (p : Patch) :
    Keeps base mount (Scene.apply p) s h := by
  cases p with
  | create widget c =>
    refine (sound.create widget c).mono (fun _ _ _ done => done.1) ?_ fun _ _ => trivial
    rintro why s' h' ⟨kept, _, ⟨_, rfl, _⟩ | ⟨_, id, rfl⟩⟩ <;> exact ⟨kept, fun _ h => by cases h⟩
  | update id change =>
    refine (sound.update id change).mono (fun _ _ _ done => done.1) ?_ fun _ _ => trivial
    rintro why s' h' ⟨rfl, rfl, missing⟩
    exact ⟨sound, missing.blames⟩
  | delete widget id =>
    refine (sound.delete widget id).mono (fun _ _ _ done => done.1) ?_ fun _ _ => trivial
    rintro why s' h' ⟨rfl, rfl, missing⟩
    exact ⟨sound, missing.blames⟩
  | restack id layer depth =>
    refine (sound.restack id layer depth).mono (fun _ _ _ done => done.1) ?_ fun _ _ => trivial
    rintro why s' h' ⟨rfl, rfl, rfl, _⟩
    exact ⟨sound, fun _ h => by cases h⟩
  | createFrame c =>
    refine (sound.createFrame c.id c.frame).mono (fun _ _ _ done => done.1) ?_ fun _ _ => trivial
    rintro why s' h' ⟨rfl, rfl, ⟨_, rfl⟩ | ⟨_, p, _, _, rfl⟩⟩ <;> exact ⟨sound,
      fun _ h => by cases h⟩
  | updateFrame id g =>
    refine (sound.updateFrame id g).mono (fun _ _ _ done => done.1) ?_ fun _ _ => trivial
    rintro why s' h' ⟨rfl, rfl, _, rfl⟩
    exact ⟨sound, fun _ h => by cases h⟩
  | deleteFrame id =>
    refine (sound.deleteFrame id).mono (fun _ _ _ done => done.1) ?_ fun _ _ => trivial
    rintro why s' h' ⟨rfl, rfl, ⟨_, rfl⟩ | ⟨_, count, rfl⟩⟩ <;> exact ⟨sound, fun _ h => by cases h⟩
  | loadImage id path => exact (sound.loadImage id path).ends fun _ _ _ done => done.1

end Patches

end LayeredPage.Proofs
