import LayeredPage.Proofs.Sparing
import LayeredPage.Proofs.Tuning

/-!
# Patches keep everything with the live elements

Whatever a patch does, and whether it is accepted or refused, all that the document can report
afterwards comes from the elements that live then.
-/

namespace LayeredPage.Proofs

open MemoryDocument

/-- All that is heard, observed or sampled belongs to the live elements, and just the scrollers
scroll. -/
structure Attuned {κ : Type} (s : Scene) (h : MemoryHost κ) : Prop where
  tuned : Tuned s.elements h.document
  furnished : Furnished s.elements

section Scenes

variable {κ : Type} {s s' : Scene} {h h' : MemoryHost κ} {id : UInt32} {e : Element}
  {elements : Std.ExtTreeMap UInt32 Element} {d d' : MemoryDocument}

lemma Furnished.insert (furnished : Furnished elements)
    (scrolls : e.scroll.isSome = true ↔ e.widget = .scroller) :
    Furnished (elements.insert id e) := by
  intro j x hx
  rcases getElem?_table_insert hx with ⟨rfl, rfl⟩ | ⟨_, hx⟩
  · exact scrolls
  · exact furnished j x hx

/-- An element that was just begun has a labelled leaf and nothing else. -/
lemma Tuned.begin (tuned : Tuned elements d) (new : elements[id]? = none) {widget : Widget}
    {leaf : OwnedNode} {c : Creation}
    (hush : Hushes (· ≠ leaf.id) d d') (label : label? d' leaf.id = some (toString id))
    (apart : ∀ (j : UInt32) (x : Element), elements[j]? = some x → x.leaf.id ≠ leaf.id) :
    Tuned (elements.insert id (.start widget leaf c)) d' := by
  have tuned' := tuned.hush hush apart
  have listed {j : UInt32} {x : Element} (hx : elements[j]? = some x) :
      (elements.insert id (.start widget leaf c))[j]? = some x := getElem?_insert_of_new new hx
  refine ⟨⟨fun n j b hb => ?_, fun j x hx => ?_, fun i hi => ?_⟩,
    ⟨fun i m hm live => ?_, fun j x r hx hr => ?_⟩⟩
  · obtain ⟨x, hx, rest⟩ := tuned'.voiced.heard n j b hb
    exact ⟨x, listed hx, rest⟩
  · rcases getElem?_table_insert hx with ⟨rfl, rfl⟩ | ⟨_, hx⟩
    · exact label
    · exact tuned'.voiced.labels j x hx
  · obtain ⟨j, x, hx, rest⟩ := tuned'.voiced.observed i hi
    exact ⟨j, x, listed hx, rest⟩
  · obtain ⟨j, x, r, hx, rest⟩ := tuned'.sampled.claimed i m hm live
    exact ⟨j, x, r, listed hx, rest⟩
  · rcases getElem?_table_insert hx with ⟨rfl, rfl⟩ | ⟨_, hx⟩
    · cases hr
    · exact tuned'.sampled.running j x r hx hr

/-- What nobody hears of leaves the scene attuned. -/
lemma Attuned.hush (attuned : Attuned s h) (hush : Hushes (fun _ => True) h.document h'.document)
    (elements : s'.elements = s.elements) : Attuned s' h' := by
  refine ⟨?_, ?_⟩
  · rw [elements]
    exact attuned.tuned.hush hush fun _ _ _ => trivial
  · rw [elements]
    exact attuned.furnished

end Scenes

section Patches

variable {κ : Type} [Core κ] {base : Nat} {mount : NodeId} {s : Scene} {h : MemoryHost κ}
  {id : UInt32} {e : Element} {elements : Std.ExtTreeMap UInt32 Element}

/-- Work on the element at hand that follows the manners of its kind. -/
lemma AtHand.carryOut_tuned {stage : Stage}
    (hand : AtHand base mount stage (elements.erase id) e h.document)
    (tuned : Tuned (elements.insert id e) h.document) {t : Tally} (parts : e.parts.length = t.parts)
    (sampled : e.scroll.isSome = t.sampled) (fonts : FontCache) {craft : Craft Unit}
    {post : Unit → Tally → Prop} (follows : Follows e.widget id t craft post) :
    Yields (Bench.carryOut craft) ⟨stage.pools, fonts, e⟩ h fun _ b h' =>
      Tuned (elements.insert id b.element) h'.document ∧ ∃ t',
      b.element.scroll.isSome = t'.sampled ∧ post () t' := by
  have others (j : UInt32) (x : Element) (other : j ≠ id) (hx : elements[j]? = some x) :
      x.leaf.id ∈ (stageNodes stage ++ elementNodes (elements.erase id)).map (·.id) := by
    refine List.mem_map_of_mem
      (List.mem_append_right _ (mem_elementNodes.2 ⟨j, x, ?_, List.mem_cons_self⟩))
    exact getElem?_erase_iff.2 ⟨other, hx⟩
  have tended : Tended base _ e h.document elements id t ⟨stage.pools, fonts, e⟩ h.document :=
    ⟨hand.atWork fonts, tuned, parts, sampled⟩
  refine (tended.carryOut others follows).ends ?_
  rintro a b h' ⟨t', tended', done⟩
  exact ⟨tended'.tuned, t', tended'.sampled, done⟩

lemma Attuned.create (attuned : Attuned s h) (sound : Sound base mount s h)
    (widget : Widget) (c : Creation) :
    Ends (Scene.create widget c) s h (fun _ s' h' => Attuned s' h')
    (fun _ s' h' => Attuned s' h') fun _ => True := by
  unfold Scene.create
  refine (ends_bind _ _ _).2 ((ends_get _).2 ?_)
  cases known : s.elements.contains c.id with
  | true => exact attuned
  | false =>
    have new := Std.ExtTreeMap.getElem?_eq_none_of_contains_eq_false known
    refine sound.begun widget c fun leaf ps h₁ hand hush label => ?_
    have apart (j : UInt32) (x : Element) (hx : s.elements[j]? = some x) :
        x.leaf.id ≠ leaf.id := fun same =>
      by
      refine hand.stage.disjoint hx (n := leaf.id) List.mem_cons_self ?_
      rw [← same]
      exact List.mem_cons_self
    have tuned : Tuned (s.elements.insert c.id (.start widget leaf c)) h₁.document :=
      attuned.tuned.begin new hush label apart
    rw [← erase_of_new new] at hand
    refine (ends_bind _ _ _).2 ((ends_get _).2 ((ends_bind _ _ _).2 ((ends_atBench _ _ _ _).2 ?_)))
    refine (Ends.and (hand.carryOut s.fonts _) (hand.carryOut_tuned tuned rfl rfl s.fonts
      (build_follows s.config c.id widget))).mono ?_ (fun _ _ _ no => no.1.elim) fun _ _ => trivial
    rintro _ b h₂ ⟨⟨hand₂, _, same_widget, same_leaf, same_frame, same_layer⟩, tuned₂,
      t, sampled, scrolls⟩
    have args : leaf.id = b.element.leaf.id ∧ c.frame = b.element.frame ∧
        c.layer = b.element.layer :=
      ⟨by rw [same_leaf]; rfl, same_frame.symm, same_layer.symm⟩
    have hushed :
        Hushed stocks (fun _ => True)
          (Stage.addElement b.element.leaf.id b.element.frame b.element.layer) :=
      hushed_addElement _ _ _
    rw [args.1, args.2.1, args.2.2]
    refine (ends_bind _ _ _).2 ((ends_outcome _ _).2 ((ends_bind _ _ _).2 ((ends_onStage _ _ _).2
      ((Ends.and (hand₂.place b.element.layer) (hushed κ _ h₂ hand₂.stage.owned.stocked)).mono ?_ ?_
        fun _ _ => trivial))))
    · rintro _ s₃ h₃ ⟨_, _, hush₃⟩
      refine ⟨tuned₂.hush hush₃ fun _ _ _ => trivial, attuned.furnished.insert ?_⟩
      have kind : b.element.widget = widget := same_widget
      rw [sampled, kind]
      exact scrolls
    · rintro why s₃ h₃ ⟨⟨hand₃, _⟩, _, hush₃⟩
      rw [erase_of_new new] at hand₃
      have gone := AtHand.release_tuned (s := { s with toStage := s₃, fonts := b.fonts }) hand₃
        (tuned₂.hush hush₃ fun _ _ _ => trivial) new
      refine (ends_bind _ _ _).2
        ((Ends.and (AtHand.release (s := { s with toStage := s₃, fonts := b.fonts }) hand₃)
        gone).mono ?_ (fun _ _ _ no => no.1.elim) fun _ _ => trivial)
      rintro _ s₄ h₄ ⟨⟨ps', rfl, _⟩, tuned₄⟩
      exact ⟨tuned₄, attuned.furnished⟩

lemma Attuned.update (attuned : Attuned s h) (sound : Sound base mount s h)
    (id : UInt32) (change : Change) :
    Ends (Scene.update id change) s h (fun _ s' h' => Attuned s' h')
    (fun _ s' h' => Attuned s' h') fun _ => True := by
  unfold Scene.update
  refine (ends_bind _ _ _).2 ((ends_lookup s h id change.widget).mono ?_ ?_ fun _ => False.elim)
  · rintro e s₁ h₁ ⟨rfl, rfl, found, kind⟩
    have tuned : Tuned (s₁.elements.insert id e) h₁.document := by
      rw [insert_of_found found]
      exact attuned.tuned
    let t : Tally := ⟨e.parts.length, e.scroll.isSome⟩
    have follows : Follows e.widget id t (Craft.update id change) fun _ t' => t' = t := by
      rw [kind]
      exact (modest_update id change).follows
    have hand := sound.pick found
    refine (ends_bind _ _ _).2 ((ends_atBench _ _ _ _).2 ?_)
    refine ((hand.carryOut s₁.fonts _).and
      (hand.carryOut_tuned tuned rfl rfl s₁.fonts follows)).mono ?_
      (fun _ _ _ no => no.1.elim) fun _ _ => trivial
    rintro _ b h₂ ⟨⟨_, _, same, _⟩, tuned₂, _, sampled, rfl⟩
    refine ⟨tuned₂, attuned.furnished.insert ?_⟩
    rw [sampled, same]
    exact attuned.furnished id e found
  · rintro _ _ _ ⟨rfl, rfl, _⟩
    exact attuned

lemma Attuned.delete (attuned : Attuned s h) (sound : Sound base mount s h)
    (widget : Widget) (id : UInt32) :
    Ends (Scene.delete widget id) s h (fun _ s' h' => Attuned s' h')
    (fun _ s' h' => Attuned s' h') fun _ => True := by
  unfold Scene.delete
  refine (ends_bind _ _ _).2 ((ends_lookup s h id widget).mono ?_ ?_ fun _ => False.elim)
  · rintro e s₁ h₁ ⟨rfl, rfl, found, kind⟩
    have absent : (s₁.elements.erase id)[id]? = none := Std.ExtTreeMap.getElem?_erase_self
    have tuned : Tuned ((s₁.elements.erase id).insert id e) h₁.document := by
      rw [insert_erase_of_found found]
      exact attuned.tuned
    refine (ends_bind _ _ _).2 ((ends_modify _ _).2 ?_)
    have hand := sound.pick found
    refine (Ends.and (AtHand.release (s := { s₁ with elements := s₁.elements.erase id }) hand)
      (AtHand.release_tuned (s := { s₁ with elements := s₁.elements.erase id }) hand
        tuned absent)).mono ?_
        (fun _ _ _ no => no.1.elim) fun _ _ => trivial
    rintro _ s₂ h₂ ⟨⟨ps, rfl, _⟩, tuned₂⟩
    exact ⟨tuned₂, fun j x hx => attuned.furnished j x (getElem?_erase_iff.1 hx).2⟩
  · rintro _ _ _ ⟨rfl, rfl, _⟩
    exact attuned

/-- The pools of a scene. -/
abbrev supplies (s : Scene) : NodePools := s.pools

lemma Hushed.onStage {spared : NodeId → Prop} {α : Type} {act : Work Stage α}
    (hushed : Hushed stocks spared act) :
    Hushed supplies spared (Scene.onStage act) := hushed.focus (fun _ => rfl) fun _ _ => rfl

lemma hushed_restack {spared : NodeId → Prop} (id layer depth : UInt32) :
    Hushed supplies spared (Scene.restack id layer depth) := by
  have other : "tabindex" ≠ nativeIdAttribute := by decide
  refine hushed_get.bind fun s => ?_
  split
  · exact hushed_throw _
  · refine (hushed_addElement _ _ _).onStage.bind fun _ => ?_
    refine hushed_get.bind fun s => ?_
    split
    · exact hushed_broken _
    · refine Hushed.bind (hushed_modify fun _ => rfl) fun _ =>
        Hushed.bind (hushed_ask trivial) fun _ => ?_
      exact hushed_forM fun n _ => hushed_ask fun _ => other

lemma hushed_loadImage {spared : NodeId → Prop} (id : UInt32) (path : String) :
    Hushed supplies spared (Scene.loadImage id path) := by
  refine Hushed.bind (hushed_script ⟨trivial, fun _ => trivial⟩) fun known => ?_
  split
  · exact hushed_get.bind fun s => hushed_ask trivial
  · exact hushed_pure _

lemma Attuned.restack (attuned : Attuned s h) (sound : Sound base mount s h)
    (id layer depth : UInt32) :
    Ends (Scene.restack id layer depth) s h (fun _ s' h' => Attuned s' h')
    (fun _ s' h' => Attuned s' h') fun _ => True := by
  have hushed : Hushed supplies (fun _ => True) (Scene.restack id layer depth) :=
    hushed_restack id layer depth
  refine ((sound.restack id layer depth).and (hushed κ s h sound.stage.owned.stocked)).mono ?_
    ?_ fun _ _ => trivial
  · rintro _ s' h' ⟨⟨_, e, tab, found, elements⟩, _, hush⟩
    have tuned := attuned.tuned.hush hush fun _ _ _ => trivial
    rw [← insert_of_found found] at tuned
    refine ⟨?_, ?_⟩
    · rw [elements]
      exact ⟨tuned.voiced.goOn ⟨rfl, rfl, fun _ hn => hn⟩, tuned.sampled.goOn rfl rfl⟩
    · rw [elements]
      exact attuned.furnished.insert (attuned.furnished id e found)
  · rintro _ _ _ ⟨⟨rfl, rfl, _⟩, _⟩
    exact attuned

lemma Attuned.deleteFrame (attuned : Attuned s h) (sound : Sound base mount s h) (id : UInt32) :
    Ends (Scene.onStage (Stage.removeContainer id)) s h (fun _ s' h' => Attuned s' h')
    (fun _ s' h' => Attuned s' h')
      fun _ => True := by
  let spared (n : NodeId) : Prop := n ∈ (elementNodes s.elements).map (·.id)
  have leaves (j : UInt32) (x : Element) (hx : s.elements[j]? = some x) : spared x.leaf.id :=
    List.mem_map_of_mem (mem_elementNodes.2 ⟨j, x, hx, List.mem_cons_self⟩)
  have strange (p) (hp : p ∈ s.instances id) : ¬ spared p.2.id := fun other => by
    obtain ⟨l, hl, hn⟩ := mem_instances.1 hp
    refine sound.stage.apart other (known_of_stage (mem_stageNodes.2 ⟨p.1, l, hl, ?_⟩))
    exact mem_layerNodes.2 (.inr (.inr ⟨id, hn⟩))
  refine (ends_onStage _ _ _).2
    ((hushed_removeContainer sound.stage.owned.stocked id strange).mono ?_ ?_ fun _ _ => trivial)
  · exact fun _ s' h' ⟨_, hush⟩ => ⟨attuned.tuned.hush hush leaves, attuned.furnished⟩
  · exact fun _ s' h' ⟨_, hush⟩ => ⟨attuned.tuned.hush hush leaves, attuned.furnished⟩

/-- Every patch keeps the scene attuned. -/
theorem Attuned.apply (attuned : Attuned s h) (sound : Sound base mount s h) (p : Patch) :
    Ends (Scene.apply p) s h (fun _ s' h' => Attuned s' h') (fun _ s' h' => Attuned s' h') fun _ =>
      True := by
  have unheard {act : Work Scene Unit} (hushed : Hushed supplies (fun _ => True) act)
      (same : Spares Scene.elements act) :
      Ends act s h (fun _ s' h' => Attuned s' h') (fun _ s' h' => Attuned s' h') fun _ => True := by
    refine ((hushed κ s h sound.stage.owned.stocked).and (same κ s h)).mono ?_ ?_ fun _ _ => trivial
    · exact fun _ _ _ ⟨⟨_, hush⟩, elements⟩ => attuned.hush hush elements
    · exact fun _ _ _ ⟨⟨_, hush⟩, elements⟩ => attuned.hush hush elements
  have framing (act : Work Stage Unit) : Spares Scene.elements (Scene.onStage act) := by
    refine spares_focus ?_ act
    exact fun _ _ => rfl
  cases p with
  | create widget c => exact attuned.create sound widget c
  | update id change => exact attuned.update sound id change
  | delete widget id => exact attuned.delete sound widget id
  | restack id layer depth => exact attuned.restack sound id layer depth
  | createFrame c => exact unheard (hushed_addContainer c.id c.frame).onStage (framing _)
  | updateFrame id g => exact unheard (hushed_updateContainer id g).onStage (framing _)
  | deleteFrame id => exact attuned.deleteFrame sound id
  | loadImage id path =>
    refine unheard (hushed_loadImage id path) ((spares_script _).bind fun known => ?_)
    split
    · exact spares_get.bind fun s => spares_script _
    · exact spares_pure _

end Patches

end LayeredPage.Proofs
