import LayeredPage.Proofs.History
import LayeredPage.Proofs.Rigging

/-!
# What patches have licence for

Every patch conducts itself properly, and leaves the leaves and parts of the elements that survive
it as they are: only the creation of an element binds input, and what is given back belongs to no
other element. A creation that is accepted gives nothing back at all.
-/

namespace LayeredPage.Proofs

open MemoryDocument

/-- The leaf or a part of one of these elements. -/
def Fixed (elements : Std.ExtTreeMap UInt32 Element) (n : NodeId) : Prop :=
  ∃ (id : UInt32) (e : Element), elements[id]? = some e ∧ n ∈ (e.leaf :: e.parts).map (·.id)

/-- Nothing is bound on the leaves and parts of these elements, and none of them is reset. -/
def guarding (elements : Std.ExtTreeMap UInt32 Element) (binds : Prop) : Licence where
  binds n := binds ∧ ¬ Fixed elements n
  resets n := ¬ Fixed elements n
  cancels _ := True

/-- The same, and nothing is given back. -/
def adding (elements : Std.ExtTreeMap UInt32 Element) : Licence where
  binds n := ¬ Fixed elements n
  resets _ := False
  cancels _ := False

/-- The elements that outlive a patch. -/
def survivors (s : Scene) : Patch → Std.ExtTreeMap UInt32 Element
  | .delete widget id =>
    if (s.elements[id]?).any
      fun e => decide (e.widget = widget) then s.elements.erase id else s.elements
  | _ => s.elements

/-- Whether a patch creates an element. -/
def Creates : Patch → Prop
  | .create .. => True
  | _ => False

section Rules

variable {κ σ τ α β : Type} [Core κ] {base : Nat} {l : Licence} {s : σ} {h : MemoryHost κ}

/-- Steps that conduct themselves properly, and what they come to if they end with a value. -/
def Conducts (base : Nat) (l : Licence) (act : Work σ α) (s : σ) (h : MemoryHost κ)
    (post : α → σ → MemoryHost κ → Prop) : Prop :=
  Minds base l act s h ∧ Ends act s h post (fun _ _ _ => True) fun _ => True

lemma conducts_bind {act : Work σ α} {f : α → Work σ β} {post : β → σ → MemoryHost κ → Prop}
    (conducts : Conducts base l act s h fun a s h => Conducts base l (f a) s h post) :
    Conducts base l (act >>= f) s h post :=
  ⟨minds_bind conducts.1
    (conducts.2.mono (fun _ _ _ next => next.1) (fun _ _ _ _ => trivial) fun _ _ => trivial),
    (ends_bind _ _ _).2
      (conducts.2.mono (fun _ _ _ next => next.2) (fun _ _ _ _ => trivial) fun _ _ => trivial)⟩

lemma Conducts.mono {act : Work σ α} {post post' : α → σ → MemoryHost κ → Prop}
    (conducts : Conducts base l act s h post)
    (all : ∀ a s h, post a s h → post' a s h) : Conducts base l act s h post' :=
  ⟨conducts.1, conducts.2.mono all (fun _ _ _ _ => trivial) fun _ _ => trivial⟩

lemma minds_onStage {s : Scene} {act : Work Stage α} (minds : Minds base l act s.toStage h) :
    Minds base l (Scene.onStage act) s h := minds_focus minds

lemma minds_scenePools {s : Scene} {act : Work NodePools α} (minds : Minds base l act s.pools h) :
    Minds base l (Scene.onPools act) s h := minds_onStage (minds_onPools minds)

lemma conducts_onPools {s : Scene} {act : Work NodePools α} {post : α → Scene → MemoryHost κ → Prop}
    (conducts : Conducts base l act s.pools h fun a pools h => post a { s with pools } h) :
    Conducts base l (Scene.onPools act) s h post :=
  ⟨minds_scenePools conducts.1, (ends_onStage _ _ _).2 ((ends_onPools _ _ _).2 conducts.2)⟩

end Rules

section Elements

variable {κ α : Type} [Core κ] {base : Nat} {l : Licence} {mount : NodeId}
  {elements : Std.ExtTreeMap UInt32 Element} {e : Element} {s : Scene} {h : MemoryHost κ}

/-- The nodes of an element at hand are no leaves or parts of others. -/
lemma AtHand.unfixed {stage : Stage} {d : MemoryDocument}
    (hand : AtHand base mount stage elements e d) {n : OwnedNode}
    (hn : n ∈ e.nodes) : ¬ Fixed elements n.id := by
  rintro ⟨id, x, hx, fixed⟩
  refine hand.stage.disjoint hx (List.mem_map_of_mem hn) ?_
  rw [Element.nodes, Element.fittings, ← List.cons_append, List.map_append]
  exact List.mem_append_left _ fixed

lemma AtHand.minds_handBack (hand : AtHand base mount s.toStage elements e h.document)
    {h₁ : MemoryHost κ}
    (nodes : h₁.document.nodes = h.document.nodes) (resets : ∀ n ∈ e.nodes, l.resets n.id) :
    Minds base l (Scene.onPools (Proofs.handBack e)) s h₁ := by
  have o := (hand.stage.owned.of_nodes nodes).perm (handBack_perm ..)
  refine minds_scenePools ?_
  refine minds_bind (o.minds_giveBack fun n hn => resets n ?_) (o.giveBack.ends ?_)
  · exact List.mem_cons_of_mem _ (List.mem_append_right _ hn)
  rintro _ ps h₂ ⟨o₂, _⟩
  refine minds_bind (o₂.minds_giveBack fun n hn => resets n ?_) (o₂.giveBack.ends ?_)
  · exact List.mem_cons_of_mem _ (List.mem_append_left _ hn)
  rintro _ ps' h₃ ⟨o₃, _⟩
  exact minds_put o₃.stocked _ (proper_reset o₃ List.mem_cons_self (resets _ List.mem_cons_self))

/-- An element is given back if its nodes may be reset and samplers be cancelled. -/
lemma AtHand.minds_release (hand : AtHand base mount s.toStage elements e h.document)
    (resets : ∀ n ∈ e.nodes, l.resets n.id)
    (cancels : ∀ x, l.cancels x) : Minds base l (Scene.release e) s h := by
  have stopping {h₁ : MemoryHost κ} (nodes : h₁.document.nodes = h.document.nodes) :
      Minds base l (do
        each e.scroll fun r => (ask (.cancelSampler r.sampler) : Script Patching Unit)
        Scene.onPools (Proofs.handBack e) : Work Scene Unit) s h₁ := by
    cases e.scroll with
    | none => exact hand.minds_handBack nodes resets
    | some r =>
      have proper : Servable base l h₁.document (.cancelSampler r.sampler) :=
        proper_of_named (fun n hn => absurd hn List.not_mem_nil)
          (fun _ _ same => by cases same) (cancels _)
      refine minds_ask_bind proper fun reply d run => hand.minds_handBack ?_ resets
      cases run
      exact nodes
  unfold Scene.release
  cases e.observed with
  | false => exact stopping rfl
  | true =>
    have leaf :
        e.leaf.id ∈ (e.nodes ++ (stageNodes s.toStage ++ elementNodes elements)).map (·.id) :=
      List.mem_cons_self
    refine minds_ask_bind (proper_write hand.owned leaf rfl (fun _ _ same => by cases same) trivial)
      fun reply d run => ?_
    cases run
    exact stopping rfl

/-- The first part of an element hears the input of its kind, and its other parts hear nothing. An
element without parts is of a kind without input. -/
structure Outfit (id : UInt32) (e : Element) (d : MemoryDocument) : Prop where
  heard : ∀ (i : Nat) (n : OwnedNode), e.parts[i]? = some n →
    heard d n.id = if i = 0 then (bound e.widget).map (id, ·) else []
  partless : e.parts = [] → bound e.widget = []

/-- A creation up to the point where its element has found its place, or has not. -/
def tryOut (widget : Widget) (c : Creation) : Work Scene (Except PatchError Unit × Element) := do
  let leaf ← Scene.onPools (Pools.take NodeKind.div)
  ask (.setAttribute leaf.id "class" Element.leafClass)
  ask (.setAttribute leaf.id nativeIdAttribute (toString c.id))
  let (built, e) ← Scene.atBench (.start widget leaf c) (Craft.build (← get).config c.id widget)
  let placed ← Action.outcome do
    Scene.create.liftExcept built
    Scene.onStage (Stage.addElement leaf.id c.frame c.layer)
  return (placed, e)

/-- The element is entered if it has found its place, and is given back if it has not. -/
def conclude (id : UInt32) (r : Except PatchError Unit × Element) : Work Scene Unit :=
  match r.1 with
  | .ok _ => Scene.putElement id r.2
  | .error why => do
    Scene.release r.2
    throw why

lemma create_eq (widget : Widget) (c : Creation) : Scene.create widget c = (do
    if (← get).elements.contains c.id then throw (.duplicateElement c.id)
    tryOut widget c >>= conclude c.id) := by
  unfold Scene.create tryOut
  simp only [bind_assoc, pure_bind]
  rfl

lemma Fixed.mem {n : NodeId} (fixed : Fixed elements n) :
    n ∈ (elementNodes elements).map (·.id) := by
  obtain ⟨id, x, hx, inside⟩ := fixed
  obtain ⟨m, hm, rfl⟩ := List.mem_map.1 inside
  refine List.mem_map_of_mem (mem_elementNodes.2 ⟨id, x, hx, ?_⟩)
  rw [Element.nodes, Element.fittings, ← List.cons_append]
  exact List.mem_append_left _ hm

lemma conducts_write {σ : Type} {s : σ} {f : Unit → Work σ α} {post : α → σ → MemoryHost κ → Prop}
    {ps : NodePools} {mine : List OwnedNode}
    {d₀ : MemoryDocument} {c : NodeId} (dressed : Dressed base ps mine d₀ h.document)
    (hc : c ∈ mine.map (·.id)) (w : NodeWrite) (hw : replaces w = false) (quiet : idle w = true)
    (next : ∀ h : MemoryHost κ, Dressed base ps mine d₀ h.document →
      Conducts base l (f ()) s h post) :
    Conducts base l (liftM (w.apply c) >>= f) s h post :=
  ⟨dressed.minds_write hc w hw quiet fun h done => (next h done).1,
    dressed.write (.inr hc) w hw fun h done => (next h done).2⟩

/-- Hanging an element changes no input anywhere. -/
lemma AtHand.conducts_place (hand : AtHand base mount s.toStage elements e h.document) :
    Conducts base l
      (Action.outcome (Scene.onStage (Stage.addElement e.leaf.id e.frame e.layer))) s h
        fun _ s' h' =>
      AtHand base mount s'.toStage elements e h'.document ∧ s'.elements = s.elements ∧
        ∀ n, h.document.issued n → heard h'.document n = heard h.document n := by
  have listed : e.leaf.id ∈ (e.nodes ++ elementNodes elements).map (·.id) := List.mem_cons_self
  have still :
      Minds base ⟨fun _ => False, fun _ => False, fun _ => False⟩
        (Stage.addElement e.leaf.id e.frame e.layer)
        s.toStage h := hand.stage.minds_addElement listed e.frame
  refine ⟨minds_outcome (minds_onStage (hand.stage.minds_addElement listed e.frame)),
    (ends_outcome _ _).2 ((ends_onStage _ _ _).2 ?_)⟩
  refine ((hand.place e.layer).and still.undisturbed).mono ?_ ?_ fun _ _ => trivial
  · exact fun _ _ _ ⟨placed, kept⟩ => ⟨placed.1, rfl, fun n there => kept n there id id⟩
  · exact fun _ _ _ ⟨lost, kept⟩ => ⟨lost.1, rfl, fun n there => kept n there id id⟩

/-- The attempt binds input on nodes of its own only, and gives none back. -/
theorem Sound.tryOut (sound : Sound base mount s h) (widget : Widget) (c : Creation)
    (binds : ∀ n : NodeId, base ≤ n.index → ¬ Fixed s.elements n → l.binds n) :
    Conducts base l (tryOut widget c) s h fun r s' h' =>
      AtHand base mount s'.toStage s.elements r.2 h'.document ∧
      s'.elements = s.elements ∧ r.2.widget = widget ∧ Outfit c.id r.2 h'.document := by
  unfold Proofs.tryOut
  refine conducts_bind (conducts_onPools ⟨minds_take sound.stage.owned.stocked .div,
    (sound.stage.owned.take .div).ends fun leaf ps h₁ taken => ?_⟩)
  obtain ⟨o₁, _, blank, parents₁⟩ := taken
  have held : leaf.id ∈ (leaf :: (stageNodes s.toStage ++ elementNodes s.elements)).map (·.id) :=
    List.mem_cons_self
  have bare :
      Dressed base ps (leaf :: (stageNodes s.toStage ++ elementNodes s.elements))
        h.document h₁.document :=
    ⟨o₁, parents₁⟩
  refine conducts_write bare held (.attr "class" Element.leafClass) rfl rfl fun h₂ dressed => ?_
  refine conducts_write dressed held (.attr nativeIdAttribute (toString c.id)) rfl rfl
    fun h₃ dressed => ?_
  have begun :
      AtHand base mount { s.toStage with pools := ps } s.elements
        (.start widget leaf c) h₃.document := by
    refine InOrder.begin sound dressed.owned dressed.parents fun m => ?_
    rw [dressed.parents, ← parents₁, ne_eq, ← o₁.linked, children_of_node? blank]
    exact List.not_mem_nil
  have unrigged : Rigged ⟨0, false⟩ [] (.start widget leaf c) h₃.document :=
    ⟨rfl, rfl, fun i n hn => by simp [Element.start] at hn, fun _ => rfl⟩
  have own (n : NodeId) (made : base ≤ n.index)
    (apart : n ∉ (stageNodes s.toStage ++ elementNodes s.elements).map (·.id)) :
      l.binds n := by
    refine binds n made fun fixed => apart ?_
    rw [List.map_append]
    exact List.mem_append_right _ fixed.mem
  have rigs := (begun.atWork s.fonts).rig unrigged (build_rigging s.config c.id widget) own
  refine conducts_bind
    ⟨minds_get, (ends_get _).2 (conducts_bind ⟨minds_atBench rigs.1, (ends_atBench _ _ _ _).2 ?_⟩)⟩
  refine ((begun.carryOut s.fonts _).and rigs.2).mono ?_
    (fun _ _ _ no => no.1.elim) fun _ _ => trivial
  rintro _ b h₄ ⟨⟨hand, _, same_widget, same_leaf, same_frame, same_layer⟩, t, rigged⟩
  have args : leaf.id = b.element.leaf.id ∧ c.frame = b.element.frame ∧ c.layer = b.element.layer :=
    ⟨by rw [same_leaf]; rfl, same_frame.symm, same_layer.symm⟩
  rw [args.1, args.2.1, args.2.2]
  refine conducts_bind
    ((AtHand.conducts_place (s := { s with pools := b.pools, fonts := b.fonts }) hand).mono ?_)
  rintro placed s₅ h₅ ⟨hand₅, elements, kept⟩
  have kind : b.element.widget = widget := same_widget
  refine ⟨minds_pure _, hand₅, elements, same_widget, fun i n hn => ?_, fun partless => ?_⟩
  · have part : n ∈ b.element.nodes :=
      List.mem_cons_of_mem _ (List.mem_append_left _ (List.mem_of_getElem? hn))
    rw [kept n.id (hand.owned.issued (List.mem_append_left _ part)), rigged.heard i n hn, kind]
    rfl
  · have none := rigged.partless (rigged.parts ▸ congrArg List.length partless)
    rw [kind]
    exact List.map_eq_nil_iff.1 none

end Elements

section Patches

variable {κ σ α β : Type} [Core κ] {base : Nat} {l : Licence} {mount : NodeId}
  {s : Scene} {h : MemoryHost κ}

/-- What steps did if they ended with a value, as far as the value shows it. -/
lemma ends_minds_bind {act : Work σ α} {f : α → Work σ β} {s : σ} (first : Minds base l act s h)
    (next : Ends act s h
      (fun a s h =>
        Ends (f a) s h (fun _ _ _ => Minds base l (f a) s h) (fun _ _ _ => True) fun _ => True)
      (fun _ _ _ => True) fun _ => True) :
    Ends (act >>= f) s h (fun _ _ _ => Minds base l (act >>= f) s h) (fun _ _ _ => True) fun _ =>
      True := by
  rw [ends_bind]
  unfold Ends at next ⊢
  cases run : MemoryHost.patch act s h with
  | error b => trivial
  | ok r =>
    obtain ⟨⟨e | a, s₁⟩, h₁⟩ := r
    · trivial
    · rw [run] at next
      have later :
          Ends (f a) s₁ h₁ (fun _ _ _ => Minds base l (f a) s₁ h₁) (fun _ _ _ => True)
            fun _ => True := next
      refine later.mono (fun _ _ _ minds => minds_bind first ?_)
        (fun _ _ _ _ => trivial) fun _ _ => trivial
      unfold Ends
      rw [run]
      exact minds

/-- A creation takes back only what it brought itself. -/
lemma Sound.minds_create (sound : Sound base mount s h) (widget : Widget) (c : Creation) :
    Minds base (guarding s.elements True) (Scene.create widget c) s h := by
  rw [create_eq]
  refine minds_get_bind ?_
  split
  · trivial
  have tried :=
    sound.tryOut widget c (l := guarding s.elements True) fun n _ free => ⟨trivial, free⟩
  refine minds_bind tried.1 (tried.2.mono ?_ (fun _ _ _ _ => trivial) fun _ _ => trivial)
  rintro ⟨placed, e⟩ s₁ h₁ ⟨hand, _⟩
  cases placed with
  | ok => exact minds_modify _
  | error why =>
    refine minds_bind_any (hand.minds_release (fun n hn => hand.unfixed hn) fun _ => trivial)
      fun _ _ _ => minds_throw _

/-- A creation that is accepted takes back nothing. -/
theorem Sound.minds_accepted (sound : Sound base mount s h) (widget : Widget) (c : Creation) :
    Ends (Scene.create widget c) s h
      (fun _ _ _ => Minds base (adding s.elements) (Scene.create widget c) s h)
      (fun _ _ _ => True) fun _ => True := by
  have tried := sound.tryOut widget c (l := adding s.elements) fun n _ free => free
  rw [create_eq]
  refine ends_minds_bind minds_get ((ends_get _).2 ?_)
  split
  · trivial
  · refine ends_minds_bind tried.1 (tried.2.mono ?_ (fun _ _ _ _ => trivial) fun _ _ => trivial)
    rintro ⟨placed, e⟩ s₁ h₁ _
    cases placed with
    | ok => exact (ends_modify _ _).2 (minds_modify _)
    | error why =>
      refine (ends_bind _ _ _).2 (Ends.any ?_)
      exact fun _ _ _ => trivial

lemma minds_lookup (id : UInt32) (widget : Widget) : Minds base l (Scene.lookup id widget) s h := by
  refine minds_get_bind ?_
  split
  · trivial
  · split
    · trivial
    · trivial

lemma Sound.minds_update (sound : Sound base mount s h) (id : UInt32)
    (change : Change) (binds : Prop) :
    Minds base (guarding s.elements binds) (Scene.update id change) s h := by
  refine minds_bind (minds_lookup id change.widget)
    ((ends_lookup s h id change.widget).mono ?_ (fun _ _ _ _ => trivial)
      fun _ _ => trivial)
  rintro e s₁ h₁ ⟨rfl, rfl, found, kind⟩
  have hand := sound.pick found
  refine minds_bind_any (minds_atBench ?_) fun r _ _ =>
    minds_bind_any (minds_modify _) fun _ _ _ => ?_
  · refine AtWork.minds_update (modest_update id change) (fun n unfixed apart => ?_)
      (hand.atWork s₁.fonts) rfl
    rintro ⟨j, x, hx, fixed⟩
    by_cases same : j = id
    · subst same
      rw [found] at hx
      cases hx
      exact unfixed fixed
    · have other : Fixed (s₁.elements.erase id) n := ⟨j, x, getElem?_erase_iff.2 ⟨same, hx⟩, fixed⟩
      refine apart ?_
      rw [List.map_append]
      exact List.mem_append_right _ other.mem
  · split
    · trivial
    · trivial

lemma Sound.minds_delete (sound : Sound base mount s h) (widget : Widget)
    (id : UInt32) (binds : Prop) :
    Minds base (guarding (survivors s (.delete widget id)) binds) (Scene.delete widget id) s h := by
  refine minds_bind (minds_lookup id widget)
    ((ends_lookup s h id widget).mono ?_ (fun _ _ _ _ => trivial) fun _ _ => trivial)
  rintro e s₁ h₁ ⟨rfl, rfl, found, kind⟩
  have gone : survivors s₁ (.delete widget id) = s₁.elements.erase id := by
    simp [survivors, found, kind]
  have hand := sound.pick found
  rw [gone]
  refine minds_modify_bind ?_
  exact AtHand.minds_release (s := { s₁ with elements := s₁.elements.erase id }) hand
    (fun n hn => hand.unfixed hn) fun _ => trivial

lemma minds_writeAll {σ : Type} {s : σ} {ps : NodePools} {mine : List OwnedNode}
    {d₀ : MemoryDocument} (w : NodeWrite)
    (hw : replaces w = false) (quiet : idle w = true) (nodes : List OwnedNode) {h : MemoryHost κ}
    (dressed : Dressed base ps mine d₀ h.document) (own : ∀ n ∈ nodes, n ∈ mine) :
    Minds base l (nodes.forM fun n => (w.apply n.id : Script Patching Unit) : Work σ Unit) s h := by
  induction nodes generalizing h with
  | nil => trivial
  | cons n nodes ih =>
    have held : n.id ∈ mine.map (·.id) := List.mem_map_of_mem (own n List.mem_cons_self)
    exact dressed.minds_write held w hw quiet fun h dressed => ih dressed fun m hm =>
      own m (List.mem_cons_of_mem _ hm)

lemma Sound.minds_restack (sound : Sound base mount s h) (id layer depth : UInt32) :
    Minds base l (Scene.restack id layer depth) s h := by
  refine minds_get_bind ?_
  cases found : s.elements[id]? with
  | none => trivial
  | some e =>
    have hand := sound.pick found
    have listed : e.leaf.id ∈ (e.nodes ++ elementNodes (s.elements.erase id)).map (·.id) :=
      List.mem_cons_self
    refine minds_bind (minds_onStage (hand.stage.minds_addElement listed e.frame))
      ((ends_onStage _ _ _).2
        ((hand.place layer).mono ?_ (fun _ _ _ _ => trivial) fun _ _ => trivial))
    rintro _ s₁ h₁ ⟨hand₁, _⟩
    refine minds_get_bind ?_
    split
    · exact minds_broken _
    · refine minds_modify_bind ?_
      have dressed : Dressed base _ _ h₁.document h₁.document := ⟨hand₁.owned, fun _ => rfl⟩
      have own (n) (hn : n ∈ e.nodes) :
          n ∈ e.nodes ++ (stageNodes s₁ ++ elementNodes (s.elements.erase id)) :=
        List.mem_append_left _ hn
      refine dressed.minds_write (List.mem_map_of_mem (own e.leaf List.mem_cons_self))
        (.style "z-index" (toString depth)) rfl rfl
        fun h₂ dressed => ?_
      refine minds_writeAll (.attr "tabindex" _) rfl rfl _ dressed fun n hn => ?_
      exact own n (List.mem_cons_of_mem _ (List.mem_of_mem_filter hn))

lemma Sound.minds_deleteFrame (sound : Sound base mount s h) (id : UInt32) (binds : Prop) :
    Minds base (guarding s.elements binds) (Scene.onStage (Stage.removeContainer id)) s h := by
  refine minds_onStage (sound.stage.minds_removeContainer id fun p hp fixed => ?_)
  obtain ⟨lyr, hl, hn⟩ := mem_instances.1 hp
  refine sound.stage.apart fixed.mem (known_of_stage (mem_stageNodes.2 ⟨p.1, lyr, hl, ?_⟩))
  exact mem_layerNodes.2 (.inr (.inr ⟨id, hn⟩))

lemma minds_loadImage (id : UInt32) (path : String) :
    Minds base l (Scene.loadImage id path) s h := by
  refine minds_bind_any (minds_tell trivial) fun known s h => ?_
  split
  · refine minds_get_bind (minds_ask (proper_of_named ?_ (fun _ _ same => by cases same) trivial))
    exact fun n hn => absurd hn List.not_mem_nil
  · trivial

/-- Every patch keeps to its licence: it spares those who survive it, and binds input only to
create. -/
theorem Sound.minds_apply (sound : Sound base mount s h) (p : Patch) :
    Minds base (guarding (survivors s p) (Creates p)) (Scene.apply p) s h := by
  cases p with
  | create widget c => exact sound.minds_create widget c
  | update id change => exact sound.minds_update id change _
  | delete widget id => exact sound.minds_delete widget id _
  | restack id layer depth => exact sound.minds_restack id layer depth
  | createFrame c => exact minds_onStage (minds_addContainer c.frame)
  | updateFrame id g => exact minds_onStage (minds_updateContainer g)
  | deleteFrame id => exact sound.minds_deleteFrame id _
  | loadImage id path => exact minds_loadImage id path

/-- Taking over a mount gives nothing back either. -/
theorem behaves_attach (linked : Linked h.document)
    (there : h.document.issued mount) (config : Config) :
    Behaves h.document.nodes.size l (Scene.attach mount config) h := by
  have built : Behaves h.document.nodes.size l (Layer.build mount 0 ⟨.complete, ∅⟩) h :=
    minds_build (w := ⟨.complete, ∅⟩) (.start linked) (of_decide_eq_true there)
  have staged : Behaves h.document.nodes.size l (Stage.attach .complete mount) h := by
    refine Behaves.bind built ?_
    unfold Answers
    split <;> trivial
  refine Behaves.bind staged ?_
  unfold Answers
  split <;> trivial

end Patches

end LayeredPage.Proofs
