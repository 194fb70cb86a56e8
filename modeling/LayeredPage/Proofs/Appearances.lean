import LayeredPage.Proofs.Painting
import LayeredPage.Proofs.Vacating

/-!
# What patches make of likenesses

A patch to an element changes what can be seen of it as its craft is painted, and nothing that can
be seen of the others.
-/

namespace LayeredPage.Proofs

open MemoryDocument

/-- A new element before anything is built below its leaf. -/
def Likeness.started (id : UInt32) : Likeness :=
  ⟨.blank, none, false, ⟨.of (marked id), []⟩, [], []⟩

/-- What a new element looks like: as its build is painted. A scroller has a sampler besides, of
which painting says nothing. -/
inductive Newborn (config : Config) (id : UInt32) : Widget → Likeness → Prop where
  | painted {kind : Widget} {t : Likeness} : paint (Craft.build config id kind) (.started id) =
    some ((), t) → Newborn config id kind t
  | sampled (scroll : Option ScrollRegion) :
    Newborn config id .scroller { (Likeness.started id).withPart .leaf .div with scroll }

/-- A figure that gets a tab index if it takes the focus. -/
def Figure.tabbed (tab : Int) (g : Figure) : Figure :=
  if g.kind.isFocusable then g.written (.attr "tabindex" (toString tab)) else g

/-- An element at another depth. -/
def Likeness.restacked (depth : UInt32) (tab : Int) (t : Likeness) : Likeness where
  notes := { t.notes with tabIndex := some tab }
  scroll := t.scroll
  watched := t.watched
  leaf := t.leaf.written (.style "z-index" (toString depth))
  parts := t.parts.map (Figure.tabbed tab)
  options := t.options.map (Figure.tabbed tab)

/-- An element keeps its entry and looks as before. -/
def Stays (s : Scene) (d : MemoryDocument) (s' : Scene) (d' : MemoryDocument) (j : UInt32) : Prop :=
  s'.elements[j]? = s.elements[j]? ∧ ∀ e, s.elements[j]? = some e → likeness e d' = likeness e d

/-- No node is observed but the leaves of live elements, and nodes from before. -/
def Watchful (base : Nat) (elements : Std.ExtTreeMap UInt32 Element) (d : MemoryDocument) : Prop :=
  ∀ i ∈ d.observed, i < base ∨ ∃ (id : UInt32) (e : Element),
    elements[id]? = some e ∧ e.leaf.id.index = i

section Scenes

variable {base : Nat} {mount : NodeId} {s s' : Scene} {d d' : MemoryDocument}
  {id j : UInt32} {e e' : Element} {elements : Std.ExtTreeMap UInt32 Element}

lemma Stays.refl : Stays s d s d j := ⟨rfl, fun _ _ => rfl⟩

lemma Stays.trans {s'' : Scene} {d'' : MemoryDocument} (first : Stays s d s' d' j)
    (second : Stays s' d' s'' d'' j) :
    Stays s d s'' d'' j :=
  ⟨second.1.trans first.1, fun e found =>
    (second.2 e (first.1.trans found)).trans (first.2 e found)⟩

lemma Unaffected.stays (unaffected : Unaffected id s s' d d') (other : j ≠ id) :
    Stays s d s' d' j :=
  ⟨unaffected.entries j other, fun e found =>
    likeness_of_records (fun n hn => unaffected.records j e n other found hn)
      (unaffected.observed j e e.leaf other found List.mem_cons_self)⟩

lemma stays_of_nodes (elements : s'.elements = s.elements) (nodes : d'.nodes = d.nodes)
    (observed : d'.observed = d.observed) :
    Stays s d s' d' j :=
  ⟨by rw [elements], fun _ _ =>
    likeness_of_records (fun _ _ => node?_of_nodes nodes) (by rw [observed])⟩

lemma Watchful.mono (watchful : Watchful base elements d)
    (fewer : ∀ i ∈ d'.observed, i ∈ d.observed) : Watchful base elements d' :=
  fun i hi => watchful i (fewer i hi)

/-- An element with the same leaf takes the place of one. -/
lemma Watchful.insert (watchful : Watchful base elements d)
    (old : ∀ e, elements[id]? = some e → e'.leaf = e.leaf)
    (more : ∀ i ∈ d'.observed, i ∈ d.observed ∨ i = e'.leaf.id.index) :
    Watchful base (elements.insert id e') d' := by
  have here : (elements.insert id e')[id]? = some e' := Std.ExtTreeMap.getElem?_insert_self
  intro i hi
  rcases more i hi with before | rfl
  · refine (watchful i before).imp_right fun ⟨j, x, found, leaf⟩ => ?_
    by_cases same : j = id
    · subst same
      exact ⟨j, e', here, by rw [old x found, leaf]⟩
    · exact ⟨j, x, (getElem?_insert_of_ne same).trans found, leaf⟩
  · exact .inr ⟨id, e', here, rfl⟩

/-- The leaf of a new element is not observed. -/
lemma Watchful.unseen {stage : Stage} (watchful : Watchful base elements d)
    (observed : d'.observed = d.observed) (hand : AtHand base mount stage elements e d') :
    d'.observed.contains e.leaf.id.index = false := by
  refine Bool.eq_false_iff.2 fun seen => ?_
  rw [Std.ExtTreeSet.contains_iff_mem, observed] at seen
  rcases watchful _ seen with foreign | ⟨j, x, found, leaf⟩
  · have :=
      hand.owned.base_le_of_mem (List.mem_append_left _ (List.mem_cons_self (l := e.fittings)))
    omega
  · refine hand.stage.disjoint found (n := e.leaf.id) List.mem_cons_self ?_
    have same : x.leaf.id = e.leaf.id := congrArg NodeId.mk leaf
    rw [← same]
    exact List.mem_cons_self

end Scenes

section Patches

variable {κ : Type} [Core κ] {base layer : Nat} {mount : NodeId} {s s' : Scene}
  {h h' : MemoryHost κ} {id j : UInt32} {e : Element}
  {stage stage' : Stage} {elements : Std.ExtTreeMap UInt32 Element} {d d₁ : MemoryDocument}
  {needed : UInt32 → Prop} {place : NodeId} {c : Creation}

omit [Core κ] in
/-- An element looks the same wherever it is hung. -/
lemma AtHand.likeness_hung (hand : AtHand base mount stage elements e d)
    (grew : Grew base mount (e.nodes ++ elementNodes elements) layer needed stage d stage' d₁)
    (inside : place ∈ (stageNodes stage').map (·.id)) :
    likeness e (d₁.append place e.leaf.id) = likeness e d := by
  have st := grew.1.standing
  obtain ⟨nodes, supplied⟩ := grew.2.document
  obtain ⟨nodes', appended, _⟩ := exists_append (d := d₁) (p := place) (c := e.leaf.id)
  refine likeness_of_figures (fun n hn => ?_) (by rw [appended, supplied])
  have held : n.id ∈ (e.nodes ++ elementNodes elements).map (·.id) :=
    List.mem_map_of_mem (List.mem_append_left _ hn)
  have apart : n.id ≠ place := fun same => st.apart held (.inr (same ▸ inside))
  have record : d₁.node? n.id = d.node? n.id := grew.records_of_others held
  have absent : e.leaf.id ∉ d₁.children n.id := by
    rw [st.owned.linked, grew.1.kept _ (.behind (.inr List.mem_cons_self) _)]
    exact hand.family.stranger hand.owned (.inr (.inl rfl)) (List.mem_map_of_mem hn)
  have children : (d₁.append place e.leaf.id).children n.id = d₁.children n.id := by
    rw [children_append st.owned.linked (st.owned.issued_of_known (.beside (.inr inside) _)),
      if_neg apart, List.append_nil,
      filter_ne_of_notMem absent]
  rw [figure, children, ← figure_of_record record, figure]
  refine congrArg (Figure.mk · _) (face_of_looks ?_)
  rw [node?_append st.owned.linked]
  cases d₁.node? n.id <;> rfl

/-- Once an element is given back none of its nodes is observed. -/
lemma AtHand.release_unobserves {s : Scene}
    (hand : AtHand base mount s.toStage elements e h.document) :
    Ends (Scene.release e) s h
      (fun _ _ h' => ∀ i ∈ h'.document.observed, i ∈ h.document.observed ∧
        ∀ n ∈ e.nodes, n.id.index ≠ i)
      (fun _ _ _ => True) fun _ => True := by
  have handed {h₁ : MemoryHost κ} (fewer : ∀ i ∈ h₁.document.observed, i ∈ h.document.observed) :
      Ends (Scene.onPools (Proofs.handBack e)) s h₁
        (fun _ _ h' => ∀ i ∈ h'.document.observed, i ∈ h.document.observed ∧
          ∀ n ∈ e.nodes, n.id.index ≠ i)
        (fun _ _ _ => True) fun _ => True := by
    have given : Ends (Scene.onPools (Proofs.handBack e)) s h₁
        (fun _ _ h' => Hushes (fun _ => False) h₁.document h'.document ∧
          ∀ n ∈ e.nodes, Silent h'.document n.id)
        (fun _ _ _ => True) fun _ => True :=
      ends_handBack_silent hand.stage.owned.stocked fun _ _ no => no
    refine given.mono ?_ (fun _ _ _ _ => trivial) fun _ _ => trivial
    rintro _ _ h' ⟨hush, silent⟩ i hi
    refine ⟨fewer i (hush.observed i hi), ?_⟩
    rintro n hn rfl
    exact (silent n hn).2 hi
  have erased (i) (hi : i ∈ h.document.observed.erase e.leaf.id.index) : i ∈ h.document.observed :=
    Std.ExtTreeSet.mem_of_mem_erase hi
  unfold Scene.release
  cases e.observed with
  | false =>
    refine (ends_bind _ _ _).2 ?_
    cases e.scroll with
    | none => exact handed fun _ => id
    | some region => exact (ends_ask _ _).2 (handed fun _ => id)
  | true =>
    refine (ends_bind _ _ _).2 ((ends_ask _ _).2 ((ends_bind _ _ _).2 ?_))
    cases e.scroll with
    | none => exact handed erased
    | some region => exact (ends_ask _ _).2 (handed erased)

omit [Core κ] in
lemma exists_paint_build (config : Config) {kind : Widget}
    (other : kind ≠ .scroller) (t : Likeness) :
    ∃ t', paint (Craft.build config id kind) t = some ((), t') := by
  cases kind with
  | scroller => exact absurd rfl other
  | text | button | checkbox | textbox | slider | dropdown | radioSet | eventBlocker =>
    exact ⟨_, rfl⟩

lemma AtWork.build_paints {rest : List OwnedNode} {e₀ : Element} {d₀ : MemoryDocument} {b : Bench}
    (work : AtWork base rest e₀ d₀ b h.document) (config : Config) (kind : Widget)
    (started : likeness b.element h.document = .started id) :
    Yields (Bench.carryOut (Craft.build config id kind)) b h fun _ b' h' =>
      Newborn config id kind (likeness b'.element h'.document) := by
  by_cases scroller : kind = .scroller
  · subst scroller
    refine (ends_bind _ _ _).2 ((work.perform_paints (r := .addPart .leaf .div) rfl).ends ?_)
    rintro _ b₁ h₁ ⟨rfl, looks, _⟩
    rw [started] at looks
    refine (ends_bind _ _ _).2
      ((ends_bind _ _ _).2 ((ends_get _).2 ((ends_bind _ _ _).2 ((ends_ask _ _).2 ?_))))
    have sampled (scroll : Option ScrollRegion) {d : MemoryDocument}
      (samplers : ∃ samplers, d = { h₁.document with samplers }) :
        Newborn config id .scroller (likeness { b₁.element with scroll } d) := by
      obtain ⟨samplers, rfl⟩ := samplers
      change Newborn config id .scroller { likeness b₁.element h₁.document with scroll }
      rw [looks]
      exact .sampled scroll
    cases b₁.element.scroll with
    | none => exact sampled _ ⟨_, rfl⟩
    | some region => exact sampled _ ⟨_, rfl⟩
  · obtain ⟨t, painted⟩ : ∃ t, paint (Craft.build config id kind) (.started id) = some ((), t) :=
      exists_paint_build config scroller (.started id)
    rw [← started] at painted
    refine (work.carryOut_paints painted).ends ?_
    rintro _ b' h' ⟨rfl, looks, _⟩
    rw [started] at painted
    exact .painted (looks ▸ painted)

/-- A new element looks as its build is painted. -/
lemma Sound.create_paints (sound : Sound base mount s h)
    (watchful : Watchful base s.elements h.document) (widget : Widget)
    (new : s.elements[c.id]? = none) :
    Ends (Scene.create widget c) s h
      (fun _ s' h' => ∃ e, s'.elements = s.elements.insert c.id e ∧ e.widget = widget ∧
        h'.document.observed = h.document.observed ∧
        Newborn s.config c.id widget (likeness e h'.document))
      (fun _ _ h' => ∀ i ∈ h'.document.observed, i ∈ h.document.observed) fun _ => True := by
  refine sound.assemble_with widget new
    (fun b h' => Newborn s.config c.id widget (likeness b.element h'.document))
    (fun leaf ps h₁ hand document record => ?_) fun b h₁ assembled built => ?_
  · have started : likeness (.start widget leaf c) h₁.document = .started c.id := by
      obtain ⟨nodes, eq⟩ := document
      have unseen := watchful.unseen (by rw [eq]) hand
      simp only [likeness, portrait, unseen]
      simp only [Element.start, figure, face_of_node? record, children_of_node? record]
      rfl
    exact ((hand.atWork s.fonts).build_paints s.config widget started).mono
      (fun _ _ _ newborn => newborn) (fun _ _ _ no => no.elim)
      fun _ no => no.elim
  · have leaf : b.element.leaf.id ∈ (b.element.nodes ++ elementNodes s.elements).map (·.id) :=
      List.mem_cons_self
    have hand := assembled.hand
    obtain ⟨nodes, samplers, reared⟩ := assembled.reared.document
    refine (hand.stage.addElement_supplies leaf c.frame).mono ?_ ?_ fun _ _ => trivial
    · rintro _ stage h₂ ⟨_, place, d, there, grew, hung⟩
      obtain ⟨nodes', supplied⟩ := grew.2.document
      obtain ⟨nodes'', appended, _⟩ := exists_append (d := d) (p := place) (c := b.element.leaf.id)
      refine ⟨b.element, rfl, assembled.widget, by rw [hung, appended, supplied, reared], ?_⟩
      rw [hung, hand.likeness_hung grew (target?_mem there)]
      exact built
    · rintro why stage h₂ grew
      obtain ⟨nodes', supplied⟩ := grew.2.document
      have grown : AtHand base mount stage s.elements b.element h₂.document := hand.grown grew.1
      refine (Ends.and (AtHand.release (s := { s with toStage := stage }) grown)
        (AtHand.release_unobserves (s := { s with toStage := stage }) grown)).mono ?_
          (fun _ _ _ no => no.1.elim) fun _ _ => trivial
      rintro _ _ h₃ ⟨_, fewer⟩ i hi
      have before := (fewer i hi).1
      rwa [supplied, reared] at before

/-- What an accepted patch makes of the elements; none of the others is seen to change. -/
def Appears (p : Patch) (config : Config) (s : Scene) (d : MemoryDocument) (s' : Scene)
    (d' : MemoryDocument) : Prop :=
  match p with
  | .create widget c =>
    s.elements[c.id]? = none ∧ (∃ e, s'.elements = s.elements.insert c.id e ∧ e.widget = widget ∧
      Newborn config c.id widget (likeness e d')) ∧ ∀ j ≠ c.id, Stays s d s' d' j
  | .update id change =>
    (∃ e e', s.elements[id]? = some e ∧ e.widget = change.widget ∧
      s'.elements = s.elements.insert id e' ∧
      e'.widget = e.widget ∧ paint (Craft.update id change) (likeness e d) =
        some ((), likeness e' d')) ∧
        ∀ j ≠ id, Stays s d s' d' j
  | .delete _ id => s'.elements[id]? = none ∧ ∀ j ≠ id, Stays s d s' d' j
  | .restack id layer depth =>
    (∃ e tab, s.elements[id]? = some e ∧ Scene.tabIndex? config depth = some tab ∧
      s'.elements = s.elements.insert id { e with layer, tabIndex := some tab } ∧
        likeness { e with layer, tabIndex := some tab } d' = (likeness e d).restacked depth tab) ∧
          ∀ j ≠ id, Stays s d s' d' j
  | .createFrame _ | .updateFrame .. | .deleteFrame _ | .loadImage .. => ∀ j, Stays s d s' d' j

lemma Sound.create_appears (sound : Sound base mount s h)
    (watchful : Watchful base s.elements h.document) (widget : Widget) (c : Creation) :
    Ends (Scene.create widget c) s h
      (fun _ s' h' => Appears (.create widget c) s.config s h.document s' h'.document ∧
        Watchful base s'.elements h'.document)
      (fun _ s' h' => (∀ j, Stays s h.document s' h'.document j) ∧
        Watchful base s'.elements h'.document) fun _ => True := by
  cases found : s.elements[c.id]? with
  | some e =>
    refine (sound.create widget c).mono ?_ ?_ fun _ _ => trivial
    · rintro _ _ _ ⟨_, new, _⟩
      rw [found] at new
      cases new
    · rintro _ _ _ ⟨_, _, ⟨_, _, rfl, rfl⟩ | ⟨new, _⟩⟩
      · exact ⟨fun _ => .refl, watchful⟩
      · rw [found] at new
        cases new
  | none =>
    refine ((sound.create_alone widget found).and (sound.create_paints watchful widget found)).mono
      ?_ ?_ fun _ _ => trivial
    · rintro _ s' h' ⟨joined, e, elements, kind, observed, looks⟩
      refine ⟨⟨found, ⟨e, elements, kind, looks⟩, fun j other => joined.others.stays other⟩, ?_⟩
      rw [elements]
      refine watchful.insert (fun x there => ?_) fun i hi => .inl (observed ▸ hi)
      rw [found] at there
      cases there
    · rintro _ s' h' ⟨⟨unaffected, same, _⟩, fewer⟩
      refine ⟨fun j => ?_, same ▸ watchful.mono fewer⟩
      by_cases here : j = c.id
      · refine ⟨by rw [same], fun x there => ?_⟩
        rw [here, found] at there
        cases there
      · exact unaffected.stays here

lemma Sound.update_appears (sound : Sound base mount s h)
    (watchful : Watchful base s.elements h.document) (id : UInt32) (change : Change) :
    Ends (Scene.update id change) s h
      (fun _ s' h' => Appears (.update id change) s.config s h.document s' h'.document ∧
        Watchful base s'.elements h'.document)
      (fun _ s' h' => (∀ j, Stays s h.document s' h'.document j) ∧
        Watchful base s'.elements h'.document) fun _ => True := by
  have painted : Ends (Scene.update id change) s h
      (fun _ s' h' => ∃ e e', s.elements[id]? = some e ∧ e.widget = change.widget ∧
        s'.elements = s.elements.insert id e' ∧
        e'.widget = e.widget ∧ paint (Craft.update id change) (likeness e h.document) =
          some ((), likeness e' h'.document) ∧
          Onward e h.document e' h'.document) (fun _ _ _ => True) fun _ => True := by
    unfold Scene.update
    refine (ends_bind _ _ _).2
      ((ends_lookup s h id change.widget).mono ?_ (fun _ _ _ _ => trivial) fun _ => False.elim)
    rintro e s₁ h₁ ⟨rfl, rfl, found, kind⟩
    obtain ⟨t, painted⟩ := exists_paint_update id change (likeness e h₁.document)
    have hand := sound.pick found
    refine (ends_bind _ _ _).2 ((ends_atBench _ _ _ _).2 ?_)
    refine ((hand.carryOut s₁.fonts _).and ((hand.atWork s₁.fonts).carryOut_paints painted)).mono ?_
      (fun _ _ _ no => no.1.elim)
      fun _ _ => trivial
    rintro _ b h₂ ⟨⟨_, _, widget, _⟩, _, rfl, onward⟩
    exact ⟨e, b.element, found, kind, rfl, widget, painted, onward⟩
  refine ((sound.update id change).and ((sound.update_alone id change).and painted)).mono ?_
    ?_ fun _ _ => trivial
  · rintro _ s' h' ⟨_, updated, e, e', found, kind, elements, widget, looks, onward⟩
    refine ⟨⟨⟨e, e', found, kind, elements, widget, looks⟩, fun j other =>
      updated.others.stays other⟩, ?_⟩
    rw [elements]
    refine watchful.insert (fun x there => ?_) fun i hi => ?_
    · rw [found] at there
      cases there
      exact onward.leaf
    · rw [onward.leaf]
      exact onward.observed i hi
  · rintro _ _ _ ⟨⟨rfl, rfl, _⟩, _⟩
    exact ⟨fun _ => .refl, watchful⟩

lemma Sound.delete_appears (sound : Sound base mount s h)
    (watchful : Watchful base s.elements h.document) (widget : Widget) (id : UInt32) :
    Ends (Scene.delete widget id) s h
      (fun _ s' h' => Appears (.delete widget id) s.config s h.document s' h'.document ∧
        Watchful base s'.elements h'.document)
      (fun _ s' h' => (∀ j, Stays s h.document s' h'.document j) ∧
        Watchful base s'.elements h'.document) fun _ => True := by
  have unseen : Ends (Scene.delete widget id) s h
      (fun _ _ h' => ∀ e, s.elements[id]? = some e → ∀ i ∈ h'.document.observed,
        i ∈ h.document.observed ∧ ∀ n ∈ e.nodes, n.id.index ≠ i)
      (fun _ _ _ => True) fun _ => True := by
    unfold Scene.delete
    refine (ends_bind _ _ _).2
      ((ends_lookup s h id widget).mono ?_ (fun _ _ _ _ => trivial) fun _ => False.elim)
    rintro e s₁ h₁ ⟨rfl, rfl, found, _⟩
    refine (ends_bind _ _ _).2 ((ends_modify _ _).2 ?_)
    refine (AtHand.release_unobserves (s := { s₁ with elements := s₁.elements.erase id })
      (sound.pick found)).mono ?_
      (fun _ _ _ _ => trivial) fun _ _ => trivial
    intro _ _ h₂ fewer x there
    rw [found] at there
    cases there
    exact fewer
  refine ((sound.delete widget id).and ((sound.delete_alone widget id).and unseen)).mono ?_
    ?_ fun _ _ => trivial
  · rintro _ s' h' ⟨⟨_, _, elements⟩, ⟨e, found, deleted⟩, fewer⟩
    refine ⟨⟨?_, fun j other => deleted.others.stays other⟩, fun i hi => ?_⟩
    · rw [elements]
      exact Std.ExtTreeMap.getElem?_erase_self
    · obtain ⟨before, gone⟩ := fewer e found i hi
      refine (watchful i before).imp_right fun ⟨j, x, there, leaf⟩ => ⟨j, x, ?_, leaf⟩
      have other : j ≠ id := by
        rintro rfl
        rw [found] at there
        cases there
        exact gone e.leaf List.mem_cons_self leaf
      rw [elements]
      exact getElem?_erase_iff.2 ⟨other, there⟩
  · rintro _ _ _ ⟨⟨rfl, rfl, _⟩, _⟩
    exact ⟨fun _ => .refl, watchful⟩

/-- A write to some nodes, on the figures of all. -/
lemma writeAll_draws {σ : Type} {s : σ} {h : MemoryHost κ} (e : Element) (w : NodeWrite)
    (other : w ≠ .observe) (nodes : List OwnedNode)
    (distinct : (nodes.map (·.id)).Nodup) (linked : Linked h.document)
    (issued : ∀ n ∈ nodes, h.document.issued n.id) :
    Yields (nodes.forM fun n => (w.apply n.id : Script Patching Unit) : Work σ Unit) s h
      fun _ s' h' => s' = s ∧
      h'.document.observed = h.document.observed ∧
      ∀ m, figure e h'.document m =
        if m ∈ nodes.map (·.id) then (figure e h.document m).written w else figure
          e h.document m := by
  induction nodes generalizing h with
  | nil => exact ⟨rfl, rfl, fun m => (if_neg List.not_mem_nil).symm⟩
  | cons n nodes ih =>
    obtain ⟨fresh, distinct⟩ := List.nodup_cons.1 distinct
    obtain ⟨here, others⟩ := figure_written (e := e) linked (issued n List.mem_cons_self) w
    refine ends_write w (issued n List.mem_cons_self) fun h₁ doc _ =>
      (ih distinct ?_ fun k hk => ?_).ends ?_
    · exact doc ▸ linked.written w
    · rw [doc, issued_written]
      exact issued k (List.mem_cons_of_mem _ hk)
    · rintro _ s' h₂ ⟨same, observed, drawn⟩
      refine ⟨same, by rw [observed, doc, observed_written w other], fun m => ?_⟩
      rw [drawn, doc]
      by_cases same : m = n.id
      · rw [same, if_neg fresh, here]
        exact (if_pos List.mem_cons_self).symm
      · rw [others m same]
        exact if_congr (by simp [same]) rfl rfl

omit [Core κ] in
/-- What an element looks like whose focusable nodes got a tab index. -/
lemma AtHand.likeness_tabbed (hand : AtHand base mount stage elements e d) (watched : Bool)
    {g : NodeId → Figure} (tab : Int) (kinds : ∀ n ∈ e.nodes, (g n.id).kind = n.kind) :
    portrait e watched
      (fun m => if m ∈ ((e.parts ++ e.options).filter (·.kind.isFocusable)).map (·.id)
        then (g m).written (.attr "tabindex" (toString tab)) else g m) =
      { portrait e watched g with
        parts := (portrait e watched g).parts.map (Figure.tabbed tab)
        options := (portrait e watched g).options.map (Figure.tabbed tab) } := by
  have distinct := hand.owned.nodup_front
  rw [Element.nodes, List.map_cons, List.nodup_cons] at distinct
  have chosen (n) (hn : n ∈ e.fittings) :
      n.id ∈ (e.fittings.filter (·.kind.isFocusable)).map (·.id) ↔ n.kind.isFocusable := by
    refine ⟨fun inside => ?_, fun focusable =>
      List.mem_map_of_mem (List.mem_filter.2 ⟨hn, focusable⟩)⟩
    obtain ⟨k, hk, same⟩ := List.mem_map.1 inside
    obtain ⟨hk, focusable⟩ := List.mem_filter.1 hk
    rwa [← List.inj_on_of_nodup_map distinct.2 hk hn same]
  have fitting (n) (hn : n ∈ e.fittings) :
      (if n.id ∈ (e.fittings.filter (·.kind.isFocusable)).map (·.id)
        then (g n.id).written (.attr "tabindex" (toString tab)) else g n.id) =
          (g n.id).tabbed tab := by
    rw [Figure.tabbed, kinds n (List.mem_cons_of_mem _ hn)]
    exact if_congr (chosen n hn) rfl rfl
  have leaf : e.leaf.id ∉ (e.fittings.filter (·.kind.isFocusable)).map (·.id) := fun inside =>
    distinct.1 (((List.filter_sublist).map _).mem inside)
  refine Likeness.ext rfl rfl rfl (if_neg leaf) ?_ ?_ <;> simp only [portrait, List.map_map]
  · exact List.map_congr_left fun n hn => fitting n (List.mem_append_left _ hn)
  · exact List.map_congr_left fun n hn => fitting n (List.mem_append_right _ hn)

/-- An element that is moved looks as before but for its depth. -/
lemma Sound.restack_paints (sound : Sound base mount s h) (id layer depth : UInt32) :
    Ends (Scene.restack id layer depth) s h
      (fun _ s' h' => ∃ e tab, s.elements[id]? = some e ∧
        Scene.tabIndex? s.config depth = some tab ∧
        s'.elements = s.elements.insert id { e with layer, tabIndex := some tab } ∧
          likeness { e with layer, tabIndex := some tab } h'.document =
            (likeness e h.document).restacked depth tab)
      (fun _ _ _ => True) fun _ => True := by
  unfold Scene.restack
  refine (ends_bind _ _ _).2 ((ends_get _).2 ?_)
  cases found : s.elements[id]? with
  | none => trivial
  | some e =>
    have hand := sound.pick found
    have listed : e.leaf.id ∈ (e.nodes ++ elementNodes (s.elements.erase id)).map (·.id) :=
      List.mem_cons_self
    refine (ends_bind _ _ _).2 ((ends_onStage _ _ _).2 (((hand.place layer).and
      (hand.stage.addElement_supplies listed e.frame)).mono ?_ (fun _ _ _ _ => trivial)
        fun _ _ => trivial))
    rintro _ s₁ h₁ ⟨⟨hand₁, _⟩, _, place, d₁, there, grew, doc₁⟩
    refine (ends_bind _ _ _).2 ((ends_get _).2 ?_)
    dsimp only
    cases inRange : Scene.tabIndex? s.config depth with
    | none => trivial
    | some tab =>
      have looks : likeness e h₁.document = likeness e h.document := by
        rw [doc₁]
        exact hand.likeness_hung grew (target?_mem there)
      have issued (n) (hn : n ∈ e.nodes) : h₁.document.issued n.id :=
        hand₁.owned.issued_of_known (.inr (mem_held (List.mem_map_of_mem hn)))
      have linked := hand₁.stage.owned.linked
      have distinct := hand₁.owned.nodup_front
      refine (ends_bind _ _ _).2 ((ends_modify _ _).2 ?_)
      refine ends_write (.style "z-index" (toString depth))
        (issued e.leaf List.mem_cons_self) fun h₂ doc₂ _ => ?_
      have deep :
          likeness e h₂.document =
            (likeness e h.document).drawn
              (·.written (.style "z-index" (toString depth))) .leaf := by
        rw [doc₂, ← looks]
        exact likeness_written distinct linked .leaf (issued e.leaf List.mem_cons_self) _
          fun same => by cases same
      have owned : Owned base s₁.pools _ h₂.document :=
        doc₂ ▸ hand₁.owned.written (.inr (mem_held List.mem_cons_self))
          (.style "z-index" (toString depth))
      have kinds (n) (hn : n ∈ e.nodes) : (figure e h₂.document n.id).kind = n.kind := by
        obtain ⟨node, there, kind⟩ := owned.kinds n (List.mem_append_left _ hn)
        exact (congrArg Face.kind (face_of_node? there)).trans kind
      refine (writeAll_draws e (.attr "tabindex" (toString tab))
        (fun same => by cases same) _ ?_ owned.linked fun n hn => ?_).ends ?_
      · exact distinct.sublist (((List.filter_sublist).map _).trans (List.sublist_cons_self ..))
      · exact owned.issued_of_known
          (.inr
            (mem_held (List.mem_map_of_mem (List.mem_cons_of_mem _ (List.mem_of_mem_filter hn)))))
      · rintro _ _ h₃ ⟨rfl, observed, drawn⟩
        refine ⟨e, tab, rfl, rfl, rfl, ?_⟩
        have tabbed :=
          hand.likeness_tabbed (h₂.document.observed.contains e.leaf.id.index) tab kinds
        rw [← funext drawn] at tabbed
        have whole : likeness e h₃.document = { likeness e h₂.document with
            parts := (likeness e h₂.document).parts.map (Figure.tabbed tab)
            options := (likeness e h₂.document).options.map (Figure.tabbed tab) } := by
          refine Eq.trans ?_ tabbed
          rw [likeness, observed]
        change { likeness e h₃.document with notes := { (likeness e
          h.document).notes with tabIndex := some tab } } = _
        rw [whole, deep]
        rfl

/-! ### Frames -/

/-- Deleting a frame takes nothing from an element but its place. -/
lemma Sound.deleteFrame_appears (sound : Sound base mount s h) (listed : Listed h.document)
    (watchful : Watchful base s.elements h.document) (id : UInt32) :
    Ends (Scene.onStage (Stage.removeContainer id)) s h
      (fun _ s' h' => (∀ j, Stays s h.document s' h'.document j) ∧
        Watchful base s'.elements h'.document)
      (fun _ s' h' => (∀ j, Stays s h.document s' h'.document j) ∧
        Watchful base s'.elements h'.document) fun _ => True := by
  by_cases registered : id ∈ s.containers
  · have hushed : Ends (Stage.removeContainer id) s.toStage h
        (fun _ s' h' => Stocked true s'.pools ∧ Hushes (fun _ => False) h.document h'.document)
        (fun _ s' h' => Stocked true s'.pools ∧ Hushes (fun _ => False) h.document h'.document)
          fun _ => True :=
      hushed_removeContainer sound.stage.owned.stocked id fun _ _ no => no
    refine (ends_onStage _ _ _).2
      (((sound.vacate listed registered).and hushed).mono ?_ ?_ fun _ _ => trivial)
    · rintro _ stage h' ⟨⟨_, vacated⟩, _, hush⟩
      refine ⟨fun j => ⟨rfl, fun e found => ?_⟩, watchful.mono hush.observed⟩
      have held {n : OwnedNode} (hn : n ∈ e.nodes) : n.id ∈ (elementNodes s.elements).map (·.id) :=
        List.mem_map_of_mem (mem_elementNodes.2 ⟨j, e, found, hn⟩)
      have framed {c : NodeId} (inside : c ∈ (s.instances id).map (·.2.id)) :
          c ∈ (stageNodes s.toStage).map (·.id) := by
        obtain ⟨p, hp, rfl⟩ := List.mem_map.1 inside
        obtain ⟨l, hl, hn⟩ := mem_instances.1 hp
        exact mem_of_frame hl hn
      have staying {n : OwnedNode} (hn : n ∈ e.nodes) :
          n.id ∉ (s.instances id).map (·.2.id) := fun inside =>
        sound.stage.apart (held hn) (.inr (framed inside))
      refine likeness_of_figures (fun n hn => figure_regrouped (vacated.kept _ (staying hn)) ?_)
        (vacated.observed _ (staying List.mem_cons_self))
      refine List.filter_eq_self.2 fun c hc => decide_eq_true fun inside => ?_
      -- A node of the frame would be among the element's own.
      rw [sound.stage.owned.linked] at hc
      have below := (sound.families j e found c n.id hc).1 (List.mem_map_of_mem hn)
      obtain ⟨k, hk, rfl⟩ := List.mem_map.1 below
      exact staying (List.mem_cons_of_mem _ hk) inside
    · rintro _ _ _ ⟨⟨_, _, rfl, rfl⟩, _⟩
      exact ⟨fun _ => .refl, watchful⟩
  · refine (sound.deleteFrame id).mono ?_ ?_ fun _ _ => trivial
    · rintro _ s' h' ⟨_, _, there, _⟩
      exact absurd (Std.ExtTreeMap.contains_iff_mem.1 there) registered
    · rintro _ _ _ ⟨rfl, rfl, _⟩
      exact ⟨fun _ => .refl, watchful⟩

lemma loadImage_appears (s : Scene) (h : MemoryHost κ)
    (watchful : Watchful base s.elements h.document) (id : UInt32) (path : String) :
    Ends (Scene.loadImage id path) s h
      (fun _ s' h' => (∀ j, Stays s h.document s' h'.document j) ∧
        Watchful base s'.elements h'.document)
      (fun _ s' h' => (∀ j, Stays s h.document s' h'.document j) ∧
        Watchful base s'.elements h'.document) fun _ => True := by
  unfold Scene.loadImage
  refine (ends_bind _ _ _).2 ((ends_script _ _).2 ?_)
  change Ends (if (!(Core.imageLoaded path h.core).1) = true then _ else _) s
    { h with core := _ } _ _ _
  split
  · refine (ends_bind _ _ _).2 ((ends_get _).2 ((ends_ask _ _).2 ?_))
    exact ⟨fun _ => stays_of_nodes rfl rfl rfl, watchful⟩
  · exact ⟨fun _ => .refl, watchful⟩

/-- What a patch makes of the elements. -/
theorem Sound.apply_appears (sound : Sound base mount s h) (listed : Listed h.document)
    (watchful : Watchful base s.elements h.document) (p : Patch) :
    Ends (Scene.apply p) s h
      (fun _ s' h' => Appears p s.config s h.document s' h'.document ∧
        Watchful base s'.elements h'.document)
      (fun _ s' h' => (∀ j, Stays s h.document s' h'.document j) ∧
        Watchful base s'.elements h'.document) fun _ => True := by
  cases p with
  | create widget c => exact sound.create_appears watchful widget c
  | update id change => exact sound.update_appears watchful id change
  | delete widget id => exact sound.delete_appears watchful widget id
  | restack id layer depth =>
    refine ((sound.restack id layer depth).and
      ((sound.restack_alone id layer depth).and (sound.restack_paints id layer depth))).mono
      ?_ ?_ fun _ _ => trivial
    · rintro _ s' h' ⟨_, ⟨_, _, moved⟩, e, tab, found, inRange, elements, looks⟩
      obtain ⟨nodes, doc⟩ := moved.document
      refine ⟨⟨⟨e, tab, found, inRange, elements, looks⟩, fun j other =>
        moved.others.stays other⟩, ?_⟩
      rw [elements]
      refine watchful.insert (fun x there => ?_) fun i hi => .inl (by rwa [doc] at hi)
      rw [found] at there
      cases there
      rfl
    · rintro _ _ _ ⟨⟨rfl, rfl, _⟩, _⟩
      exact ⟨fun _ => .refl, watchful⟩
  | createFrame c =>
    refine (ends_onStage _ _ _).2
      ((ends_addContainer s.toStage h c.id c.frame).mono ?_ ?_ fun _ _ => trivial)
    · rintro _ _ _ ⟨rfl, rfl, _⟩
      exact ⟨fun _ => stays_of_nodes rfl rfl rfl, watchful⟩
    · rintro _ _ _ ⟨rfl, rfl, _⟩
      exact ⟨fun _ => .refl, watchful⟩
  | updateFrame id g =>
    refine (ends_onStage _ _ _).2
      ((updateContainer_publishes s.toStage h id g).mono ?_ ?_ fun _ _ => trivial)
    · rintro _ _ h' ⟨_, _, rfl, doc⟩
      exact ⟨fun _ => stays_of_nodes rfl (by rw [doc]) (by rw [doc]),
        watchful.mono fun i hi => by rwa [doc] at hi⟩
    · rintro _ _ _ ⟨rfl, rfl⟩
      exact ⟨fun _ => .refl, watchful⟩
  | deleteFrame id => exact sound.deleteFrame_appears listed watchful id
  | loadImage id path => exact loadImage_appears s h watchful id path

/-! ### The hand of the user -/

omit [Core κ] in
/-- A control that is set looks so, and the scene stays in order. -/
lemma Sound.formed (sound : Sound base mount s h) (found : s.elements[id]? = some e) (spot : Spot)
    (property : FormProperty) {d' : MemoryDocument}
    (doc : d' = written (.form property) (e.node spot) h.document) :
    Sound base mount s { h with document := d' } ∧ d'.observed = h.document.observed ∧
      likeness e d' = (likeness e h.document).drawn (·.written (.form property)) spot ∧
      ∀ j ≠ id, Stays s h.document s d' j := by
  subst doc
  have hand := sound.pick found
  obtain ⟨node, hn, same⟩ := exists_node e spot
  have held : e.node spot ∈ (stageNodes s.toStage ++ elementNodes s.elements).map (·.id) := by
    rw [← same]
    exact List.mem_map_of_mem (List.mem_append_right _ (mem_elementNodes.2 ⟨id, e, found, hn⟩))
  have issued := sound.stage.owned.issued_of_known (.inr held)
  have distinct := hand.owned.nodup_front
  have bare :
      Dressed base s.pools (stageNodes s.toStage ++ elementNodes s.elements)
        h.document h.document :=
    ⟨sound.stage.owned, fun _ => rfl⟩
  refine ⟨InOrder.dressed sound (bare.written (.inr held) (.form property) rfl), rfl,
    likeness_written distinct hand.stage.owned.linked spot issued (.form property)
      (fun same => by cases same),
    fun j other => ⟨rfl, fun x there => ?_⟩⟩
  refine likeness_of_figures
    (fun n hn => (figure_written hand.stage.owned.linked issued (.form property)).2 _
      fun hit => ?_) Iff.rfl
  exact hand.stage.notMem_others (mem_others other there hn) (hit ▸ node_mem e spot)

end Patches

end LayeredPage.Proofs
