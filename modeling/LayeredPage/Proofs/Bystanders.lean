import LayeredPage.Proofs.Discretion
import LayeredPage.Proofs.Reporting
import LayeredPage.Proofs.Supplying

/-!
# Patches to one element leave the others alone

Whoever updates, deletes or moves an element changes nothing of the other elements, neither their
entries in the table nor what the document keeps of their nodes. An update stays below its own leaf;
deleting takes only the leaf from the stage; moving takes it from one place and puts it last in
another, on a stage that has grown as far as that is needed.
-/

namespace LayeredPage.Proofs

open MemoryDocument

/-! ## Every scene of a session is in order -/

section Sessions

variable {κ : Type} [Core κ] {base : Nat} {mount : NodeId} {config : Config} {h₀ h : MemoryHost κ}
  {s : Scene} {n : NodeId} {mine : List OwnedNode} {ps : NodePools} {d : MemoryDocument}

/-- Nobody is heard on a shelf. -/
lemma Owned.known_of_heard (o : Owned base ps mine d) (issued : d.issued n)
    (bound : heard d n ≠ []) : Known base mine n := by
  by_cases foreign : n.index < base
  · exact .inl foreign
  · have held := o.mem_iff.2 ⟨Nat.le_of_not_lt foreign, issued⟩
    obtain ⟨m, hm, rfl⟩ := List.mem_map.1 held
    rcases List.mem_append.1 hm with waiting | hm
    · exact absurd (heard_of_node? (o.fresh m waiting)) bound
    · exact .inr (List.mem_map_of_mem hm)

omit [Core κ] in
lemma Sound.event (sound : Sound base mount s h) {name : String} {value : InputValue Float}
    {sent : List (Interrupt Float)} (run : fire n name value h.document = .ok (sent, d)) :
    Sound base mount s { h with document := d } := by
  have issued : h.document.issued n := by
    cases found : h.document.node? n with
    | some node => exact issued_of_node? found
    | none => simp [fire, unread_node? found, bind, StateT.bind, Except.bind] at run
  obtain ⟨d', run', rfl | ⟨bound, state, rfl⟩⟩ := exists_fired issued name value
  · rw [run'] at run
    cases run
    exact sound
  · rw [run'] at run
    cases run
    have bare :
        Dressed base s.pools (stageNodes s.toStage ++ elementNodes s.elements)
          h.document h.document :=
      ⟨sound.stage.owned, fun _ => rfl⟩
    have known := sound.stage.owned.known_of_heard issued bound
    exact InOrder.dressed sound (bare.written known (.form (.checked state)) rfl)

theorem Session.sound (session : Session mount config h₀ s h) (linked : Linked h₀.document)
    (there : h₀.document.issued mount) :
    Sound h₀.document.nodes.size mount s h := by
  induction session with
  | attached run => exact (History.attached run).sound linked there
  | @happened s s' h h' next _ run sound =>
    cases next with
    | patch p =>
      have kept := sound.apply p
      unfold Keeps Ends at kept
      have patched : Happening.occur (.patch p) s h =
          (MemoryHost.patch (Scene.apply p) s h).bind fun r => .ok (r.1.2, r.2) := rfl
      rw [patched] at run
      revert run kept
      rcases MemoryHost.patch (Scene.apply p) s h with b | ⟨⟨e | _, s₁⟩, h₁⟩
      · intro run
        cases run
      · rintro ⟨⟩ ⟨sound, _⟩
        exact sound
      · rintro ⟨⟩ sound
        exact sound
    | event n name value =>
      have fired : Happening.occur (.event n name value) s h =
          ((fire n name value h.document).bind fun r => .ok (r.1, { h with document := r.2 })).bind
            fun r => .ok (s, r.2) := rfl
      rw [fired] at run
      cases told : fire n name value h.document with
      | error b =>
        rw [told] at run
        cases run
      | ok r =>
        rw [told] at run
        cases run
        exact sound.event told

end Sessions

/-! ## What the patches do -/

/-- The elements but one: their entries, and what the document keeps of their nodes. -/
structure Unaffected (id : UInt32) (s s' : Scene) (d d' : MemoryDocument) : Prop where
  entries : ∀ j, j ≠ id → s'.elements[j]? = s.elements[j]?
  records : ∀ (j : UInt32) (e : Element) (n : OwnedNode), j ≠ id →
    s.elements[j]? = some e → n ∈ e.nodes →
    d'.node? n.id = d.node? n.id
  observed : ∀ (j : UInt32) (e : Element) (n : OwnedNode), j ≠ id →
    s.elements[j]? = some e → n ∈ e.nodes →
    (n.id.index ∈ d'.observed ↔ n.id.index ∈ d.observed)

/-- An element after an update. Of the rest, the pools, the fonts with their loads and the focus may
have changed; the nodes of the stage, and those from before it, are recorded and observed as they
were. -/
structure Updated {κ : Type} (base : Nat) (id : UInt32) (s : Scene) (h : MemoryHost κ) (s' : Scene)
    (h' : MemoryHost κ) : Prop where
  others : Unaffected id s s' h.document h'.document
  scene : ∃ pools fonts e, s' = { s with pools, fonts, elements := s.elements.insert id e }
  fixtures : ∀ m, Known base (stageNodes s.toStage) m → h'.document.node? m = h.document.node? m ∧
    (m.index ∈ h'.document.observed ↔ m.index ∈ h.document.observed)
  document : ∃ nodes observed faces focused, s'.fonts.faces = faces.reverse ++ s.fonts.faces ∧
    h' = { h with
      document := { h.document with
        nodes, observed, faces := h.document.faces ++ faces, focused } }

/-- The document with the sampler of an element stopped. -/
def stopped (e : Element) (d : MemoryDocument) : MemoryDocument :=
  match e.scroll with
  | some r => d.modifySampler r.sampler fun sampler => { sampler with live := false }
  | none => d

/-- An element after it was deleted: its leaf is gone from its place, and nothing else from the
stage. -/
structure Deleted {κ : Type} (base : Nat) (id : UInt32) (e : Element) (s : Scene)
    (h : MemoryHost κ) (s' : Scene) (h' : MemoryHost κ) : Prop where
  others : Unaffected id s s' h.document h'.document
  scene : ∃ pools, s' = { s with pools, elements := s.elements.erase id }
  fixtures : ∃ old, target? s.toStage e.layer.toNat e.frame = some old ∧ ∀ m,
    Known base (stageNodes s.toStage) m →
    h'.document.node? m =
      (h.document.node? m).map
        (regrouped fun cs => if m = old then cs.filter (· ≠ e.leaf.id) else cs) ∧
    (m.index ∈ h'.document.observed ↔ m.index ∈ h.document.observed)
  document : ∃ nodes observed focused,
    h' = { h with document := { stopped e h.document with nodes, observed, focused } }

/-- An element after it was moved to a layer. The stage has grown up to this layer, and on it for
the containers that hold the element, each clipped by its path. Nodes lost the leaf at most, and
gained new nodes of the stage, and one of them the leaf as its last child. -/
structure Restacked {κ : Type} (base : Nat) (id : UInt32) (e : Element) (layer : UInt32) (s : Scene)
    (h : MemoryHost κ) (s' : Scene) (h' : MemoryHost κ) : Prop where
  others : Unaffected id s s' h.document h'.document
  scene : ∃ tab stage,
    s' = { s with
      toStage := stage
      elements := s.elements.insert id { e with layer, tabIndex := some tab } }
  grown : Extends s.toStage s'.toStage ∧ s'.containers = s.containers ∧
    s'.layers.size = max s.layers.size (layer.toNat + 1)
  frames : ∀ (i : Nat) (l' : Layer) (f : UInt32) (node : OwnedNode), s'.layers[i]? = some l' →
    l'.frames[f]? = some node →
    (∃ l, s.layers[i]? = some l ∧ l.frames[f]? = some node) ∨
      i = layer.toNat ∧ Holds s.containers e.frame f ∧ Refers h'.document node.id f
  fixtures : ∃ old place, target? s.toStage e.layer.toNat e.frame = some old ∧
    target? s'.toStage layer.toNat e.frame = some place ∧
    (∃ before, h'.document.children place = before ++ [e.leaf.id]) ∧
    ∀ m, Known base (stageNodes s.toStage) m → ∃ new,
      h'.document.node? m = (h.document.node? m).map (regrouped fun cs =>
        (if m = old then cs.filter (· ≠ e.leaf.id) else cs) ++ new ++ if m =
          place then [e.leaf.id] else []) ∧
      ∀ c ∈ new, c ∈ (stageNodes s'.toStage).map (·.id) ∧ c ∉ (stageNodes s.toStage).map (·.id)
  document : ∃ nodes, h'.document = { h.document with nodes }

section Patches

variable {κ : Type} [Core κ] {base : Nat} {mount : NodeId} {s : Scene} {h : MemoryHost κ}
  {id : UInt32} {e : Element}
  {stage : Stage} {elements : Std.ExtTreeMap UInt32 Element} {d : MemoryDocument}

/-- The nodes of another element are held by the others. -/
lemma mem_others {j : UInt32} {x : Element} {n : OwnedNode} (other : j ≠ id)
    (found : elements[j]? = some x) (hn : n ∈ x.nodes) :
    n.id ∈ (elementNodes (elements.erase id)).map (·.id) :=
  List.mem_map_of_mem (mem_elementNodes.2 ⟨j, x, getElem?_erase_iff.2 ⟨other, found⟩, hn⟩)

lemma others_of_erase {m : NodeId} (hm : m ∈ (elementNodes (elements.erase id)).map (·.id)) :
    m ∈ (elementNodes elements).map (·.id) := by
  obtain ⟨n, hn, rfl⟩ := List.mem_map.1 hm
  obtain ⟨j, x, found, hn⟩ := mem_elementNodes.1 hn
  exact List.mem_map_of_mem (mem_elementNodes.2 ⟨j, x, (getElem?_erase_iff.1 found).2, hn⟩)

/-- Whoever keeps to the nodes of one element leaves the others unaffected. -/
lemma Unaffected.of_kept {s' : Scene} {d d' : MemoryDocument}
    (entries : ∀ j, j ≠ id → s'.elements[j]? = s.elements[j]?)
    (records : ∀ m ∈ (elementNodes (s.elements.erase id)).map (·.id), d'.node? m = d.node? m)
    (observed : ∀ m ∈ (elementNodes (s.elements.erase id)).map (·.id), m.index ∈ d'.observed ↔
      m.index ∈ d.observed) :
    Unaffected id s s' d d' :=
  ⟨entries, fun _ _ n other found hn => records n.id (mem_others other found hn),
    fun _ _ n other found hn => observed n.id (mem_others other found hn)⟩

theorem Sound.update_alone (sound : Sound base mount s h) (id : UInt32) (change : Change) :
    Ends (Scene.update id change) s h (fun _ s' h' => Updated base id s h s' h') (fun _ _ _ => True)
    (fun _ => True) := by
  unfold Scene.update
  refine (ends_bind _ _ _).2
    ((ends_lookup s h id change.widget).mono ?_ (fun _ _ _ _ => trivial) fun _ => False.elim)
  rintro e s₁ h₁ ⟨rfl, rfl, found, kind⟩
  have hand := sound.pick found
  have still : Uses (¬ Samples ·) (Craft.update id change) :=
    (modest_update id change).mono fun r modest samples => by
    cases r with
    | sample => exact modest
    | look | note | addPart | addOption | clearOptions | write | html | resizeRegion | useFont =>
      exact samples
  refine (ends_bind _ _ _).2
    ((ends_atBench _ _ _ _).2 (((hand.atWork s₁.fonts).carryOut_discreet _).mono ?_
      (fun _ _ _ => False.elim) fun _ _ => trivial))
  rintro _ b h₂ ⟨_, discreet⟩
  have others {m : NodeId} (hm : m ∈ (elementNodes (s₁.elements.erase id)).map (·.id)) :
      Known base (stageNodes s₁.toStage ++ elementNodes (s₁.elements.erase id)) m :=
    .behind (.inr hm) _
  have done :
      Updated base id s₁ h₁
        { s₁ with pools := b.pools, fonts := b.fonts, elements := s₁.elements.insert id b.element }
          h₂ := by
    refine ⟨.of_kept (fun j other => getElem?_insert_of_ne other)
      (fun m hm => discreet.records m (others hm))
      fun m hm => discreet.observed m (others hm), ⟨_, _, _, rfl⟩,
      fun m hm => ⟨discreet.records m (hm.beside _), discreet.observed m (hm.beside _)⟩, ?_⟩
    obtain ⟨faces, document, cache⟩ := discreet.loads
    refine ⟨h₂.document.nodes, h₂.document.observed, faces, h₂.document.focused, cache, ?_⟩
    dsimp only
    rw [← document, ← discreet.properties, ← discreet.images,
      ← discreet.samplers still, ← discreet.core]
  exact done

/-! ### Deleting -/

/-- All nodes of an element go back, with their ties to known nodes. -/
lemma AtHand.handBack_returns (hand : AtHand base mount stage elements e h.document)
    {h₁ : MemoryHost κ} (nodes : h₁.document.nodes = h.document.nodes) :
    Yields (Proofs.handBack e) stage.pools h₁ fun _ _ h' =>
      Returned (Known base (stageNodes stage ++ elementNodes elements))
      (e.nodes.map (·.id)) h₁ h' := by
  let K := Known base (stageNodes stage ++ elementNodes elements)
  have o := (hand.stage.owned.of_nodes nodes).perm (handBack_perm ..)
  have apart (m) (hm : K m) (n) (hn : n ∈ e.nodes) :
      m ≠ n.id ∧ h₁.document.parent? m ≠ some n.id := by
    have own := List.mem_map_of_mem (f := (·.id)) hn
    refine ⟨hand.owned.strange own hm, fun above => ?_⟩
    rw [parent?_of_nodes nodes] at above
    exact hand.owned.strange (List.mem_cons_of_mem _ ((hand.family m n.id above).1 own)) hm rfl
  have of_option {n : OwnedNode} (hn : n ∈ e.options) : n ∈ e.nodes :=
    List.mem_cons_of_mem _ (List.mem_append_right _ hn)
  have of_part {n : OwnedNode} (hn : n ∈ e.parts) : n ∈ e.nodes :=
    List.mem_cons_of_mem _ (List.mem_append_left _ hn)
  refine (ends_bind _ _ _).2
    ((o.giveBack_returns (K := K) fun m hm n hn => apart m hm n (of_option hn)).ends ?_)
  rintro _ ps₂ h₂ ⟨o₂, back₂⟩
  have apart₂ (m) (hm : K m) (n) (hn : n ∈ e.nodes) :
      m ≠ n.id ∧ h₂.document.parent? m ≠ some n.id := by
    rw [back₂.records.parent? hm]
    exact apart m hm n hn
  refine (ends_bind _ _ _).2
    ((o₂.giveBack_returns (K := K) fun m hm n hn => apart₂ m hm n (of_part hn)).ends ?_)
  rintro _ ps₃ h₃ ⟨o₃, back₃⟩
  refine (o₃.put_returns (K := K) fun m hm => ?_).ends ?_
  · rw [back₃.records.parent? hm]
    exact apart₂ m hm e.leaf List.mem_cons_self
  · rintro _ ps₄ h₄ ⟨_, back₄⟩
    have whole := (back₂.trans back₃).trans back₄
    refine ⟨whole.records.congr fun c => ?_, whole.observed, whole.nodewise, whole.core⟩
    simp only [Element.nodes, Element.fittings, List.map_cons, List.map_append, List.mem_append,
      List.mem_cons, List.not_mem_nil,
      or_false]
    tauto

/-- A list without one name, under a condition that holds where the name is. -/
lemma Lost.from_place {K : NodeId → Prop} {d' : MemoryDocument} {n old : NodeId}
    (lost : Lost [n] K d d') (linked : Linked d)
    (parent : d.parent? n = some old) {m : NodeId} (hm : K m) :
    d'.node? m =
      (d.node? m).map (regrouped fun cs => if m = old then cs.filter (· ≠ n) else cs) := by
  rw [lost m hm]
  refine map_regrouped_congr ?_
  simp only [List.mem_singleton]
  split
  · rfl
  · next other =>
    refine filter_ne_of_notMem fun below => other ?_
    rw [linked, parent] at below
    exact (Option.some.inj below).symm

lemma nodes_stopped (e : Element) (d : MemoryDocument) : (stopped e d).nodes = d.nodes := by
  unfold stopped
  split <;> rfl

lemma rootProperties_stopped (e : Element) (d : MemoryDocument) :
    (stopped e d).rootProperties = d.rootProperties := by
  unfold stopped
  split <;> rfl

/-- An element let go of its sampler and of its size, and then its nodes went back. -/
structure Dropped {κ : Type} (K : NodeId → Prop) (e : Element) (s : Scene) (h : MemoryHost κ)
    (s' : Scene) (h' : MemoryHost κ) :
    Prop where
  scene : ∃ pools, s' = { s with pools }
  records : Lost (e.nodes.map (·.id)) K h.document h'.document
  observed : ∀ m, K m → (m.index ∈ h'.document.observed ↔ m.index ∈ h.document.observed)
  document : ∃ nodes observed focused,
    h' = { h with document := { stopped e h.document with nodes, observed, focused } }

lemma AtHand.release_returns {s : Scene}
    (hand : AtHand base mount s.toStage elements e h.document) :
    Yields (Scene.release e) s h fun _ s' h' =>
      Dropped (Known base (stageNodes s.toStage ++ elementNodes elements)) e s h s' h' := by
  let K := Known base (stageNodes s.toStage ++ elementNodes elements)
  have handed {h₁ : MemoryHost κ} {observed : Std.ExtTreeSet Nat}
      (eq : h₁ = { h with document := { stopped e h.document with observed } })
      (kept : ∀ m, K m → (m.index ∈ observed ↔ m.index ∈ h.document.observed)) :
      Yields (Scene.onPools (Proofs.handBack e)) s h₁ fun _ s' h' => Dropped K e s h s' h' := by
    have nodes : h₁.document.nodes = h.document.nodes := eq ▸ nodes_stopped e h.document
    refine (ends_onStage _ _ _).2 ((ends_onPools _ _ _).2 ((hand.handBack_returns nodes).ends ?_))
    subst eq
    rintro _ pools h' back
    refine ⟨⟨pools, rfl⟩, fun m hm => ?_, fun m hm => (back.observed m hm).trans (kept m hm), ?_⟩
    · rw [back.records m hm, node?_of_nodes nodes]
    · obtain ⟨nodes, observed', focused, eq⟩ := back.nodewise
      exact ⟨nodes, observed', focused, by rw [← eq, ← back.core]⟩
  have unheeded (m) (hm : K m) : m.index ∈ h.document.observed.erase e.leaf.id.index ↔
      m.index ∈ h.document.observed := by
    have other : m ≠ e.leaf.id := hand.owned.strange List.mem_cons_self hm
    have index : e.leaf.id.index ≠ m.index := fun same => other (congrArg NodeId.mk same.symm)
    rw [Std.ExtTreeSet.mem_erase, compare_eq_iff_eq.ne]
    exact and_iff_right index
  unfold Scene.release
  cases e.observed with
  | false =>
    refine (ends_bind _ _ _).2 ?_
    cases hs : e.scroll with
    | none => exact handed (by rw [stopped, hs]) fun _ _ => Iff.rfl
    | some region => exact (ends_ask _ _).2 (handed (by rw [stopped, hs]; rfl) fun _ _ => Iff.rfl)
  | true =>
    refine (ends_bind _ _ _).2 ((ends_ask _ _).2 ((ends_bind _ _ _).2 ?_))
    cases hs : e.scroll with
    | none => exact handed (by rw [stopped, hs]) unheeded
    | some region => exact (ends_ask _ _).2 (handed (by rw [stopped, hs]; rfl) unheeded)

theorem Sound.delete_alone (sound : Sound base mount s h) (widget : Widget) (id : UInt32) :
    Ends (Scene.delete widget id) s h (fun _ s' h' => ∃ e, s.elements[id]? = some e ∧
      Deleted base id e s h s' h')
      (fun _ _ _ => True) (fun _ => True) := by
  unfold Scene.delete
  refine (ends_bind _ _ _).2
    ((ends_lookup s h id widget).mono ?_ (fun _ _ _ _ => trivial) fun _ => False.elim)
  rintro e s₁ h₁ ⟨rfl, rfl, found, kind⟩
  have hand := sound.pick found
  have linked := hand.stage.owned.linked
  obtain ⟨parent, ns, chain⟩ := sound.placed id e found
  obtain ⟨old, _, _, place⟩ := chain.head
  rw [place] at parent
  refine (ends_bind _ _ _).2 ((ends_modify _ _).2 ?_)
  refine (AtHand.release_returns (s := { s₁ with elements := s₁.elements.erase id }) hand).ends ?_
  rintro _ _ h₂ ⟨⟨pools, rfl⟩, left, heeded, document⟩
  let K := Known base (stageNodes s₁.toStage ++ elementNodes (s₁.elements.erase id))
  -- Only the leaf hangs from a node that is known to others.
  have only : Lost [e.leaf.id] K h₁.document h₂.document := by
    refine left.single linked List.mem_cons_self fun c hc other m hm above => ?_
    have below : c ∈ e.fittings.map (·.id) := (List.mem_cons.1 hc).resolve_left other
    exact hand.owned.strange ((hand.family c m above).2 below) hm rfl
  have others {m : NodeId} (hm : m ∈ (elementNodes (s₁.elements.erase id)).map (·.id)) :
      K m := .behind (.inr hm) _
  refine ⟨e, found,
    .of_kept (fun j other => ?_) (fun m hm => ?_) (fun m hm => heeded m (others hm)), ⟨pools, rfl⟩,
    ⟨old, place, fun m hm => ⟨only.from_place linked parent (hm.beside _), heeded m (hm.beside _)⟩⟩,
    document⟩
  · rw [Std.ExtTreeMap.getElem?_erase, if_neg]
    exact fun eq => other (Std.LawfulEqCmp.eq_of_compare eq).symm
  · have untied :
        Kept (· ∈ (elementNodes (s₁.elements.erase id)).map (·.id)) h₁.document h₂.document := by
      refine only.kept linked fun m hm => ⟨others hm, fun c hc above => ?_⟩
      obtain rfl := List.mem_singleton.1 hc
      rw [parent] at above
      obtain rfl := Option.some.inj above
      exact sound.stage.apart (others_of_erase hm) (.inr (target?_mem place))
    exact untied m hm

/-! ### Moving -/

/-- The leaf of the element at hand was put last below a node of a stage that has grown. -/
lemma AtHand.moved {s' : Stage} {layer : Nat} {needed : UInt32 → Prop} {d d₁ : MemoryDocument}
    {old place : NodeId} (hand : AtHand base mount stage elements e d)
    (grew : Grew base mount (e.nodes ++ elementNodes elements) layer needed stage d s' d₁)
    (parent : d.parent? e.leaf.id = some old) (oldPlace : Known base (stageNodes stage) old)
    (newPlace : place ∈ (stageNodes s').map (·.id)) :
    (∀ m ∈ (elementNodes elements).map (·.id), (d₁.append place e.leaf.id).node? m = d.node? m) ∧
    (∃ before, (d₁.append place e.leaf.id).children place = before ++ [e.leaf.id]) ∧
    ∀ m, Known base (stageNodes stage) m → ∃ new,
      (d₁.append place e.leaf.id).node? m = (d.node? m).map (regrouped fun cs =>
        (if m = old then cs.filter (· ≠ e.leaf.id) else cs) ++ new ++ if m =
          place then [e.leaf.id] else []) ∧
      ∀ c ∈ new, c ∈ (stageNodes s').map (·.id) ∧ c ∉ (stageNodes stage).map (·.id) := by
  have st := hand.stage
  have st₁ := grew.1.standing
  have linked := st₁.owned.linked
  have leaf : e.leaf.id ∈ (e.nodes ++ elementNodes elements).map (·.id) := List.mem_cons_self
  have parent₁ : d₁.parent? e.leaf.id = some old :=
    (grew.1.kept _ (known_of_others leaf)).trans parent
  refine ⟨fun m hm => ?_, ?_, fun m hm => ?_⟩
  · have held : m ∈ (e.nodes ++ elementNodes elements).map (·.id) := by
      rw [List.map_append]
      exact List.mem_append_right _ hm
    have absent : e.leaf.id ∉ d₁.children m := by
      rw [linked, parent₁]
      rintro ⟨rfl⟩
      exact st.apart held oldPlace
    have other : m ≠ e.leaf.id := fun same => st.notMem_others hm (same ▸ List.mem_cons_self)
    have elsewhere : m ≠ place := by
      rintro rfl
      exact st₁.apart held (.inr newPlace)
    rw [node?_append_of_absent linked absent other, if_neg elsewhere, grew.records_of_others held]
    simp only [List.append_nil, map_regrouped_id]
  · rw [children_append linked (st₁.owned.issued_of_known (.beside (.inr newPlace) _)), if_pos rfl]
    exact ⟨_, rfl⟩
  · obtain ⟨new, eq, strange⟩ := grew.records_of_stage st (hm.beside _)
    have other : m ≠ e.leaf.id := by
      rintro rfl
      exact st.apart leaf hm
    have absent : e.leaf.id ∉ new := fun hc => (strange _ hc).1 (known_of_others leaf)
    refine ⟨new, ?_, fun c hc =>
      ⟨(strange c hc).2, fun inside => (strange c hc).1 (.beside (.inr inside) _)⟩⟩
    rw [node?_append linked, eq]
    have spared : (d.children m).filter (· ≠ e.leaf.id) =
        if m = old then (d.children m).filter (· ≠ e.leaf.id) else d.children m := by
      split
      · rfl
      · next away =>
        refine filter_ne_of_notMem fun below => away ?_
        rw [st.owned.linked, parent] at below
        exact (Option.some.inj below).symm
    refine Eq.trans ?_ (map_regrouped_congr (f := fun cs =>
      (cs ++ new).filter (· ≠ e.leaf.id) ++ if m = place then [e.leaf.id] else []) ?_)
    · cases d.node? m with
      | none => rfl
      | some node => simp only [Option.map_some, regrouped, if_neg other]
    · rw [← spared, List.filter_append, filter_ne_of_notMem absent]

theorem Sound.restack_alone (sound : Sound base mount s h) (id layer depth : UInt32) :
    Ends (Scene.restack id layer depth) s h
      (fun _ s' h' => ∃ e, s.elements[id]? = some e ∧ Restacked base id e layer s h s' h')
      (fun _ _ _ => True) (fun _ => True) := by
  unfold Scene.restack
  refine (ends_bind _ _ _).2 ((ends_get _).2 ?_)
  cases found : s.elements[id]? with
  | none => trivial
  | some e =>
    have hand := sound.pick found
    obtain ⟨parent, ns, chain⟩ := sound.placed id e found
    obtain ⟨old, _, _, oldPlace⟩ := chain.head
    rw [oldPlace] at parent
    have listed : e.leaf.id ∈ (e.nodes ++ elementNodes (s.elements.erase id)).map (·.id) :=
      List.mem_cons_self
    refine (ends_bind _ _ _).2 ((ends_onStage _ _ _).2 (((hand.place layer).and
      (hand.stage.addElement_supplies listed e.frame)).mono ?_ (fun _ _ _ _ => trivial)
        fun _ _ => trivial))
    rintro _ s₁ h₁ ⟨⟨hand₁, _⟩, size, place, d₁, newPlace, grew, doc₁⟩
    obtain ⟨others, last, fixtures⟩ :=
      hand.moved grew parent (.inr (target?_mem oldPlace)) (target?_mem newPlace)
    rw [← doc₁] at others last fixtures
    refine (ends_bind _ _ _).2 ((ends_get _).2 ?_)
    dsimp only
    cases Scene.tabIndex? s.config depth with
    | none => trivial
    | some tab =>
      refine (ends_bind _ _ _).2 ((ends_modify _ _).2 ?_)
      let K := Known base (stageNodes s₁ ++ elementNodes (s.elements.erase id))
      have strange {n : NodeId} (hn : n ∈ e.nodes.map (·.id)) (known : K n) : False :=
        hand₁.owned.strange hn known rfl
      have bare : Groomed base s₁.pools _ K h₁.document h₁.document :=
        ⟨⟨hand₁.owned, fun _ => rfl⟩, .refl, _, rfl⟩
      have leaf : e.leaf.id ∈ e.nodes.map (·.id) := List.mem_cons_self
      refine bare.write (mem_held leaf) (strange leaf) (.style "z-index" (toString depth)) rfl
        (fun _ => ⟨_, rfl⟩) fun h₂ groomed _ _ => ?_
      refine (groomed.writeAll (.attr "tabindex" (toString tab)) rfl (fun _ _ => ⟨_, rfl⟩) _
        fun n hn => ?_).ends ?_
      · have own : n ∈ e.nodes := List.mem_cons_of_mem _ (List.mem_of_mem_filter hn)
        exact ⟨List.mem_append_left _ own, strange (List.mem_map_of_mem own)⟩
      rintro _ _ h₃ ⟨rfl, done⟩
      have whole : ∃ nodes, h₃.document = { h.document with nodes } := by
        obtain ⟨nodes, eq⟩ := grew.2.document
        obtain ⟨nodes', eq', _⟩ := exists_append (d := d₁) (p := place) (c := e.leaf.id)
        obtain ⟨nodes'', eq''⟩ := done.document
        exact ⟨nodes'', by rw [eq'', doc₁, eq', eq]⟩
      have beside {m : NodeId} (hm : m ∈ (elementNodes (s.elements.erase id)).map (·.id)) :
          K m := .behind (.inr hm) _
      have staged {m : NodeId} (hm : Known base (stageNodes s.toStage) m) : K m :=
        grew.1.ext.known (hm.beside _)
      refine ⟨e, rfl, .of_kept (fun j other => getElem?_insert_of_ne other) (fun m hm => ?_)
        (fun m _ => ?_), ⟨tab, s₁, rfl⟩,
        ⟨grew.1.ext, grew.1.containers, size⟩, ?_,
        ⟨old, place, oldPlace, newPlace, ?_, fun m hm => ?_⟩, whole⟩
      · rw [done.kept m (beside hm), others m hm]
      · obtain ⟨nodes, eq⟩ := whole
        rw [eq]
      · refine fun i l' f node hl' hn =>
          (grew.2.frames i l' f node hl' hn).imp_right fun ⟨here, needed, refers⟩ =>
            ⟨here, needed, ?_⟩
        have known : Known base (stageNodes s₁) node.id :=
          known_of_stage (mem_stageNodes.2 ⟨i, l', hl', mem_layerNodes.2 (.inr (.inr ⟨f, hn⟩))⟩)
        have hung : Refers h₁.document node.id f := by
          rw [doc₁]
          exact refers.of_map (node?_append grew.1.standing.owned.linked) fun _ => rfl
        exact hung.of_map (f := fun node => node)
          (by rw [done.kept node.id (known.beside _), Option.map_id']) fun _ => rfl
      · obtain ⟨before, eq⟩ := last
        refine ⟨before, ?_⟩
        rw [← eq]
        unfold children
        rw [done.kept place (.beside (.inr (target?_mem newPlace)) _)]
      · rw [done.kept m (staged hm)]
        exact fixtures m hm

end Patches

section Outcomes

variable {κ σ α : Type} [Core κ] {act : Work σ α} {s s' : σ} {h h' : MemoryHost κ} {a : α}
  {post : α → σ → MemoryHost κ → Prop}
  {refused : PatchError → σ → MemoryHost κ → Prop} {breach : Breach → Prop}

/-- What is said of every accepted run holds of one that was seen. -/
lemma Ends.seen (run : Ends act s h post refused breach)
    (seen : MemoryHost.patch act s h = .ok ((.ok a, s'), h')) :
    post a s' h' := by
  unfold Ends at run
  rwa [seen] at run

lemma Yields.exists_seen (run : Yields act s h post) :
    ∃ a s' h', MemoryHost.patch act s h = .ok ((.ok a, s'), h') := by
  unfold Yields Ends at run
  split at run
  · next a s' h' seen => exact ⟨a, s', h', seen⟩
  · exact run.elim
  · exact run.elim

end Outcomes

section Results

variable {κ : Type} [Core κ] {mount : NodeId} {config : Config} {h₀ h : MemoryHost κ} {s : Scene}

/-- In every scene of a session, accepted patches to one element leave the others as they are. -/
theorem bystanders_of_session (reached : Reached h₀.document) (there : h₀.document.issued mount)
    (session : Session mount config h₀ s h) :
    (∀ id change s' h', MemoryHost.patch (Scene.apply (.update id change)) s h =
      .ok ((.ok (), s'), h') →
      Updated h₀.document.nodes.size id s h s' h') ∧
    (∀ widget id s' h', MemoryHost.patch (Scene.apply (.delete widget id)) s h =
      .ok ((.ok (), s'), h') →
      ∃ e, s.elements[id]? = some e ∧ Deleted h₀.document.nodes.size id e s h s' h') ∧
    ∀ id layer depth s' h', MemoryHost.patch (Scene.apply (.restack id layer depth)) s h =
      .ok ((.ok (), s'), h') →
      ∃ e, s.elements[id]? = some e ∧ Restacked h₀.document.nodes.size id e layer s h s' h' := by
  have sound := session.sound reached.tidy.linked there
  refine ⟨fun id change s' h' seen => ?_, fun widget id s' h' seen => ?_,
    fun id layer depth s' h' seen => ?_⟩
  · exact (sound.update_alone id change).seen seen
  · exact (sound.delete_alone widget id).seen seen
  · exact (sound.restack_alone id layer depth).seen seen

/-- A dropdown beside a button in the same frame gets options, is moved to a layer that is new, and
is deleted. -/
theorem bystanders_of_a_dropdown :
    ∃ (s : Scene) (h : MemoryHost Recorder), Session ⟨0⟩ .standard blankPage s h ∧
    (s.elements[(7 : UInt32)]?).map Element.widget = some .button ∧
    (∃ s' h', Updated 1 8 s h s' h') ∧ (∃ e s' h', Restacked 1 8 e 2 s h s' h') ∧ ∃ e s' h',
    Deleted 1 8 e s h s' h' := by
  have run :
      (rehearsed ⟨0⟩ .standard blankPage [.patch (.createFrame ⟨5, none, 0⟩),
        .patch (.create .button ⟨7, some 5, 0⟩), .patch (.create .dropdown ⟨8, some 5, 0⟩)]).map
        (fun s =>
          ((s.elements[(7 : UInt32)]?).map Element.widget,
            (s.elements[(8 : UInt32)]?).map Element.widget,
            (Scene.tabIndex? s.config 3).isSome)) =
            some (some .button, some .dropdown, true) := by decide +kernel
  obtain ⟨s, start, facts⟩ := Option.map_eq_some_iff.1 run
  obtain ⟨button, dropdown, inRange⟩ :
      (s.elements[(7 : UInt32)]?).map Element.widget = some .button ∧
        (s.elements[(8 : UInt32)]?).map Element.widget = some .dropdown ∧
        (Scene.tabIndex? s.config 3).isSome = true := by
    simpa using facts
  obtain ⟨e, found, kind⟩ := Option.map_eq_some_iff.1 dropdown
  obtain ⟨h, session⟩ := exists_session start
  have sound := session.sound reached_blankPage.tidy.linked rfl
  have there {why : PatchError} (missing : Missing s.elements 8 .dropdown why) : False := by
    rcases missing with ⟨none_there, _⟩ | ⟨x, found', other, _⟩
    · rw [found] at none_there
      cases none_there
    · rw [found] at found'
      cases found'
      exact other kind
  obtain ⟨updated, deleted, restacked⟩ := bystanders_of_session reached_blankPage rfl session
  let change : Change :=
    .dropdown ⟨⟨none, none, none⟩, some ["one", "two"], some 1, none, none, none, none, none⟩
  have updates : Yields (Scene.apply (.update 8 change)) s h fun _ _ _ => True :=
    (sound.update 8 change).mono (fun _ _ _ _ => trivial) (fun _ _ _ no => there no.2.2) fun _ =>
      False.elim
  have restacks : Yields (Scene.apply (.restack 8 2 3)) s h fun _ _ _ => True := by
    refine (sound.restack 8 2 3).mono (fun _ _ _ _ => trivial) (fun _ _ _ no => ?_) fun _ no => ?_
    · simp [found] at no
    · simp [no.2] at inRange
  have deletes : Yields (Scene.apply (.delete .dropdown 8)) s h fun _ _ _ => True :=
    (sound.delete .dropdown 8).mono (fun _ _ _ _ => trivial) (fun _ _ _ no => there no.2.2) fun _ =>
      False.elim
  obtain ⟨_, s₁, h₁, seen₁⟩ := updates.exists_seen
  obtain ⟨_, s₂, h₂, seen₂⟩ := restacks.exists_seen
  obtain ⟨_, s₃, h₃, seen₃⟩ := deletes.exists_seen
  obtain ⟨x, _, moved⟩ := restacked 8 2 3 s₂ h₂ seen₂
  obtain ⟨y, _, gone⟩ := deleted .dropdown 8 s₃ h₃ seen₃
  exact ⟨s, h, session, button, ⟨s₁, h₁, updated 8 change s₁ h₁ seen₁⟩,
    ⟨x, s₂, h₂, moved⟩, y, s₃, h₃, gone⟩

end Results

end LayeredPage.Proofs
