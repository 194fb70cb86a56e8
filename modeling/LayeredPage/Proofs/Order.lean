import LayeredPage.Proofs.Containers
import LayeredPage.Proofs.Workbench

/-!
# A scene in order

The stage stands, every element hangs where its records say, and what is below an element is its
own. While an element is built, changed or moved it is at hand, apart from the table of the others.
-/

namespace LayeredPage.Proofs

open MemoryDocument

/-- An element hangs from its container on its layer. -/
def Placed (s : Stage) (e : Element) (d : MemoryDocument) : Prop :=
  d.parent? e.leaf.id = target? s e.layer.toNat e.frame ∧ ∃ ns, Chain s e.layer.toNat e.frame ns

/-- The stage stands with these elements on it. -/
structure InOrder (base : Nat) (mount : NodeId) (s : Stage)
    (elements : Std.ExtTreeMap UInt32 Element) (d : MemoryDocument) : Prop where
  stage : Standing base mount (elementNodes elements) s d
  placed : ∀ (id : UInt32) (e : Element), elements[id]? = some e → Placed s e d
  families : ∀ (id : UInt32) (e : Element), elements[id]? = some e → Family e d

/-- The same, while one more element is at hand. -/
structure AtHand (base : Nat) (mount : NodeId) (s : Stage)
    (elements : Std.ExtTreeMap UInt32 Element) (e : Element) (d : MemoryDocument) : Prop where
  stage : Standing base mount (e.nodes ++ elementNodes elements) s d
  placed : ∀ (id : UInt32) (e : Element), elements[id]? = some e → Placed s e d
  families : ∀ (id : UInt32) (e : Element), elements[id]? = some e → Family e d
  family : Family e d

section Families

variable {base : Nat} {mount : NodeId} {others : List OwnedNode} {s : Stage}
  {d d' : MemoryDocument} {e : Element}

/-- A family stays together as long as no other node moves below it. -/
lemma Family.stay (family : Family e d) (st : Standing base mount others s d')
    (own : ∀ n ∈ e.nodes, n ∈ others) (kept : ∀ n ∈ others.map (·.id), d'.parent? n = d.parent? n ∨
      n ∉ e.fittings.map (·.id) ∧ ∀ p, d'.parent? n = some p →
        p ∉ e.nodes.map (·.id)) : Family e d' := by
  intro n p parent
  have held {m : NodeId} (hm : m ∈ e.nodes.map (·.id)) : m ∈ others.map (·.id) := by
    obtain ⟨node, inside, rfl⟩ := List.mem_map.1 hm
    exact List.mem_map_of_mem (own node inside)
  by_cases ours : n ∈ others.map (·.id)
  · rcases kept n ours with same | ⟨not_below, not_above⟩
    · rw [same] at parent
      exact family n p parent
    · exact iff_of_false (not_above p parent) not_below
  · refine iff_of_false (fun above => ours (st.below_others parent (held above)))
      fun below => ours (held ?_)
    exact List.mem_cons_of_mem _ below

/-- Families of other elements do not notice what happens to the fittings of one. -/
lemma Standing.disjoint {elements : Std.ExtTreeMap UInt32 Element} {id : UInt32} {e' : Element}
    (st : Standing base mount (e.nodes ++ elementNodes elements) s d)
    (he : elements[id]? = some e') {n : NodeId}
    (hn : n ∈ e.nodes.map (·.id)) : n ∉ e'.nodes.map (·.id) := by
  intro inside
  obtain ⟨m, hm, rfl⟩ := List.mem_map.1 inside
  have other : m.id ∈ (elementNodes elements).map (·.id) :=
    List.mem_map_of_mem (mem_elementNodes.2 ⟨id, e', he, hm⟩)
  have distinct := st.owned.nodup
  rw [List.map_append, List.nodup_append, List.map_append, List.nodup_append,
    List.map_append, List.nodup_append]
    at distinct
  exact distinct.2.1.2.1.2.2 _ hn _ other rfl

end Families

section Elements

variable {κ : Type} [Core κ] {base : Nat} {mount : NodeId} {s : Stage}
  {elements : Std.ExtTreeMap UInt32 Element} {id : UInt32}
  {e : Element} {d d' : MemoryDocument} {h : MemoryHost κ}

lemma getElem?_table_insert {j : UInt32} {e' : Element}
    (found : (elements.insert id e)[j]? = some e') :
    j = id ∧ e' = e ∨ j ≠ id ∧ elements[j]? = some e' := by
  rw [getElem?_insert_eq] at found
  split at found
  · next here =>
    cases found
    exact .inl ⟨here, rfl⟩
  · next other => exact .inr ⟨other, found⟩

/-- An element is taken from the table. -/
lemma InOrder.pick (order : InOrder base mount s elements d) (he : elements[id]? = some e) :
    AtHand base mount s (elements.erase id) e d :=
  ⟨order.stage.perm (elementNodes_erase he), fun j e' he' =>
    order.placed j e' (getElem?_erase_iff.1 he').2,
    fun j e' he' => order.families j e' (getElem?_erase_iff.1 he').2, order.families id e he⟩

/-- An element is entered in the table, where it was or under a new id. -/
lemma AtHand.enter (hand : AtHand base mount s (elements.erase id) e d) (place : Placed s e d) :
    InOrder base mount s (elements.insert id e) d := by
  refine ⟨hand.stage.perm elementNodes_insert.symm, fun j e' he' => ?_, fun j e' he' => ?_⟩
  · rcases getElem?_table_insert he' with ⟨rfl, rfl⟩ | ⟨other, he'⟩
    · exact place
    · exact hand.placed j e' (getElem?_erase_iff.2 ⟨other, he'⟩)
  · rcases getElem?_table_insert he' with ⟨rfl, rfl⟩ | ⟨other, he'⟩
    · exact hand.family
    · exact hand.families j e' (getElem?_erase_iff.2 ⟨other, he'⟩)

/-- Elements stay placed on a stage that extends theirs if they keep their parents. -/
lemma Placed.mono {s' : Stage} (place : Placed s e d) (ext : Extends s s')
    (kept : d'.parent? e.leaf.id = d.parent? e.leaf.id) : Placed s' e d' := by
  obtain ⟨parent, ns, chain⟩ := place
  obtain ⟨t, _, _, ht⟩ := chain.head
  exact ⟨by rw [kept, parent, ht, ext.target? ht], ns, chain.mono ext⟩

lemma AtHand.owned (hand : AtHand base mount s elements e d) :
    Owned base s.pools (e.nodes ++ (stageNodes s ++ elementNodes elements)) d :=
  hand.stage.owned.perm (List.perm_append_comm_assoc ..)

/-- The element at hand may be put on the bench. -/
lemma AtHand.atWork (hand : AtHand base mount s elements e d) (fonts : FontCache) :
    AtWork base (stageNodes s ++ elementNodes elements) e d ⟨s.pools, fonts, e⟩ d :=
  ⟨hand.owned, rfl, rfl, rfl, rfl, hand.family, fun _ _ => rfl⟩

/-- Work on the element at hand changes nothing for the others, and does not move it. -/
theorem AtHand.carryOut {α : Type}
    (hand : AtHand base mount s elements e h.document) (fonts : FontCache) (craft : Craft α) :
    Ends (Bench.carryOut craft) ⟨s.pools, fonts, e⟩ h
      (fun _ b h' => AtHand base mount { s with pools := b.pools } elements b.element h'.document ∧
        (Placed s e h.document → Placed { s with pools := b.pools } b.element h'.document) ∧
        b.element.widget = e.widget ∧ b.element.leaf = e.leaf ∧ b.element.frame = e.frame ∧
        b.element.layer = e.layer)
      (fun _ _ _ => False) (fun _ => ¬ Uses (fun _ => True) craft) := by
  refine ((hand.atWork fonts).carryOut craft).mono ?_ (fun _ _ _ => False.elim)
    (fun _ broken => broken)
  intro _ b h' done
  have stage_kept (m) (hm : Known base (stageNodes s) m) :
      h'.document.parent? m = h.document.parent? m := by
    refine done.settled m (hm.imp_right fun inside => .inr ?_)
    rw [List.map_append]
    exact List.mem_append_left _ inside
  have others_kept (m) (hm : m ∈ (elementNodes elements).map (·.id)) :
      h'.document.parent? m = h.document.parent? m := by
    refine done.settled m (.inr (.inr ?_))
    rw [List.map_append]
    exact List.mem_append_right _ hm
  have leaf_kept := done.settled e.leaf.id (.inr (.inl rfl))
  have ext := extends_withPools s b.pools
  have st := hand.stage.exchange (done.owned.perm (List.perm_append_comm_assoc ..)) stage_kept
  refine ⟨⟨st, fun id e' he' => ?_, fun id e' he' => ?_, done.family⟩, fun place => ?_, done.widget,
    done.leaf, done.frame, done.layer⟩
  · refine (hand.placed id e' he').mono ext (others_kept _ (List.mem_map_of_mem ?_))
    exact mem_elementNodes.2 ⟨id, e', he', List.mem_cons_self⟩
  · refine (hand.families id e' he').stay st ?_ ?_
    · exact fun n hn => List.mem_append_right _ (mem_elementNodes.2 ⟨id, e', he', hn⟩)
    · intro n hn
      rw [List.map_append, List.mem_append] at hn
      rcases hn with own | other
      · by_cases leaf : n = e.leaf.id
        · exact .inl (leaf ▸ leaf_kept)
        · refine .inr ⟨fun below => st.disjoint he' own (List.mem_cons_of_mem _ below),
            fun p parent above => ?_⟩
          have fitting : n ∈ b.element.fittings.map (·.id) := by
            refine (List.mem_cons.1 own).resolve_left ?_
            rwa [done.leaf]
          exact st.disjoint he' ((done.family n p parent).2 fitting) above
      · exact .inl (others_kept n other)
  · obtain ⟨parent, ns, chain⟩ := Placed.mono place ext leaf_kept
    refine ⟨?_, ns, ?_⟩
    · rw [done.leaf, done.layer, done.frame]
      exact parent
    · rw [done.layer, done.frame]
      exact chain

/-- An element that was just begun is at hand. -/
lemma InOrder.begin (order : InOrder base mount s elements d) {ps : NodePools}
    {leaf : OwnedNode} {widget : Widget}
    {c : Creation} (owned : Owned base ps (leaf :: (stageNodes s ++ elementNodes elements)) d')
    (parents : ∀ m, d'.parent? m = d.parent? m) (childless : ∀ m, d'.parent? m ≠ some leaf.id) :
    AtHand base mount { s with pools := ps } elements (.start widget leaf c) d' := by
  have st : Standing base mount ([leaf] ++ elementNodes elements) { s with pools := ps } d' :=
    order.stage.exchange (owned.perm List.perm_middle.symm) fun m _ => parents m
  refine ⟨st, fun id e' he' => ?_, fun id e' he' => ?_, fun m p parent => ?_⟩
  · exact (order.placed id e' he').mono (extends_withPools s ps) (parents _)
  · refine (order.families id e' he').stay st ?_ fun n _ => .inl (parents n)
    exact fun n hn => List.mem_append_right _ (mem_elementNodes.2 ⟨id, e', he', hn⟩)
  · have apart : p ≠ leaf.id := fun same => childless m (same ▸ parent)
    simp [Element.start, Element.nodes, Element.fittings, apart]

/-- Elements follow their stage as long as they keep their parents. -/
lemma InOrder.restage {s' : Stage} (order : InOrder base mount s elements d)
    (st : Standing base mount (elementNodes elements) s' d')
    (kept : ∀ n ∈ (elementNodes elements).map (·.id), d'.parent? n = d.parent? n)
    (placed : ∀ (id : UInt32) (e : Element), elements[id]? = some e →
      Placed s e d → Placed s' e d') :
    InOrder base mount s' elements d' := by
  refine ⟨st, fun id e' he' => placed id e' he' (order.placed id e' he'), fun id e' he' => ?_⟩
  exact (order.families id e' he').stay st (fun n hn => mem_elementNodes.2 ⟨id, e', he', hn⟩)
    fun n hn =>
    .inl (kept n hn)

/-- Writing to known nodes, without replacing what is inside them, changes nothing for a scene. -/
lemma InOrder.dressed (order : InOrder base mount s elements d)
    (dressed : Dressed base s.pools (stageNodes s ++ elementNodes elements) d d') :
    InOrder base mount s elements d' := by
  have st : Standing base mount _ s d' :=
    order.stage.exchange dressed.owned fun m _ => dressed.parents m
  refine order.restage st (fun n _ => dressed.parents n) fun id e _ place => ?_
  exact place.mono (Extends.refl _) (dressed.parents _)

lemma known_of_others {others : List OwnedNode} {n : NodeId} (hn : n ∈ others.map (·.id)) :
    Known base (stageNodes s ++ others) n := by
  right
  rw [List.map_append]
  exact List.mem_append_right _ hn

lemma AtHand.grown {s' : Stage} (hand : AtHand base mount s elements e d)
    (grown : Grown base mount (e.nodes ++ elementNodes elements) s d s' d') :
    AtHand base mount s' elements e d' := by
  have kept (n) (hn : n ∈ (e.nodes ++ elementNodes elements).map (·.id)) :=
    grown.kept n (known_of_others hn)
  have listed {id : UInt32} {e' : Element} (he' : elements[id]? = some e') {n : OwnedNode}
    (hn : n ∈ e'.nodes) :
      n ∈ e.nodes ++ elementNodes elements :=
    List.mem_append_right _ (mem_elementNodes.2 ⟨id, e', he', hn⟩)
  refine ⟨grown.standing, fun id e' he' => ?_, fun id e' he' => ?_, ?_⟩
  · exact (hand.placed id e' he').mono grown.ext
      (kept _ (List.mem_map_of_mem (listed he' List.mem_cons_self)))
  · exact (hand.families id e' he').stay grown.standing (fun n hn => listed he' hn)
      fun n hn => .inl (kept n hn)
  · exact hand.family.stay grown.standing (fun n hn => List.mem_append_left _ hn)
      fun n hn => .inl (kept n hn)

/-- The element at hand was hung on a layer; the others did not move. -/
lemma AtHand.hung {s' : Stage} {layer : UInt32} (hand : AtHand base mount s elements e d)
    (hung : Hung base mount (e.nodes ++ elementNodes elements) e.leaf.id e.frame
      layer.toNat s d s' d') :
    AtHand base mount s' elements e d' ∧ Placed s' { e with layer } d' := by
  obtain ⟨t, place, parent⟩ := hung.parent
  have leaf : e.leaf.id ∈ e.nodes.map (·.id) := List.mem_cons_self
  have kept (n) (hn : n ∈ (e.nodes ++ elementNodes elements).map (·.id)) (other : n ≠ e.leaf.id) :=
    hung.kept n other (known_of_others hn)
  have listed {id : UInt32} {e' : Element} (he' : elements[id]? = some e') {n : OwnedNode}
    (hn : n ∈ e'.nodes) :
      n ∈ e.nodes ++ elementNodes elements :=
    List.mem_append_right _ (mem_elementNodes.2 ⟨id, e', he', hn⟩)
  -- The leaf hangs from the stage now, which is above no element.
  have stay {f : Element} (family : Family f d)
    (own : ∀ n ∈ f.nodes, n ∈ e.nodes ++ elementNodes elements)
    (not_below : e.leaf.id ∉ f.fittings.map (·.id)) : Family f d' := by
    refine family.stay hung.standing own fun n hn => ?_
    by_cases same : n = e.leaf.id
    · refine .inr ⟨same ▸ not_below, fun p hp above => ?_⟩
      rw [same, parent] at hp
      cases hp
      obtain ⟨m, hm, eq⟩ := List.mem_map.1 above
      exact hung.standing.apart (List.mem_map_of_mem (own m hm)) (.inr (eq ▸ target?_mem place))
    · exact .inl (kept n hn same)
  refine ⟨⟨hung.standing, fun id e' he' => ?_, fun id e' he' => ?_, ?_⟩, ?_, hung.chain⟩
  · refine (hand.placed id e' he').mono hung.ext
      (kept _ (List.mem_map_of_mem (listed he' List.mem_cons_self)) ?_)
    intro same
    exact hand.stage.disjoint he' leaf (same ▸ List.mem_cons_self)
  · exact stay (hand.families id e' he') (fun n hn => listed he' hn) fun below =>
      hand.stage.disjoint he' leaf (List.mem_cons_of_mem _ below)
  · refine stay hand.family (fun n hn => List.mem_append_left _ hn) ?_
    exact notMem_fittings hand.owned (.inr (.inl rfl))
  · rw [parent, place]

/-- The element at hand is hung on a layer, unless the containers above it lead nowhere. -/
theorem AtHand.place (hand : AtHand base mount s elements e h.document) (layer : UInt32) :
    Ends (Stage.addElement e.leaf.id e.frame layer) s h
      (fun _ s' h' => AtHand base mount s' elements e h'.document ∧
        Placed s' { e with layer } h'.document)
      (fun why s' h' => AtHand base mount s' elements e h'.document ∧
        (∃ id, why = .unknownContainer id) ∧
        ¬ ∃ ids, Line s.containers e.frame ids)
      (fun _ => ¬ ∃ ids, Line s.containers e.frame ids) := by
  have listed : e.leaf.id ∈ (e.nodes ++ elementNodes elements).map (·.id) := List.mem_cons_self
  refine (hand.stage.addElement listed e.frame).mono ?_ ?_ fun _ both => both.2
  · exact fun _ s' h' hung => hand.hung hung
  · exact fun why s' h' ⟨grown, unknown, lost⟩ => ⟨hand.grown grown, unknown, lost⟩

/-- The nodes of others, beside those of the element at hand. -/
lemma Standing.notMem_others (st : Standing base mount (e.nodes ++ elementNodes elements) s d)
    {n : NodeId} (hn : n ∈ (elementNodes elements).map (·.id)) : n ∉ e.nodes.map (·.id) := by
  intro own
  obtain ⟨m, hm, rfl⟩ := List.mem_map.1 hn
  obtain ⟨id, e', he', hm⟩ := mem_elementNodes.1 hm
  exact st.disjoint he' own (List.mem_map_of_mem hm)

/-- The others stay in order when the element at hand is gone with all its ties. -/
lemma AtHand.leave (hand : AtHand base mount s elements e d) {ps : NodePools}
    (owned : Owned base ps (stageNodes s ++ elementNodes elements) d')
    (parents : ∀ m p, d'.parent? m = some p ↔ d.parent? m = some p ∧ m ∉ e.nodes.map (·.id) ∧
      p ∉ e.nodes.map (·.id)) :
    InOrder base mount { s with pools := ps } elements d' := by
  have kept (m) (hm : m ∉ e.nodes.map (·.id)) : d'.parent? m = d.parent? m := by
    refine Option.ext fun p => ?_
    rw [parents]
    refine ⟨fun both => both.1, fun parent => ⟨parent, hm, fun above => hm ?_⟩⟩
    exact List.mem_cons_of_mem _ ((hand.family m p parent).1 above)
  have beside (m) (hm : m ∈ (elementNodes elements).map (·.id)) :=
    kept m (hand.stage.notMem_others hm)
  have st : Standing base mount (elementNodes elements) { s with pools := ps } d' := by
    refine hand.stage.exchange owned fun m hm => kept m fun own => hand.stage.apart ?_ hm
    rw [List.map_append]
    exact List.mem_append_left _ own
  refine ⟨st, fun id e' he' => ?_, fun id e' he' => ?_⟩
  · refine (hand.placed id e' he').mono (extends_withPools s ps) (beside _ (List.mem_map_of_mem ?_))
    exact mem_elementNodes.2 ⟨id, e', he', List.mem_cons_self⟩
  · refine (hand.families id e' he').stay st (fun n hn => mem_elementNodes.2 ⟨id, e', he', hn⟩)
      fun n hn => ?_
    exact .inl (beside n hn)

/-- All nodes of an element go back to the pools. -/
def handBack (e : Element) : Work NodePools Unit := do
  Bench.giveBack e.options
  Bench.giveBack e.parts
  Pools.put e.leaf.kind e.leaf

lemma handBack_perm (before after : List OwnedNode) :
    (before ++ (e.nodes ++ after)).Perm
      (e.options ++ (e.parts ++ (e.leaf :: (before ++ after)))) := by
  refine List.perm_iff_count.2 fun n => ?_
  simp only [Element.nodes, Element.fittings, List.count_append, List.count_cons]
  omega

lemma AtHand.handBack {s : Scene}
    (hand : AtHand base mount s.toStage elements e h.document) {h₁ : MemoryHost κ}
    (nodes : h₁.document.nodes = h.document.nodes) :
    Yields (Scene.onPools (Proofs.handBack e)) s h₁ fun _ s' h' => ∃ ps,
    s' = { s with pools := ps } ∧
      InOrder base mount { s.toStage with pools := ps } elements h'.document := by
  have o := (hand.stage.owned.of_nodes nodes).perm (handBack_perm ..)
  refine (ends_onStage _ _ _).2 ((ends_onPools _ _ _).2 ((ends_bind _ _ _).2 (o.giveBack.ends ?_)))
  rintro _ ps h₂ ⟨o₂, parents₂⟩
  refine (ends_bind _ _ _).2 (o₂.giveBack.ends ?_)
  rintro _ ps' h₃ ⟨o₃, parents₃⟩
  refine o₃.put.ends ?_
  rintro _ ps'' h₄ ⟨o₄, parents₄⟩
  refine ⟨ps'', rfl, hand.leave o₄ fun m p => ?_⟩
  rw [parents₄, parents₃, parents₂, parent?_of_nodes nodes]
  simp only [Element.nodes, Element.fittings, List.map_cons, List.map_append,
    List.mem_cons, List.mem_append]
  tauto

theorem AtHand.release {s : Scene} (hand : AtHand base mount s.toStage elements e h.document) :
    Yields (Scene.release e) s h fun _ s' h' => ∃ ps, s' = { s with pools := ps } ∧
      InOrder base mount { s.toStage with pools := ps } elements h'.document := by
  unfold Scene.release
  cases e.observed with
  | false =>
    refine (ends_bind _ _ _).2 ?_
    cases e.scroll with
    | none => exact hand.handBack rfl
    | some region => exact (ends_ask _ _).2 (hand.handBack rfl)
  | true =>
    refine (ends_bind _ _ _).2 ((ends_ask _ _).2 ((ends_bind _ _ _).2 ?_))
    cases e.scroll with
    | none => exact hand.handBack rfl
    | some region => exact (ends_ask _ _).2 (hand.handBack rfl)

end Elements

end LayeredPage.Proofs
