import LayeredPage.Proofs.Manners
import LayeredPage.Proofs.Ownership

/-!
# Work on one element

A craft reaches no node but those of its element. Whatever it asks for, every other node stays with
its holder and keeps its parent, and what hangs below the element is held by it.
-/

namespace LayeredPage.Proofs

open MemoryDocument

/-- The nodes below those of an element are its fittings. -/
def Family (e : Element) (d : MemoryDocument) : Prop :=
  ∀ n p, d.parent? n = some p → (p ∈ e.nodes.map (·.id) ↔ n ∈ e.fittings.map (·.id))

/-- An element at the bench, while `rest` is held by others. -/
structure AtWork (base : Nat) (rest : List OwnedNode) (e₀ : Element)
    (d₀ : MemoryDocument) (b : Bench) (d : MemoryDocument) : Prop where
  owned : Owned base b.pools (b.element.nodes ++ rest) d
  widget : b.element.widget = e₀.widget
  leaf : b.element.leaf = e₀.leaf
  frame : b.element.frame = e₀.frame
  layer : b.element.layer = e₀.layer
  family : Family b.element d
  settled : ∀ m, m.index < base ∨ m = e₀.leaf.id ∨ m ∈ rest.map (·.id) → d.parent? m = d₀.parent? m

section Spots

variable {e : Element} {base : Nat} {ps : NodePools} {rest : List OwnedNode} {d : MemoryDocument}

lemma exists_node (e : Element) (spot : Spot) : ∃ n ∈ e.nodes, n.id = e.node spot := by
  have leaf : e.leaf ∈ e.nodes := List.mem_cons_self
  cases spot with
  | leaf => exact ⟨e.leaf, leaf, rfl⟩
  | part i =>
    cases hi : e.parts[i]? with
    | none => exact ⟨e.leaf, leaf, by simp [Element.node, Element.part?, hi]⟩
    | some n =>
      refine ⟨n, ?_, by simp [Element.node, Element.part?, hi]⟩
      exact List.mem_cons_of_mem _ (List.mem_append_left _ (List.mem_of_getElem? hi))
  | option i =>
    cases hi : e.options[i]? with
    | none => exact ⟨e.leaf, leaf, by simp [Element.node, hi]⟩
    | some n =>
      refine ⟨n, ?_, by simp [Element.node, hi]⟩
      exact List.mem_cons_of_mem _ (List.mem_append_right _ (List.mem_of_getElem? hi))

lemma node_mem (e : Element) (spot : Spot) : e.node spot ∈ e.nodes.map (·.id) := by
  obtain ⟨n, hn, same⟩ := exists_node e spot
  exact same ▸ List.mem_map_of_mem hn

lemma mem_held {n : NodeId} {nodes : List OwnedNode} (hn : n ∈ nodes.map (·.id)) :
    n ∈ (nodes ++ rest).map (·.id) := by
  rw [List.map_append]
  exact List.mem_append_left _ hn

lemma notMem_fittings (o : Owned base ps (e.nodes ++ rest) d) {m : NodeId}
    (hm : m.index < base ∨ m = e.leaf.id ∨ m ∈ rest.map (·.id)) : m ∉ e.fittings.map (·.id) := by
  intro fitting
  have distinct := o.nodup
  rw [List.map_append, List.map_append, ← List.append_assoc, List.nodup_append] at distinct
  have own := (List.nodup_append.1 distinct.1).2.1
  rcases hm with foreign | rfl | other
  · obtain ⟨n, hn, rfl⟩ := List.mem_map.1 fitting
    have := o.base_le_of_mem (List.mem_append_left _ (List.mem_cons_of_mem _ hn))
    omega
  · exact (List.nodup_cons.1 own).1 fitting
  · exact distinct.2.2 _ (List.mem_append_right _ (List.mem_cons_of_mem _ fitting)) _ other rfl

/-- The nodes outside the element are not below it. -/
lemma Family.stranger (family : Family e d) (o : Owned base ps (e.nodes ++ rest) d) {m p : NodeId}
    (hm : m.index < base ∨ m = e.leaf.id ∨ m ∈ rest.map (·.id)) (hp : p ∈ e.nodes.map (·.id)) :
    d.parent? m ≠ some p :=
  fun parent => notMem_fittings o hm ((family m p parent).1 hp)

end Spots

section Requests

variable {κ : Type} [Core κ] {base : Nat} {rest : List OwnedNode} {e₀ : Element}
  {d₀ d : MemoryDocument} {b : Bench} {h : MemoryHost κ}

/-- Neither notes nor anything beside the nodes matters. -/
lemma AtWork.noted (work : AtWork base rest e₀ d₀ b d) {fonts : FontCache} {e : Element}
    {d' : MemoryDocument} (widget : e.widget = b.element.widget) (leaf : e.leaf = b.element.leaf)
    (parts : e.parts = b.element.parts)
    (options : e.options = b.element.options) (frame : e.frame = b.element.frame)
    (layer : e.layer = b.element.layer) (nodes : d'.nodes = d.nodes) :
    AtWork base rest e₀ d₀ { b with fonts, element := e } d' := by
  have fittings : e.fittings = b.element.fittings := by rw [Element.fittings, parts, options]; rfl
  have all : e.nodes = b.element.nodes := by rw [Element.nodes, fittings, leaf]; rfl
  refine ⟨?_, widget.trans work.widget, leaf.trans work.leaf, frame.trans work.frame,
    layer.trans work.layer, ?_, ?_⟩
  · rw [all]
    exact work.owned.of_nodes nodes
  · intro m p parent
    rw [parent?_of_nodes nodes] at parent
    rw [all, fittings]
    exact work.family m p parent
  · exact fun m hm => (parent?_of_nodes nodes).trans (work.settled m hm)

lemma AtWork.write (work : AtWork base rest e₀ d₀ b d) {n : NodeId}
    (hn : n ∈ b.element.nodes.map (·.id))
    (w : NodeWrite) : AtWork base rest e₀ d₀ b (written w n d) where
  owned := work.owned.written (.inr (mem_held hn)) w
  widget := work.widget
  leaf := work.leaf
  frame := work.frame
  layer := work.layer
  family m p parent := by
    rw [parent?_written work.owned.linked] at parent
    split at parent
    · cases parent
    · exact work.family m p parent
  settled m hm := by
    have apart := work.family.stranger work.owned (by rwa [work.leaf]) hn
    rw [parent?_written work.owned.linked, if_neg fun both => apart both.2]
    exact work.settled m hm

/-- A node that was just taken joins the element below one of its nodes. -/
lemma AtWork.adopt (work : AtWork base rest e₀ d₀ b d) {ps : NodePools} {n : OwnedNode}
    {d' : MemoryDocument} {kind : NodeKind} {p : NodeId} {e : Element}
    (o : Owned base ps (n :: (b.element.nodes ++ rest)) d')
    (blank : d'.node? n.id = some (.fresh kind)) (parents : ∀ m, d'.parent? m = d.parent? m)
    (hp : p ∈ b.element.nodes.map (·.id)) (widget : e.widget = b.element.widget)
    (leaf : e.leaf = b.element.leaf)
    (frame : e.frame = b.element.frame) (layer : e.layer = b.element.layer)
    (fittings : e.fittings.Perm (n :: b.element.fittings)) :
    AtWork base rest e₀ d₀ { b with pools := ps, element := e } (d'.append p n.id) := by
  have held : n.id ∈ (n :: (b.element.nodes ++ rest)).map (·.id) := List.mem_cons_self
  have parent_held : p ∈ (n :: (b.element.nodes ++ rest)).map (·.id) :=
    List.mem_cons_of_mem _ (mem_held hp)
  have hung (m) := parent?_append (m := m) (p := p) o.linked (o.issued_of_known (.inr held))
  have nodes : e.nodes.Perm (n :: b.element.nodes) := by
    rw [Element.nodes, leaf]
    exact (fittings.cons _).trans (.swap ..)
  have childless (m) : d'.parent? m ≠ some n.id := by
    rw [ne_eq, ← o.linked m, children_of_node? blank]
    exact List.not_mem_nil
  refine ⟨(o.append (.inr parent_held) held).perm (nodes.append_right rest).symm,
    widget.trans work.widget,
    leaf.trans work.leaf, frame.trans work.frame, layer.trans work.layer, ?_, ?_⟩
  · intro m q parent
    have above : q ∈ e.nodes.map (·.id) ↔ q = n.id ∨ q ∈ b.element.nodes.map (·.id) := by
      rw [(nodes.map _).mem_iff, List.map_cons, List.mem_cons]
    have below : m ∈ e.fittings.map (·.id) ↔ m = n.id ∨ m ∈ b.element.fittings.map (·.id) := by
      rw [(fittings.map _).mem_iff, List.map_cons, List.mem_cons]
    rw [hung] at parent
    rw [above, below]
    split at parent
    · next same =>
      cases parent
      simp [same, hp]
    · next other =>
      have apart : q ≠ n.id := fun same => childless m (same ▸ parent)
      rw [parents] at parent
      simpa [other, apart] using work.family m q parent
  · intro m hm
    rw [hung, if_neg, parents]
    · exact work.settled m hm
    · rintro rfl
      have distinct := o.nodup
      rw [List.map_append, List.nodup_append, List.map_cons, List.nodup_cons] at distinct
      rcases hm with foreign | same | other
      · have := o.base_le_of_mem List.mem_cons_self
        omega
      · refine distinct.2.1.1 ?_
        rw [same, ← work.leaf]
        exact List.mem_cons_self
      · refine distinct.2.1.1 ?_
        rw [List.map_append]
        exact List.mem_append_right _ other

/-- Nodes that go back to the pools leave the rest of the element as it was. -/
lemma AtWork.cleared (work : AtWork base rest e₀ d₀ b d) {ps : NodePools} {d' : MemoryDocument}
    (o : Owned base ps ((b.element.leaf :: b.element.parts) ++ rest) d')
    (parents : ∀ m p, d'.parent? m = some p ↔ d.parent? m = some p ∧
      m ∉ b.element.options.map (·.id) ∧
      p ∉ b.element.options.map (·.id)) :
    AtWork base rest e₀ d₀
      { b with pools := ps, element := { b.element with options := [] } } d' := by
  have above (p) : p ∈ b.element.nodes.map (·.id) ↔
      p ∈ (b.element.leaf :: b.element.parts).map (·.id) ∨ p ∈ b.element.options.map (·.id) := by
    rw [Element.nodes, Element.fittings, ← List.cons_append, List.map_append, List.mem_append]
  have below (m) : m ∈ b.element.fittings.map (·.id) ↔
      m ∈ b.element.parts.map (·.id) ∨ m ∈ b.element.options.map (·.id) := by
    rw [Element.fittings, List.map_append, List.mem_append]
  have shrunk :
      Element.nodes { b.element with options := [] } = b.element.leaf :: b.element.parts := by
    simp [Element.nodes, Element.fittings]
  refine ⟨by rwa [shrunk], work.widget, work.leaf, work.frame, work.layer, ?_, ?_⟩
  · intro m p parent
    obtain ⟨before, hm, hp⟩ := (parents m p).1 parent
    have family := work.family m p before
    rw [above, below] at family
    rw [shrunk, Element.fittings, List.append_nil]
    simpa [hm, hp] using family
  · intro m hm
    have apart : m ∉ b.element.options.map (·.id) := fun inside =>
      notMem_fittings work.owned (by rwa [work.leaf]) ((below m).2 (.inr inside))
    refine Option.ext fun p => ?_
    rw [parents, work.settled m hm]
    refine ⟨fun kept => kept.1, fun kept => ⟨kept, apart, fun inside => ?_⟩⟩
    refine work.family.stranger work.owned (by rwa [work.leaf]) ((above p).2 (.inr inside)) ?_
    rw [work.settled m hm, kept]

/-- A face may be loaded, and that is all. -/
lemma register_yields (font : Font) (fonts : FontCache) :
    Yields (FontCache.register font) fonts h fun _ _ h' => ∃ faces,
    h'.document = { h.document with faces } := by
  unfold FontCache.register
  cases font.face? with
  | none => exact ⟨_, rfl⟩
  | some face =>
    refine (ends_bind _ _ _).2 ((ends_get _).2 ?_)
    by_cases loaded : face ∈ fonts.faces
    · rw [if_pos loaded]
      exact ⟨_, rfl⟩
    · rw [if_neg loaded]
      exact ⟨_, rfl⟩

theorem AtWork.perform (work : AtWork base rest e₀ d₀ b h.document) (r : BenchRequest) :
    Yields (Bench.perform r) b h fun _ b' h' => AtWork base rest e₀ d₀ b' h'.document := by
  have issued {n : NodeId} (hn : n ∈ b.element.nodes.map (·.id)) : h.document.issued n :=
    work.owned.issued_of_known (.inr (mem_held hn))
  cases r with
  | look => exact work
  | note notes => exact work.noted rfl rfl rfl rfl rfl rfl rfl
  | resizeRegion width height => exact work.noted rfl rfl rfl rfl rfl rfl rfl
  | write spot w =>
    have hn := node_mem b.element spot
    refine (ends_bind _ _ _).2
      ((ends_get _).2 ((ends_script _ _).2 ((answers_write w (issued hn)).2 ?_)))
    exact work.write hn w
  | html spot =>
    obtain ⟨record, hn⟩ := issued_iff.1 (issued (node_mem b.element spot))
    refine (ends_bind _ _ _).2 ((ends_get _).2 ((ends_ask _ _).2 ?_))
    rw [answer_innerHtml hn]
    exact work
  | sample tracker interval =>
    refine (ends_bind _ _ _).2 ((ends_get _).2 ((ends_bind _ _ _).2 ((ends_ask _ _).2 ?_)))
    cases hs : b.element.scroll with
    | none => exact work.noted rfl rfl rfl rfl rfl rfl rfl
    | some region => exact work.noted rfl rfl rfl rfl rfl rfl rfl
  | useFont font =>
    refine (ends_bind _ _ _).2 ((ends_focus _ _).2 ((register_yields font b.fonts).ends ?_))
    rintro _ fonts h' ⟨faces, doc⟩
    exact work.noted rfl rfl rfl rfl rfl rfl (by rw [doc])
  | clearOptions =>
    have held : (b.element.nodes ++ rest).Perm
        (b.element.options ++ (b.element.leaf :: b.element.parts ++ rest)) := by
      rw [Element.nodes, Element.fittings, ← List.cons_append,
        ← List.append_assoc b.element.options]
      exact List.perm_append_comm.append_right rest
    refine (ends_bind _ _ _).2
      ((ends_get _).2 ((ends_bind _ _ _).2 ((ends_modify _ _).2 ((ends_focus _ _).2 ?_))))
    refine (work.owned.perm held).giveBack.ends ?_
    exact fun _ ps h' ⟨o, parents⟩ => work.cleared o parents
  | addPart parent kind =>
    have hp := node_mem b.element parent
    refine (ends_bind _ _ _).2 ((ends_focus _ _).2 ((work.owned.take kind).ends ?_))
    rintro n ps h' ⟨o, _, blank, parents⟩
    refine (ends_bind _ _ _).2 ((ends_get _).2 ((ends_bind _ _ _).2 ((ends_ask _ _).2 ?_)))
    rw [answer_appendChild (o.issued_of_known (.inr (List.mem_cons_of_mem _ (mem_held hp))))
      (issued_of_node? blank)]
    refine work.adopt o blank parents hp rfl rfl rfl rfl ?_
    rw [Element.fittings, List.append_assoc]
    exact List.perm_middle
  | addOption parent kind =>
    have hp := node_mem b.element parent
    refine (ends_bind _ _ _).2 ((ends_focus _ _).2 ((work.owned.take kind).ends ?_))
    rintro n ps h' ⟨o, _, blank, parents⟩
    refine (ends_bind _ _ _).2 ((ends_get _).2 ((ends_bind _ _ _).2 ((ends_ask _ _).2 ?_)))
    rw [answer_appendChild (o.issued_of_known (.inr (List.mem_cons_of_mem _ (mem_held hp))))
      (issued_of_node? blank)]
    have grown : AtWork base rest e₀ d₀
        { b with pools := ps, element := { b.element with options := b.element.options ++ [n] } }
        (h'.document.append (b.element.node parent) n.id) := by
      refine work.adopt o blank parents hp rfl rfl rfl rfl ?_
      rw [Element.fittings, ← List.append_assoc]
      exact List.perm_append_singleton _ _
    have joined :
        n.id ∈
          (Element.nodes { b.element with options := b.element.options ++ [n] }).map (·.id) := by
      simp [Element.nodes, Element.fittings]
    cases focusable : kind.isFocusable with
    | false => exact grown
    | true =>
      cases tabIndex : b.element.tabIndex with
      | none => exact grown
      | some tab =>
        refine (ends_bind _ _ _).2 ((ends_ask _ _).2 ?_)
        have issued : (h'.document.append (b.element.node parent) n.id).issued n.id := by
          exact grown.owned.issued_of_known (.inr (mem_held joined))
        rw [answer_setAttribute issued]
        exact grown.write joined (.attr "tabindex" (toString tab))

/-- A craft may be cut short by a promise that it breaks itself, and by nothing else. -/
theorem AtWork.carryOut {α : Type} (work : AtWork base rest e₀ d₀ b h.document) (craft : Craft α) :
    Ends (Bench.carryOut craft) b h (fun _ b' h' => AtWork base rest e₀ d₀ b' h'.document)
      (fun _ _ _ => False) (fun _ => ¬ Uses (fun _ => True) craft) := by
  induction craft generalizing b h with
  | done a => exact work
  | ask r next ih =>
    refine (ends_bind _ _ _).2 ((work.perform r).ends fun reply b' h' work' => ?_)
    refine (ih reply work').mono (fun _ _ _ done => done) (fun _ _ _ => id) fun _ broken uses => ?_
    exact broken (uses.2 reply)
  | broken why => exact id

end Requests

end LayeredPage.Proofs
