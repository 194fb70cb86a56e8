import LayeredPage.Proofs.Growing
import LayeredPage.Proofs.Records

/-!
# What a stage adds as it grows

A stage that makes room for a node adds layers up to the one that is asked for, and on that layer
nodes for the container and the containers around it. Every node that was known before keeps its
record, but for new children.
-/

namespace LayeredPage.Proofs

open MemoryDocument

/-- The property of the root for the clip path of a container. -/
def rootName (id : UInt32) : String := "--container-" ++ toString id ++ "-clip-path"

lemma clipReference_eq (id : UInt32) :
    Container.clipReference id = "var(" ++ rootName id ++ ")" := rfl

/-- A node is clipped by the path that is published for a container. -/
def Refers (d : MemoryDocument) (n : NodeId) (id : UInt32) : Prop :=
  ∃ node, d.node? n = some node ∧ node.style["clip-path"]? = some ("var(" ++ rootName id ++ ")") ∧
    node.style["-webkit-clip-path"]? = some ("var(" ++ rootName id ++ ")")

/-- A container holds a place if it is the place's own, or one around it. -/
def Holds (cs : Std.ExtTreeMap UInt32 Container) (x : Option UInt32) (id : UInt32) : Prop :=
  ∃ ids, Line cs x ids ∧ id ∈ ids

/-- A stage after it grew, record by record. New nodes of containers are on one layer, for
containers that are needed there. -/
structure Supplied (base : Nat) (others : List OwnedNode) (layer : Nat) (needed : UInt32 → Prop)
    (s : Stage) (d : MemoryDocument) (s' : Stage) (d' : MemoryDocument) : Prop where
  records : Gained (Known base (stageNodes s ++ others)) d d'
  document : ∃ nodes, d' = { d with nodes }
  frames : ∀ (i : Nat) (l' : Layer) (id : UInt32) (node : OwnedNode), s'.layers[i]? = some l' →
    l'.frames[id]? = some node →
    (∃ l, s.layers[i]? = some l ∧ l.frames[id]? = some node) ∨ i = layer ∧ needed id ∧
    Refers d' node.id id

section Documents

variable {K : NodeId → Prop} {base layer : Nat} {others : List OwnedNode}
  {needed : UInt32 → Prop} {s s' s'' : Stage} {d d' d'' : MemoryDocument} {n : NodeId} {id : UInt32}

lemma Refers.of_map {f : MemoryNode → MemoryNode} (refers : Refers d n id)
    (same : d'.node? n = (d.node? n).map f)
    (style : ∀ node, (f node).style = node.style) : Refers d' n id := by
  obtain ⟨node, found, clip, webkit⟩ := refers
  refine ⟨f node, by rw [same, found]; rfl, ?_, ?_⟩
  · rwa [style]
  · rwa [style]

lemma Refers.gained (refers : Refers d n id) (gained : Gained K d d') (hn : K n) :
    Refers d' n id := by
  obtain ⟨new, eq, _⟩ := gained n hn
  exact refers.of_map eq fun _ => rfl

lemma Supplied.refl (s : Stage) (d : MemoryDocument) : Supplied base others layer needed s d s d :=
  ⟨Kept.refl.gained, ⟨_, rfl⟩, fun _ l _ _ hl hn => .inl ⟨l, hl, hn⟩⟩

lemma Supplied.trans (first : Supplied base others layer needed s d s' d') (ext : Extends s s')
    (second : Supplied base others layer needed s' d' s'' d'') :
    Supplied base others layer needed s d s'' d'' := by
  refine ⟨first.records.trans second.records fun m hm => ext.known hm, ?_,
    fun i l' id node hl' hn => ?_⟩
  · obtain ⟨nodes, eq⟩ := first.document
    obtain ⟨nodes', eq'⟩ := second.document
    exact ⟨nodes', by rw [eq', eq]⟩
  · rcases second.frames i l' id node hl' hn with ⟨l, hl, hn⟩ | new
    · refine (first.frames i l id node hl hn).imp_right fun ⟨here, need, refers⟩ =>
        ⟨here, need, refers.gained second.records ?_⟩
      exact (known_of_stage
        (mem_stageNodes.2 ⟨i, l, hl, mem_layerNodes.2 (.inr (.inr ⟨id, hn⟩))⟩)).beside others
    · exact .inr new

end Documents

/-! ## Nodes that were just taken -/

/-- Nodes may have been written to that are not known, and the tree is as it was in `d₀`. -/
structure Groomed (base : Nat) (ps : NodePools) (mine : List OwnedNode) (K : NodeId → Prop)
    (d₀ d : MemoryDocument) : Prop where
  dressed : Dressed base ps mine d₀ d
  kept : Kept K d₀ d
  document : ∃ nodes, d = { d₀ with nodes }

section Steps

variable {κ σ α : Type} [Core κ] {base : Nat} {ps : NodePools}
  {mine : List OwnedNode} {K : NodeId → Prop}
  {d₀ : MemoryDocument} {h : MemoryHost κ} {s : σ} {post : α → σ → MemoryHost κ → Prop}
  {refused : PatchError → σ → MemoryHost κ → Prop} {breach : Breach → Prop}
  {f : Unit → Work σ α} {p c : NodeId}

lemma Groomed.write (groomed : Groomed base ps mine K d₀ h.document) (hc : c ∈ mine.map (·.id))
    (other : ¬ K c) (w : NodeWrite)
    (hw : replaces w = false) (hd : ∀ d, ∃ nodes, written w c d = { d with nodes })
    (next : ∀ h' : MemoryHost κ, Groomed base ps mine K d₀ h'.document →
      h'.document = written w c h.document →
      h'.core = h.core → Ends (f ()) s h' post refused breach) :
    Ends (liftM (w.apply c) >>= f) s h post refused breach := by
  refine ends_write w (groomed.dressed.owned.issued_of_known (.inr hc)) fun h' doc core =>
    next h' ?_ doc core
  rw [doc]
  refine ⟨groomed.dressed.written (.inr hc) w hw, groomed.kept.trans ?_, ?_⟩
  · exact .written groomed.dressed.owned.linked w other fun yes => by simp [hw] at yes
  · obtain ⟨nodes, eq⟩ := groomed.document
    obtain ⟨nodes', eq'⟩ := hd h.document
    exact ⟨nodes', by rw [eq', eq]⟩

lemma Groomed.writeAll (w : NodeWrite) (hw : replaces w = false)
    (hd : ∀ c d, ∃ nodes, written w c d = { d with nodes })
    (nodes : List OwnedNode) {h : MemoryHost κ} (groomed : Groomed base ps mine K d₀ h.document)
    (own : ∀ n ∈ nodes, n ∈ mine ∧ ¬ K n.id) :
    Yields (nodes.forM fun n => (w.apply n.id : Script Patching Unit) : Work σ Unit) s h
      fun _ s' h' =>
      s' = s ∧ Groomed base ps mine K d₀ h'.document := by
  induction nodes generalizing h with
  | nil => exact ⟨rfl, groomed⟩
  | cons n nodes ih =>
    obtain ⟨held, other⟩ := own n List.mem_cons_self
    refine groomed.write (List.mem_map_of_mem held) other w hw (hd n.id) fun h' groomed _ _ => ?_
    exact ih groomed fun m hm => own m (List.mem_cons_of_mem _ hm)

end Steps

section Building

variable {κ : Type} [Core κ] {base : Nat} {mine : List OwnedNode} {h : MemoryHost κ} {w : Workshop}
  {mount : NodeId} {index : Nat}

theorem build_gains (o : Owned base w.pools mine h.document) (hm : mount.index < base)
    (new : index ∉ w.surfaces) :
    Yields (Layer.build mount index) w h fun l _ h' =>
      (Gained (Known base mine) h.document h'.document ∧
        ∃ nodes, h'.document = { h.document with nodes }) ∧
        l.index = index ∧ h'.core = Core.addContext index h.core := by
  unfold Layer.build
  refine (ends_bind _ _ _).2 ((ends_focus _ _).2 ((o.take_kept .canvas).ends ?_))
  rintro canvas ps h₁ ⟨⟨o₁, _, blank₁, parents₁⟩, kept₁, core₁, nodes₁, doc₁⟩
  refine (ends_bind _ _ _).2 ((ends_focus _ _).2 ((o₁.take_kept .div).ends ?_))
  rintro overlay ps' h₂ ⟨⟨o₂, _, blank₂, parents₂⟩, kept₂, core₂, nodes₂, doc₂⟩
  have hc : canvas.id ∈ (overlay :: canvas :: mine).map (·.id) := by simp
  have ho : overlay.id ∈ (overlay :: canvas :: mine).map (·.id) := by simp
  have strange_canvas (known : Known base mine canvas.id) : False := ne_of_joined o₁ known rfl
  have strange_overlay (known : Known base mine overlay.id) : False :=
    ne_of_joined o₂ (known.cons canvas) rfl
  have distinct : canvas.id ≠ overlay.id := ne_of_joined o₂ (.inr List.mem_cons_self)
  have bare :
      Groomed base ps' (overlay :: canvas :: mine) (Known base mine) h.document h₂.document :=
    ⟨⟨o₂, fun m => (parents₂ m).trans (parents₁ m)⟩,
      kept₁.trans (kept₂.mono fun m hm => hm.cons canvas), nodes₂,
      by rw [doc₂, doc₁]⟩
  refine bare.write hc strange_canvas (.attr "class" Layer.canvasClass) rfl (fun _ => ⟨_, rfl⟩)
    fun h₃ groomed _ core₃ => ?_
  refine groomed.write hc strange_canvas (.attr "id" (Layer.surfaceName index)) rfl
    (fun _ => ⟨_, rfl⟩) fun h₄ groomed _ core₄ => ?_
  refine groomed.write hc strange_canvas (.style "z-index" (toString index)) rfl (fun _ => ⟨_, rfl⟩)
    fun h₅ groomed _ core₅ => ?_
  refine groomed.write ho strange_overlay (.attr "class" Layer.overlayClass) rfl (fun _ => ⟨_, rfl⟩)
    fun h₆ groomed _ core₆ => ?_
  refine groomed.write ho strange_overlay (.style "z-index" (toString index)) rfl
    (fun _ => ⟨_, rfl⟩) fun h₇ groomed _ core₇ => ?_
  have o₇ := groomed.dressed.owned
  have alone_canvas : h₇.document.parent? canvas.id = none := by
    rw [groomed.dressed.parents, ← parents₁]
    exact parent?_of_node? blank₁
  have alone_overlay : h₇.document.parent? overlay.id = none := by
    rw [groomed.dressed.parents, ← parents₁, ← parents₂]
    exact parent?_of_node? blank₂
  have issued (m) (hm : m ∈ (overlay :: canvas :: mine).map (·.id)) : h₇.document.issued m :=
    o₇.issued_of_known (.inr hm)
  have mounted : Known base (overlay :: canvas :: mine) mount := .inl hm
  refine ends_append (o₇.issued_of_known mounted) (issued _ hc) fun h₈ doc₈ core₈ => ?_
  have o₈ : Owned base ps' (overlay :: canvas :: mine) h₈.document := doc₈ ▸ o₇.append mounted hc
  refine ends_append (o₈.issued_of_known mounted) (o₈.issued_of_known (.inr ho))
    fun h₉ doc₉ core₉ => ?_
  have hung : Gained (Known base mine) h₇.document h₈.document :=
    doc₈ ▸ .append o₇.linked strange_canvas alone_canvas
  have alone : h₈.document.parent? overlay.id = none := by
    rw [doc₈, parent?_append o₇.linked (issued _ hc), if_neg distinct.symm, alone_overlay]
  have hung' : Gained (Known base mine) h₈.document h₉.document :=
    doc₉ ▸ .append o₈.linked strange_overlay alone
  have whole : ∃ nodes, h₉.document = { h.document with nodes } := by
    obtain ⟨nodes, eq⟩ := groomed.document
    obtain ⟨nodes', eq', _⟩ := exists_append (d := h₇.document) (p := mount) (c := canvas.id)
    obtain ⟨nodes'', eq'', _⟩ := exists_append (d := h₈.document) (p := mount) (c := overlay.id)
    exact ⟨nodes'', by rw [doc₉, eq'', doc₈, eq', eq]⟩
  have fresh : w.surfaces.contains index = false :=
    Bool.eq_false_iff.2 (mt Std.ExtTreeMap.contains_iff_mem.1 new)
  unfold Workshop.register
  refine (ends_bind _ _ _).2 ((ends_bind _ _ _).2 ((ends_get _).2 ?_))
  simp only [fresh]
  refine ⟨⟨(groomed.kept.gained.trans hung fun _ => id).trans hung' fun _ => id, whole⟩, rfl, ?_⟩
  change Core.addContext index h₉.core = _
  rw [core₉, core₈, core₇, core₆, core₅, core₄, core₃, core₂, core₁]

end Building

section Stages

variable {κ : Type} [Core κ] {base layer : Nat} {mount : NodeId} {others : List OwnedNode}
  {needed : UInt32 → Prop} {s s' : Stage} {h : MemoryHost κ} {d d' : MemoryDocument}

/-- A stage that grew, in its tree and record by record. -/
abbrev Grew (base : Nat) (mount : NodeId) (others : List OwnedNode) (layer : Nat)
    (needed : UInt32 → Prop) (s : Stage)
    (d : MemoryDocument) (s' : Stage) (d' : MemoryDocument) : Prop :=
  Grown base mount others s d s' d' ∧ Supplied base others layer needed s d s' d'

theorem Standing.addLayer_supplies (st : Standing base mount others s h.document) (layer : Nat)
    (needed : UInt32 → Prop) :
    Yields Stage.addLayer s h fun _ s' h' =>
      Supplied base others layer needed s h.document s' h'.document := by
  unfold Stage.addLayer
  have free : s.layers.size ∉ s.surfaces :=
    fun inside => absurd ((st.surfaces _).1 inside) (lt_irrefl _)
  refine (ends_bind _ _ _).2 ((ends_get _).2 ((ends_bind _ _ _).2 ((ends_focus _ _).2 ?_)))
  refine ((build_yields st.owned st.mount free).and (build_gains st.owned st.mount free)).ends ?_
  rintro l w h' ⟨built, ⟨records, document⟩, _⟩
  refine ⟨records, document, fun i l' id node hl' hn => .inl ?_⟩
  have place : (s.layers.push l)[i]? = if i = s.layers.size then some l else s.layers[i]? :=
    Array.getElem?_push
  rw [place] at hl'
  split at hl'
  · cases hl'
    simp [built.frames] at hn
  · exact ⟨l', hl', hn⟩

theorem Standing.addLayers_supplies (count layer : Nat) (needed : UInt32 → Prop)
    {s : Stage} {h : MemoryHost κ} (st : Standing base mount others s h.document) :
    Yields (Stage.addLayers count) s h fun _ s' h' =>
      Grew base mount others layer needed s h.document s' h'.document ∧
      s'.layers.size = s.layers.size + count := by
  induction count generalizing s h with
  | zero => exact ⟨⟨.refl st, .refl _ _⟩, rfl⟩
  | succ count ih =>
    refine (ends_bind _ _ _).2 ((st.addLayer.and (st.addLayer_supplies layer needed)).ends ?_)
    rintro _ s' h' ⟨⟨grown, size⟩, supplied⟩
    refine (ih grown.standing).ends ?_
    rintro _ s'' h'' ⟨⟨grown', supplied'⟩, size'⟩
    exact ⟨⟨grown.trans grown', supplied.trans grown.ext supplied'⟩, by omega⟩

theorem Standing.growTo_supplies (st : Standing base mount others s h.document)
    (top : UInt32) (layer : Nat) (needed : UInt32 → Prop) :
    Yields (Stage.growTo top) s h fun _ s' h' =>
      Grew base mount others layer needed s h.document s' h'.document ∧
      s'.layers.size = max s.layers.size (top.toNat + 1) := by
  refine (ends_bind _ _ _).2
    ((ends_get _).2 ((Standing.addLayers_supplies _ layer needed st).ends ?_))
  rintro _ s' h' ⟨grew, size⟩
  exact ⟨grew, by omega⟩

theorem Standing.instantiate_supplies (st : Standing base mount others s h.document) {l : Layer}
    {id : UInt32} {parent : NodeId} (hl : s.layers[layer]? = some l) (new : l.frames[id]? = none)
    (above : parent ∈ (stageNodes s).map (·.id)) (need : needed id) :
    Yields (Stage.instantiate layer parent id) s h fun _ s' h' =>
      Supplied base others layer needed s h.document s' h'.document ∧
      s'.layers.size = s.layers.size := by
  unfold Stage.instantiate
  refine (ends_bind _ _ _).2 ((ends_onPools _ _ _).2 ((st.owned.take_kept .div).ends ?_))
  rintro node ps h₁ ⟨⟨o₁, _, blank, parents₁⟩, kept₁, _, same⟩
  have held : node.id ∈ (node :: (stageNodes s ++ others)).map (·.id) := List.mem_cons_self
  have strange (known : Known base (stageNodes s ++ others) node.id) : False :=
    ne_of_joined o₁ known rfl
  have bare :
      Groomed base ps (node :: (stageNodes s ++ others)) (Known base (stageNodes s ++ others))
        h.document h₁.document :=
    ⟨⟨o₁, parents₁⟩, kept₁, same⟩
  refine bare.write held strange (.attr "class" Stage.containerClass) rfl (fun _ => ⟨_, rfl⟩)
    fun h₂ groomed doc₂ _ => ?_
  refine groomed.write held strange (.attr Stage.containerIdAttribute (toString id)) rfl
    (fun _ => ⟨_, rfl⟩) fun h₃ groomed doc₃ _ => ?_
  refine groomed.write held strange (.style "clip-path" _) rfl (fun _ => ⟨_, rfl⟩)
    fun h₄ groomed doc₄ _ => ?_
  refine groomed.write held strange (.style "-webkit-clip-path" _) rfl (fun _ => ⟨_, rfl⟩)
    fun h₅ groomed doc₅ _ => ?_
  have o₅ := groomed.dressed.owned
  have issued : h₅.document.issued node.id := o₅.issued_of_known (.inr held)
  have alone : h₅.document.parent? node.id = none := by
    rw [groomed.dressed.parents, ← parents₁]
    exact parent?_of_node? blank
  have clipped : Refers h₅.document node.id id := by
    have record₂ := node?_written_self (w := .attr "class" Stage.containerClass) rfl blank
    rw [← doc₂] at record₂
    have record₃ :=
      node?_written_self (w := .attr Stage.containerIdAttribute (toString id)) rfl record₂
    rw [← doc₃] at record₃
    have record₄ :=
      node?_written_self (w := .style "clip-path" (Container.clipReference id)) rfl record₃
    rw [← doc₄] at record₄
    have record₅ :=
      node?_written_self (w := .style "-webkit-clip-path" (Container.clipReference id)) rfl record₄
    rw [← doc₅] at record₅
    rw [clipReference_eq] at record₅
    refine ⟨_, record₅, ?_, Std.ExtTreeMap.getElem?_insert_self⟩
    have other : compare "-webkit-clip-path" "clip-path" ≠ .eq := by decide
    exact (Std.ExtTreeMap.getElem?_insert.trans (if_neg other)).trans
      Std.ExtTreeMap.getElem?_insert_self
  refine ends_append (o₅.issued_of_known ((Known.beside (.inr above) others).cons node))
    issued fun h₆ doc₆ _ => ?_
  have hung : Gained (Known base (stageNodes s ++ others)) h₅.document h₆.document :=
    doc₆ ▸ .append o₅.linked strange alone
  have whole : ∃ nodes, h₆.document = { h.document with nodes } := by
    obtain ⟨nodes, eq⟩ := groomed.document
    obtain ⟨nodes', eq', _⟩ := exists_append (d := h₅.document) (p := parent) (c := node.id)
    exact ⟨nodes', by rw [doc₆, eq', eq]⟩
  have gained : Gained (Known base (stageNodes s ++ others)) h.document h₆.document :=
    groomed.kept.gained.trans hung fun _ known => known
  refine (ends_bind _ _ _).2 ((ends_modify _ _).2 ⟨⟨gained, whole, ?_⟩, Array.size_modify⟩)
  intro i l' j m hl' hm
  by_cases here : i = layer
  · subst here
    obtain rfl := Option.some.inj ((furnished_here hl).symm.trans hl')
    rw [getElem?_insert_eq] at hm
    split at hm
    · next same =>
      cases hm
      subst same
      have below := node?_append (m := node.id) (p := parent) (c := node.id) o₅.linked
      rw [← doc₆] at below
      exact .inr ⟨rfl, need, clipped.of_map below fun _ => rfl⟩
    · exact .inl ⟨l, hl, hm⟩
  · exact .inl ⟨l', (furnished_there here).symm.trans hl', hm⟩

/-- The containers passed on the climb get their nodes on the way back. -/
theorem Standing.descend_supplies {l : Layer} {x : Option UInt32}
    {ids : List UInt32} {root : NodeId}
    (st : Standing base mount others s h.document) (hl : s.layers[layer]? = some l)
    (a : Ascent s l x ids root) (need : ∀ id ∈ ids, needed id) :
    Yields (ids.reverse.foldlM (Stage.instantiate layer) root) s h fun t s' h' =>
      (Grown base mount others s h.document s' h'.document ∧ target? s' layer x = some t ∧
        (∃ ns, Chain s' layer x ns) ∧
        ∃ l', s'.layers[layer]? = some l' ∧ ∀ j : UInt32, j ∉ ids → l'.frames[j]? = l.frames[j]?) ∧
      Supplied base others layer needed s h.document s' h'.document ∧
      s'.layers.size = s.layers.size := by
  refine (st.descend hl a).and ?_
  induction a with
  | overlay | here => exact ⟨.refl _ _, rfl⟩
  | @up id c ids root new hc rest ih =>
    rw [List.reverse_cons, List.foldlM_append]
    refine (ends_bind _ _ _).2
      (((st.descend hl rest).and (ih fun j hj => need j (List.mem_cons_of_mem _ hj))).ends ?_)
    rintro parent s₁ h₁ ⟨⟨grown, place, _, l₁, hl₁, same⟩, supplied, size⟩
    have first : id ∉ ids := (List.nodup_cons.1 (Ascent.up new hc rest).nodup).1
    have new₁ : l₁.frames[id]? = none := by rw [same id first, new]
    refine (ends_bind _ _ _).2
      ((grown.standing.instantiate_supplies hl₁ new₁ (target?_mem place)
        (need id List.mem_cons_self)).ends ?_)
    rintro t s₂ h₂ ⟨supplied₂, size₂⟩
    exact ⟨supplied.trans grown.ext supplied₂, size₂.trans size⟩

/-- What is passed on a climb holds the place that it starts from. -/
lemma Standing.holds_of_ascent {l : Layer} {x : Option UInt32} {ids : List UInt32} {root : NodeId}
    (st : Standing base mount others s d) (hl : s.layers[layer]? = some l)
    (a : Ascent s l x ids root) :
    ∃ all, Line s.containers x all ∧ ids ⊆ all := by
  induction a with
  | overlay => exact ⟨[], .top, List.Subset.refl _⟩
  | here found =>
    obtain ⟨_, _, _, _, _, chain⟩ := st.frames layer l _ _ hl found
    obtain ⟨all, line⟩ := chain.line
    exact ⟨all, line, List.nil_subset _⟩
  | up _ hc _ ih =>
    obtain ⟨all, line, sub⟩ := ih
    exact ⟨_, .inner hc line, List.cons_subset_cons _ sub⟩

theorem Standing.attachPoint_supplies (st : Standing base mount others s h.document)
    (inside : layer < s.layers.size) (x : Option UInt32) :
    Ends (Stage.attachPoint x layer) s h
      (fun t s' h' =>
        Grew base mount others layer (Holds s.containers x) s h.document s' h'.document ∧
        target? s' layer x = some t ∧ s'.layers.size = s.layers.size)
      (fun _ s' h' => s' = s ∧ h' = h) (fun _ => True) := by
  obtain ⟨l, hl⟩ : ∃ l, s.layers[layer]? = some l := ⟨_, Array.getElem?_eq_getElem inside⟩
  unfold Stage.attachPoint
  refine (ends_bind _ _ _).2 ((ends_get _).2 ?_)
  simp only [hl]
  cases x with
  | none => exact ⟨⟨.refl st, .refl _ _⟩, target?_none hl, rfl⟩
  | some id =>
    dsimp only
    cases found : s.route l (s.containers.size + 1) id [] with
    | down root missing =>
      obtain ⟨ids, a, rfl⟩ := route_sound found
      obtain ⟨all, line, sub⟩ := st.holds_of_ascent hl a
      have need (j) (hj : j ∈ ids) : Holds s.containers (some id) j := ⟨all, line, sub hj⟩
      simp only [List.append_nil]
      refine (st.descend_supplies hl a need).ends ?_
      rintro t s' h' ⟨⟨grown, place, _, _⟩, supplied, size⟩
      exact ⟨⟨grown, supplied⟩, place, size⟩
    | unknown => exact ⟨rfl, rfl⟩
    | endless => trivial

/-- A node is hung on a layer: the stage grows as far as that is needed, and then only the node
moves. -/
theorem Standing.addElement_supplies {n : NodeId} {layer : UInt32}
    (st : Standing base mount others s h.document)
    (hn : n ∈ others.map (·.id)) (x : Option UInt32) :
    Ends (Stage.addElement n x layer) s h
      (fun _ s' h' => s'.layers.size = max s.layers.size (layer.toNat + 1) ∧ ∃ t d,
        target? s' layer.toNat x = some t ∧
          Grew base mount others layer.toNat (Holds s.containers x) s h.document s' d ∧
          h'.document = d.append t n)
      (fun _ s' h' =>
        Grew base mount others layer.toNat (Holds s.containers x) s h.document s' h'.document)
      (fun _ => True) := by
  unfold Stage.addElement
  refine (ends_bind _ _ _).2 ((st.growTo_supplies layer layer.toNat (Holds s.containers x)).ends ?_)
  rintro _ s₁ h₁ ⟨⟨grown, supplied⟩, size⟩
  have inside : layer.toNat < s₁.layers.size := by omega
  refine (ends_bind _ _ _).2
    ((grown.standing.attachPoint_supplies inside x).mono ?_ ?_ fun _ _ => trivial)
  · rintro t s₂ h₂ ⟨⟨grown₂, supplied₂⟩, place, size₂⟩
    rw [grown.containers] at supplied₂
    have st₂ := grown₂.standing
    refine (ends_ask _ _).2 ?_
    rw [answer_appendChild (st₂.owned.issued_of_known (.beside (.inr (target?_mem place)) others))
      (st₂.owned.issued_of_known (Known.behind (.inr hn) _))]
    have grew :
        Grew base mount others layer.toNat (Holds s.containers x) s h.document s₂ h₂.document :=
      ⟨grown.trans grown₂, supplied.trans grown.ext supplied₂⟩
    exact ⟨size₂.trans size, t, h₂.document, place, grew, rfl⟩
  · rintro _ _ _ ⟨rfl, rfl⟩
    exact ⟨grown, supplied⟩

/-- What others hold keeps its record whole: nothing of the stage is hung there. -/
lemma Grew.records_of_others (grew : Grew base mount others layer needed s d s' d') {m : NodeId}
    (hm : m ∈ others.map (·.id)) :
    d'.node? m = d.node? m := by
  have st := grew.1.standing
  obtain ⟨new, eq, strange⟩ := grew.2.records m (.behind (.inr hm) _)
  cases found : d.node? m with
  | none => rw [eq, found, Option.map_none]
  | some node =>
    rw [found, Option.map_some] at eq
    have nothing : new = [] := List.eq_nil_iff_forall_not_mem.2 fun c hc => by
      have below : c ∈ d'.children m := by
        rw [children_of_node? eq]
        exact List.mem_append_right _ hc
      exact strange c hc (.behind (.inr (st.below_others ((st.owned.linked c m).1 below) hm)) _)
    rw [eq, nothing, regrouped]
    simp only [List.append_nil]

/-- The children that nodes of the stage gained are new nodes of the stage. -/
lemma Grew.records_of_stage (grew : Grew base mount others layer needed s d s' d')
    (st : Standing base mount others s d)
    {m : NodeId} (hm : Known base (stageNodes s ++ others) m) :
    ∃ new, d'.node? m = (d.node? m).map (regrouped (· ++ new)) ∧
      ∀ c ∈ new, ¬ Known base (stageNodes s ++ others) c ∧ c ∈ (stageNodes s').map (·.id) := by
  have st' := grew.1.standing
  obtain ⟨new, eq, strange⟩ := grew.2.records m hm
  refine ⟨new, eq, fun c hc => ⟨strange c hc, ?_⟩⟩
  obtain ⟨node, found⟩ := issued_iff.1 (st.owned.issued_of_known hm)
  rw [found, Option.map_some] at eq
  have below : c ∈ d'.children m := by
    rw [children_of_node? eq]
    exact List.mem_append_right _ hc
  rcases st'.holder_of_parent ((st'.owned.linked c m).1 below) with foreign | staged | held
  · exact absurd (.inl foreign) (strange c hc)
  · exact staged
  · exact absurd (.behind (.inr held) _) (strange c hc)

end Stages

end LayeredPage.Proofs
