import LayeredPage.Proofs.Bystanders
import LayeredPage.Proofs.Protocol

/-!
# Clip paths mirror the table of frames

The root of the document carries one property for each frame that was updated since it was created,
with the clip path of the geometry that the updates add up to, and nothing else. Every node of a
frame, on any layer, refers to the property of its frame.
-/

namespace LayeredPage.Proofs

open MemoryDocument

/-! ## What a log says of frames -/

/-- The geometries that accepted updates brought to a frame since it was created, latest first. -/
def geometries : Log → UInt32 → List Geometry
  | [], _ => []
  | (.createFrame c, .ok _) :: past, id => if id = c.id then [] else geometries past id
  | (.updateFrame target g, .ok _) :: past, id =>
    if id = target then g :: geometries past id else geometries past id
  | _ :: past, id => geometries past id

/-- A container with the width, the height and the transform that were brought last. -/
def formed (gs : List Geometry) : Container where
  parent := none
  width := (gs.findSome? (·.width)).getD 0
  height := (gs.findSome? (·.height)).getD 0
  transform := (gs.findSome? (·.transform)).getD .identity

/-- A frame is published under a name, with a value, once it was updated. -/
def Publishes (log : Log) (name value : String) : Prop :=
  ∃ id, name = rootName id ∧ registered log id ∧ geometries log id ≠ [] ∧
    value = (formed (geometries log id)).clipPathCss

section Logs

variable {log : Log} {id : UInt32} {p : Patch} {why : PatchError} {c : Container} {g : Geometry}
  {gs : List Geometry} {name value : String}

/-- Different frames are published under different names. -/
lemma rootName_injective : Function.Injective rootName := by
  intro i j same
  have spelled (k : UInt32) :
      (rootName k).toList =
        "--container-".toList ++ ((toString k).toList ++ "-clip-path".toList) := by
    unfold rootName
    rw [String.toList_append, String.toList_append, List.append_assoc]
  have labels := congrArg String.toList same
  rw [spelled, spelled, List.append_cancel_left_eq, List.append_cancel_right_eq,
    String.toList_inj] at labels
  exact label_injective labels

/-- Where the container is does not matter for its path. -/
lemma clipPathCss_of_alike (alike : { c with parent := none } = formed gs) :
    c.clipPathCss = (formed gs).clipPathCss := by
  rw [← alike]
  rfl

/-- Each update replaces what it brings, and leaves the rest. -/
lemma merge_alike (alike : { c with parent := none } = formed gs) :
    { c.merge g with parent := none } = formed (g :: gs) := by
  obtain ⟨parent, width, height, transform⟩ := c
  cases alike
  obtain ⟨w, h, t⟩ := g
  cases w <;> cases h <;> cases t <;> rfl

lemma geometries_refused : geometries ((p, .error why) :: log) = geometries log := by
  cases p <;> rfl

/-- A patch that the frames do not notice publishes nothing. -/
lemma Publishes.congr {log' : Log} (frames : registered log' = registered log)
    (brought : geometries log' = geometries log) :
    Publishes log' name value ↔ Publishes log name value := by
  unfold Publishes
  rw [frames, brought]

/-- A new frame is not published yet. -/
lemma publishes_createFrame {created : Creation} (new : registered log created.id = false) :
    Publishes ((.createFrame created, .ok ()) :: log) name value ↔ Publishes log name value := by
  refine exists_congr fun i => and_congr_right fun _ => ?_
  by_cases same : i = created.id
  · subst same
    simp [registered, geometries, new]
  · simp [registered, geometries, same]

lemma publishes_updateFrame (known : registered log id) :
    Publishes ((.updateFrame id g, .ok ()) :: log) name value ↔
      if name = rootName id then value = (formed (g :: geometries log id)).clipPathCss
      else Publishes log name value := by
  split
  · next here =>
    constructor
    · rintro ⟨i, there, _, _, rfl⟩
      obtain rfl := rootName_injective (here.symm.trans there)
      simp [geometries]
    · rintro rfl
      exact ⟨id, here, known, by simp [geometries], by simp [geometries]⟩
  · next elsewhere =>
    refine exists_congr fun i => and_congr_right fun there => ?_
    have other : i ≠ id := fun same => elsewhere (same ▸ there)
    simp [registered, geometries, other]

lemma publishes_deleteFrame :
    Publishes ((.deleteFrame id, .ok ()) :: log) name value ↔ name ≠ rootName id ∧
    Publishes log name value := by
  constructor
  · rintro ⟨i, rfl, there, brought⟩
    simp only [registered, ne_eq, Bool.and_eq_true, decide_eq_true_eq] at there
    exact ⟨fun same => there.1 (rootName_injective same), i, rfl, there.2, brought⟩
  · rintro ⟨other, i, rfl, there, brought⟩
    refine ⟨i, rfl, ?_, brought⟩
    have apart : i ≠ id := fun same => other (congrArg _ same)
    simp [registered, apart, there]

end Logs

/-! ## Nodes of frames are clipped -/

/-- Every node of a frame is clipped by the path of its frame. -/
def Clipped (s : Stage) (d : MemoryDocument) : Prop :=
  ∀ (i : Nat) (l : Layer) (id : UInt32) (node : OwnedNode), s.layers[i]? = some l →
    l.frames[id]? = some node →
    Refers d node.id id

/-- These nodes keep their styles. -/
def Styled (K : NodeId → Prop) (d d' : MemoryDocument) : Prop :=
  ∀ m, K m → (d'.node? m).map (·.style) = (d.node? m).map (·.style)

/-- What does not concern the frames: the root is untouched, and their nodes stay clipped, those
that are new with them. -/
structure Aloof (s : Stage) (d : MemoryDocument) (s' : Stage) (d' : MemoryDocument) : Prop where
  root : d'.rootProperties = d.rootProperties
  clipped : Clipped s d → Clipped s' d'

section Styles

variable {K : NodeId → Prop} {d d' d'' : MemoryDocument} {gone : List NodeId} {n p c : NodeId}
  {id : UInt32} {s s' s'' : Stage}
  {base layer : Nat} {others : List OwnedNode} {needed : UInt32 → Prop}

lemma Styled.of_map {f : NodeId → MemoryNode → MemoryNode}
    (same : ∀ m, K m → d'.node? m = (d.node? m).map (f m))
    (style : ∀ m node, (f m node).style = node.style) : Styled K d d' := by
  intro m hm
  rw [same m hm, Option.map_map]
  exact congrArg (Option.map · _) (funext (style m))

lemma Kept.styled (kept : Kept K d d') : Styled K d d' := fun m hm => congrArg _ (kept m hm)

lemma Lost.styled (lost : Lost gone K d d') : Styled K d d' := .of_map lost fun _ _ => rfl

lemma styled_append (linked : Linked d) : Styled K d (d.append p c) :=
  .of_map (fun _ _ => node?_append linked) fun _ _ => rfl

lemma Refers.styled (refers : Refers d n id) (styled : Styled K d d') (hn : K n) :
    Refers d' n id := by
  obtain ⟨node, found, clip, webkit⟩ := refers
  have same := styled n hn
  rw [found, Option.map_some, Option.map_eq_some_iff] at same
  obtain ⟨node', found', same⟩ := same
  exact ⟨node', found', by rw [same, clip], by rw [same, webkit]⟩

lemma mem_of_frame {i : Nat} {l : Layer} {node : OwnedNode} (hl : s.layers[i]? = some l)
    (hn : l.frames[id]? = some node) :
    node.id ∈ (stageNodes s).map (·.id) :=
  List.mem_map_of_mem (mem_stageNodes.2 ⟨i, l, hl, mem_layerNodes.2 (.inr (.inr ⟨id, hn⟩))⟩)

/-- No frame got a new node, and those that there are kept their styles. -/
lemma Clipped.styled (clipped : Clipped s d) (styled : Styled (· ∈ (stageNodes s').map (·.id)) d d')
    (old : ∀ (i : Nat) (l' : Layer) (id : UInt32) (node : OwnedNode), s'.layers[i]? = some l' →
      l'.frames[id]? = some node →
      ∃ l, s.layers[i]? = some l ∧ l.frames[id]? = some node) : Clipped s' d' := by
  intro i l' id node hl' hn
  obtain ⟨l, hl, found⟩ := old i l' id node hl' hn
  exact (clipped i l id node hl found).styled styled (mem_of_frame hl' hn)

lemma Aloof.refl (s : Stage) (d : MemoryDocument) : Aloof s d s d := ⟨rfl, fun clipped => clipped⟩

lemma Aloof.trans (first : Aloof s d s' d') (second : Aloof s' d' s'' d'') : Aloof s d s'' d'' :=
  ⟨second.root.trans first.root, fun clipped => second.clipped (first.clipped clipped)⟩

/-- A stage with other pools. -/
lemma Aloof.of_styled (layers : s'.layers = s.layers)
    (styled : Styled (· ∈ (stageNodes s').map (·.id)) d d')
    (root : d'.rootProperties = d.rootProperties) : Aloof s d s' d' := by
  refine ⟨root, fun clipped => clipped.styled styled fun i l' id node hl' hn => ⟨l', ?_, hn⟩⟩
  rw [← layers, hl']

lemma Supplied.aloof (supplied : Supplied base others layer needed s d s' d') :
    Aloof s d s' d' := by
  obtain ⟨nodes, eq⟩ := supplied.document
  refine ⟨by rw [eq], fun clipped i l' id node hl' hn => ?_⟩
  rcases supplied.frames i l' id node hl' hn with ⟨l, hl, found⟩ | ⟨_, _, refers⟩
  · exact (clipped i l id node hl found).gained supplied.records
      (.beside (.inr (mem_of_frame hl found)) _)
  · exact refers

lemma aloof_append (linked : Linked d) : Aloof s d s (d.append p c) := by
  obtain ⟨nodes, eq, _⟩ := exists_append (d := d) (p := p) (c := c)
  exact .of_styled rfl (styled_append linked) (by rw [eq])

end Styles

/-! ## Patches to elements and images -/

section Patches

variable {κ : Type} [Core κ] {base : Nat} {mount : NodeId} {s : Scene} {h : MemoryHost κ}
  {act : Work Scene Unit}
  {post post' : Unit → Scene → MemoryHost κ → Prop}
  {refused : PatchError → Scene → MemoryHost κ → Prop}
  {reason : PatchError → Prop} {breach breach' : Breach → Prop}

/-- Whether it is accepted or refused, this does not concern the frames. -/
def Calm (act : Work Scene Unit) (s : Scene) (h : MemoryHost κ) : Prop :=
  Ends act s h (fun _ s' h' => Aloof s.toStage h.document s'.toStage h'.document)
    (fun _ s' h' => Aloof s.toStage h.document s'.toStage h'.document) fun _ => True

/-- A patch is calm if it is when accepted, and leaves no trace when refused. -/
lemma Calm.of_accepted (accepted : Ends act s h post refused breach)
    (traceless : Ends act s h post' (fun why s' h' => s' = s ∧ h' = h ∧ reason why) breach')
    (calm : ∀ s' h', post () s' h' → Aloof s.toStage h.document s'.toStage h'.document) :
    Calm act s h := by
  refine (accepted.and traceless).mono (fun _ s' h' both => calm s' h' both.1) ?_ fun _ _ => trivial
  rintro _ _ _ ⟨_, rfl, rfl, _⟩
  exact .refl _ _

theorem Sound.update_calm (sound : Sound base mount s h) (id : UInt32) (change : Change) :
    Calm (Scene.update id change) s h := by
  refine .of_accepted (sound.update_alone id change) (sound.update id change)
    fun s' h' updated => ?_
  obtain ⟨pools, fonts, e, rfl⟩ := updated.scene
  obtain ⟨nodes, observed, faces, focused, _, eq⟩ := updated.document
  refine .of_styled rfl (Kept.styled fun m hm => (updated.fixtures m (.inr hm)).1) ?_
  rw [eq]

theorem Sound.delete_calm (sound : Sound base mount s h) (widget : Widget) (id : UInt32) :
    Calm (Scene.delete widget id) s h := by
  refine .of_accepted (sound.delete_alone widget id) (sound.delete widget id) ?_
  rintro s' h' ⟨e, _, deleted⟩
  obtain ⟨pools, rfl⟩ := deleted.scene
  obtain ⟨nodes, observed, focused, eq⟩ := deleted.document
  obtain ⟨old, _, fixtures⟩ := deleted.fixtures
  refine .of_styled rfl (.of_map (fun m hm => (fixtures m (.inr hm)).1) fun _ _ => rfl) ?_
  rw [eq]
  exact rootProperties_stopped e h.document

theorem Sound.restack_calm (sound : Sound base mount s h) (id layer depth : UInt32) :
    Calm (Scene.restack id layer depth) s h := by
  refine .of_accepted (sound.restack_alone id layer depth) (sound.restack id layer depth) ?_
  rintro s' h' ⟨e, _, moved⟩
  obtain ⟨nodes, eq⟩ := moved.document
  obtain ⟨old, place, _, _, _, fixtures⟩ := moved.fixtures
  refine ⟨by rw [eq], fun clipped i l' f node hl' hn => ?_⟩
  rcases moved.frames i l' f node hl' hn with ⟨l, hl, found⟩ | ⟨_, _, refers⟩
  · obtain ⟨new, same, _⟩ := fixtures node.id (.inr (mem_of_frame hl found))
    exact (clipped i l f node hl found).of_map same fun _ => rfl
  · exact refers

/-- The record of a leaf that was just marked. -/
def marked (id : UInt32) : MemoryNode :=
  recorded (.attr nativeIdAttribute (toString id))
    (recorded (.attr "class" Element.leafClass) (.fresh .div))

/-- A leaf is taken for a new element and marked, and hangs nowhere yet; nobody else is
concerned. -/
lemma Sound.begun_kept (sound : Sound base mount s h) (widget : Widget) (c : Creation)
    {f : OwnedNode → Work Scene Unit} {post : Unit → Scene → MemoryHost κ → Prop}
    {refused : PatchError → Scene → MemoryHost κ → Prop} {breach : Breach → Prop}
    (next : ∀ (leaf : OwnedNode) (ps : NodePools) (h' : MemoryHost κ),
      AtHand base mount { s.toStage with pools := ps } s.elements
        (.start widget leaf c) h'.document →
      Kept (Known base (stageNodes s.toStage ++ elementNodes s.elements)) h.document h'.document →
      (∃ nodes, h'.document = { h.document with nodes }) → h'.document.parent? leaf.id = none →
      h'.document.node? leaf.id = some (marked c.id) → h'.core = h.core →
      Ends (f leaf) { s with pools := ps } h' post refused breach) :
    Ends (do
      let leaf ← Scene.onPools (Pools.take NodeKind.div)
      ask (.setAttribute leaf.id "class" Element.leafClass)
      ask (.setAttribute leaf.id nativeIdAttribute (toString c.id))
      f leaf) s h post refused breach := by
  refine (ends_bind _ _ _).2
    ((ends_onStage _ _ _).2 ((ends_onPools _ _ _).2 ((sound.stage.owned.take_kept .div).ends ?_)))
  rintro leaf ps h₁ ⟨⟨o₁, _, blank, parents₁⟩, kept₁, core₁, same⟩
  have held : leaf.id ∈ (leaf :: (stageNodes s.toStage ++ elementNodes s.elements)).map (·.id) :=
    List.mem_cons_self
  have strange (known : Known base (stageNodes s.toStage ++ elementNodes s.elements) leaf.id) :
      False := ne_of_joined o₁ known rfl
  have bare : Groomed base ps (leaf :: (stageNodes s.toStage ++ elementNodes s.elements))
      (Known base (stageNodes s.toStage ++ elementNodes s.elements)) h.document h₁.document :=
    ⟨⟨o₁, parents₁⟩, kept₁, same⟩
  refine bare.write held strange (.attr "class" Element.leafClass) rfl (fun _ => ⟨_, rfl⟩)
    fun h₂ groomed doc₂ core₂ => ?_
  refine groomed.write held strange (.attr nativeIdAttribute (toString c.id)) rfl
    (fun _ => ⟨_, rfl⟩) fun h₃ groomed doc₃ core₃ => ?_
  refine next leaf ps h₃ (sound.begin groomed.dressed.owned groomed.dressed.parents fun m => ?_)
    groomed.kept groomed.document ?_ ?_
    (core₃.trans (core₂.trans core₁))
  · rw [groomed.dressed.parents, ← parents₁, ne_eq, ← o₁.linked, children_of_node? blank]
    exact List.not_mem_nil
  · rw [groomed.dressed.parents, ← parents₁]
    exact parent?_of_node? blank
  · have first := node?_written_self (w := .attr "class" Element.leafClass) rfl blank
    rw [doc₃, doc₂]
    exact node?_written_self rfl first

/-- No frame notices. -/
lemma Sound.begun_alone (sound : Sound base mount s h) (widget : Widget) (c : Creation)
    {f : OwnedNode → Work Scene Unit} {post : Unit → Scene → MemoryHost κ → Prop}
    {refused : PatchError → Scene → MemoryHost κ → Prop} {breach : Breach → Prop}
    (next : ∀ (leaf : OwnedNode) (ps : NodePools) (h' : MemoryHost κ),
      AtHand base mount { s.toStage with pools := ps } s.elements
        (.start widget leaf c) h'.document →
      Aloof s.toStage h.document { s.toStage with pools := ps } h'.document →
      Ends (f leaf) { s with pools := ps } h' post refused breach) :
    Ends (do
      let leaf ← Scene.onPools (Pools.take NodeKind.div)
      ask (.setAttribute leaf.id "class" Element.leafClass)
      ask (.setAttribute leaf.id nativeIdAttribute (toString c.id))
      f leaf) s h post refused breach := by
  refine sound.begun_kept widget c fun leaf ps h' hand kept document _ _ _ =>
    next leaf ps h' hand ?_
  obtain ⟨nodes, eq⟩ := document
  exact .of_styled rfl (Kept.styled fun m hm => kept m (.beside (.inr hm) _)) (by rw [eq])

theorem Sound.create_calm (sound : Sound base mount s h) (widget : Widget) (c : Creation) :
    Calm (Scene.create widget c) s h := by
  unfold Calm Scene.create
  refine (ends_bind _ _ _).2 ((ends_get _).2 ?_)
  cases known : s.elements.contains c.id with
  | true => exact .refl _ _
  | false =>
    refine sound.begun_alone widget c fun leaf ps h₃ begun aloof => ?_
    refine (ends_bind _ _ _).2 ((ends_get _).2 ((ends_bind _ _ _).2 ((ends_atBench _ _ _ _).2 ?_)))
    refine ((begun.carryOut s.fonts _).and ((begun.atWork s.fonts).carryOut_discreet _)).mono ?_
      (fun _ _ _ no => no.1.elim) fun _ _ => trivial
    rintro _ b h₄ ⟨⟨hand, _, _, same_leaf, same_frame, same_layer⟩, _, discreet⟩
    have built :
        Aloof { s.toStage with pools := ps } h₃.document
          { s.toStage with pools := b.pools } h₄.document :=
      .of_styled rfl
        (Kept.styled fun m hm => discreet.records m (.beside (.inr hm) _)) discreet.properties
    have args : leaf.id = b.element.leaf.id ∧ c.frame = b.element.frame ∧
        c.layer = b.element.layer :=
      ⟨by rw [same_leaf]; rfl, same_frame.symm, same_layer.symm⟩
    rw [args.1, args.2.1, args.2.2]
    have listed : b.element.leaf.id ∈ (b.element.nodes ++ elementNodes s.elements).map (·.id) :=
      List.mem_cons_self
    refine (ends_bind _ _ _).2 ((ends_outcome _ _).2 ((ends_bind _ _ _).2 ((ends_onStage _ _ _).2
      (((hand.place b.element.layer).and
        (hand.stage.addElement_supplies listed b.element.frame)).mono ?_ ?_ fun _ _ => trivial))))
    · rintro _ s₅ h₅ ⟨_, _, t, d, _, grew, doc⟩
      have hung : Aloof s₅ d s₅ h₅.document := doc ▸ aloof_append grew.1.standing.owned.linked
      exact ((aloof.trans built).trans grew.2.aloof).trans hung
    · rintro e s₅ h₅ ⟨⟨hand₅, _⟩, grew⟩
      refine (ends_bind _ _ _).2
        ((AtHand.release_returns (s := { s with toStage := s₅, fonts := b.fonts }) hand₅).ends ?_)
      rintro _ _ h₆ ⟨⟨pools, rfl⟩, left, _, nodes, observed, focused, eq⟩
      have released : Aloof s₅ h₅.document { s₅ with pools } h₆.document := by
        refine .of_styled rfl (fun m hm => left.styled m (.beside (.inr hm) _)) ?_
        rw [eq]
        exact rootProperties_stopped b.element h₅.document
      exact ((aloof.trans built).trans grew.2.aloof).trans released

theorem loadImage_calm (s : Scene) (h : MemoryHost κ) (id : UInt32) (path : String) :
    Calm (Scene.loadImage id path) s h := by
  unfold Calm Scene.loadImage
  refine (ends_bind _ _ _).2 ((ends_script _ _).2 ?_)
  change Ends (if (!(Core.imageLoaded path h.core).1) = true then _ else _) s
    { h with core := _ } _ _ _
  split
  · exact (ends_bind _ _ _).2 ((ends_get _).2 ((ends_ask _ _).2 ⟨rfl, fun clipped => clipped⟩))
  · exact .refl _ _

end Patches

/-! ## Patches to frames -/

section Frames

variable {κ : Type} [Core κ] {base layer : Nat} {mount : NodeId} {others : List OwnedNode}
  {s : Stage} {h : MemoryHost κ} {id : UInt32} {l : Layer} {node : OwnedNode}

/-- A childless node of a container is given back: the rest of the stage keeps its styles. -/
lemma Standing.withdraw_styled (st : Standing base mount others s h.document)
    (hl : s.layers[layer]? = some l)
    (found : l.frames[id]? = some node) (childless : h.document.children node.id = []) :
    Yields (Stage.withdraw id layer node) s h fun _ s' h' =>
      Styled (· ∈ (stageNodes s').map (·.id)) h.document h'.document ∧
      h'.document.rootProperties = h.document.rootProperties := by
  unfold Stage.withdraw
  refine (ends_bind _ _ _).2 ((ends_modify _ _).2 ((ends_onPools _ _ _).2 ?_))
  have kind := (st.frames layer l id node hl found).1
  have joined := st.owned.perm ((stageNodes_erase hl found).append_right others)
  have apart (m) (hm : Known base (stageNodes (stripped s s.pools layer id) ++ others) m) :
      m ≠ node.id ∧ h.document.parent? m ≠ some node.id := by
    refine ⟨ne_of_joined joined hm, fun above => ?_⟩
    rw [← st.owned.linked, childless] at above
    cases above
  rw [← kind]
  refine (joined.put_returns apart).ends ?_
  rintro _ ps h' ⟨_, back⟩
  obtain ⟨nodes, observed, focused, eq⟩ := back.nodewise
  exact ⟨fun m hm => back.records.styled m (.beside (.inr hm) others), by rw [eq]⟩

lemma Standing.withdrawAll_styled (found : List (Nat × OwnedNode)) {s : Stage} {h : MemoryHost κ}
    (st : Standing base mount others s h.document) (distinct : found.Pairwise fun p q => p.1 ≠ q.1)
    (there : ∀ p ∈ found, ∃ l, s.layers[p.1]? = some l ∧ l.frames[id]? = some p.2)
    (childless : ∀ p ∈ found, h.document.children p.2.id = []) :
    Yields (found.forM fun (layer, node) => Stage.withdraw id layer node) s h fun _ s' h' =>
      (∀ n ∈ stageNodes s', n ∈ stageNodes s) ∧
      Styled (· ∈ (stageNodes s').map (·.id)) h.document h'.document ∧
        h'.document.rootProperties = h.document.rootProperties := by
  induction found generalizing s h with
  | nil => exact ⟨fun _ hn => hn, fun _ _ => rfl, rfl⟩
  | cons p found ih =>
    obtain ⟨apart, distinct⟩ := List.pairwise_cons.1 distinct
    obtain ⟨l, hl, here⟩ := there p List.mem_cons_self
    have vacant := childless p List.mem_cons_self
    refine (ends_bind _ _ _).2
      (((st.withdraw hl here vacant).and (st.withdraw_styled hl here vacant)).ends ?_)
    rintro _ s₁ h₁ ⟨⟨shrunk, ⟨ps, rfl⟩, none_below⟩, styled, root⟩
    refine (ih shrunk.standing distinct ?_ ?_).ends ?_
    · intro q hq
      rw [stripped_there (apart q hq).symm]
      exact there q (List.mem_cons_of_mem _ hq)
    · exact fun q hq => none_below _ (childless q (List.mem_cons_of_mem _ hq))
    rintro _ s₂ h₂ ⟨fewer, styled₂, root₂⟩
    refine ⟨fun n hn => shrunk.nodes n (fewer n hn), fun m hm => ?_, root₂.trans root⟩
    obtain ⟨n, hn, rfl⟩ := List.mem_map.1 hm
    exact (styled₂ n.id hm).trans (styled n.id (List.mem_map_of_mem (fewer n hn)))

/-- With a container goes its property, and no other. -/
theorem Standing.removeContainer_clipped (st : Standing base mount others s h.document)
    (id : UInt32) :
    Ends (Stage.removeContainer id) s h
      (fun _ s' h' => (Clipped s h.document → Clipped s' h'.document) ∧
        h'.document.rootProperties = h.document.rootProperties.erase (rootName id))
      (fun _ s' h' => s' = s ∧ h' = h) (fun _ => True) := by
  unfold Stage.removeContainer
  refine (ends_bind _ _ _).2 ((ends_get _).2 ?_)
  dsimp only
  cases known : s.containers.contains id with
  | false => exact ⟨rfl, rfl⟩
  | true =>
    have issued (p) (hp : p ∈ s.instances id) : h.document.issued p.2.id := by
      obtain ⟨l, hl, hn⟩ := mem_instances.1 hp
      exact st.owned.issued_of_known (.beside (.inr (mem_of_frame hl hn)) others)
    refine (ends_bind _ _ _).2 ((ends_childCounts _ issued _).2 ?_)
    split
    · exact ⟨rfl, rfl⟩
    next vacant =>
      have there (p) (hp : p ∈ s.instances id) : ∃ l, s.layers[p.1]? = some l ∧
          l.frames[id]? = some p.2 := mem_instances.1 hp
      have childless (p) (hp : p ∈ s.instances id) : h.document.children p.2.id = [] := by
        have none_below := total_eq_zero.1 (Nat.eq_zero_of_not_pos vacant)
        exact List.length_eq_zero_iff.1 (none_below _ (List.mem_map_of_mem hp))
      refine (ends_bind _ _ _).2 (((st.withdrawAll _ pairwise_instances there childless).and
        (Standing.withdrawAll_styled _ st pairwise_instances there childless)).ends ?_)
      rintro _ s₁ h₁ ⟨⟨_, _, places⟩, _, styled, root⟩
      have erased := congrArg (·.erase (rootName id)) root
      refine (ends_bind _ _ _).2 ((ends_modify _ _).2 ⟨fun clipped => ?_, erased⟩)
      have still : Clipped s₁ h₁.document := clipped.styled styled fun i l' j m hl' hm => by
        obtain ⟨l, hl, frames, _⟩ := places i l' hl'
        exact ⟨l, hl, frames j m hm⟩
      exact still

/-- An update is published. -/
theorem updateContainer_publishes (s : Stage) (h : MemoryHost κ) (id : UInt32) (g : Geometry) :
    Ends (Stage.updateContainer id g) s h
      (fun _ s' h' => ∃ c, s.containers[id]? = some c ∧
        s' = { s with containers := s.containers.insert id (c.merge g) } ∧
        h'.document = { h.document with
          rootProperties :=
            h.document.rootProperties.insert (rootName id) (c.merge g).clipPathCss })
      (fun _ s' h' => s' = s ∧ h' = h) (fun _ => False) := by
  unfold Stage.updateContainer
  refine (ends_bind _ _ _).2 ((ends_get _).2 ?_)
  cases known : s.containers[id]? with
  | none => exact ⟨rfl, rfl⟩
  | some c => exact ⟨c, rfl, rfl, rfl⟩

end Frames

/-! ## The table of frames and the root -/

/-- The table of frames, the root and the nodes of frames are as the log says. -/
structure InStep (log : Log) (s : Scene) (d : MemoryDocument) : Prop where
  frames : ∀ (id : UInt32) (c : Container), s.containers[id]? = some c →
    { c with parent := none } = formed (geometries log id)
  root : ∀ name value : String, d.rootProperties[name]? = some value ↔ Publishes log name value
  clipped : Clipped s.toStage d

section Results

variable {κ : Type} [Core κ] {base : Nat} {mount : NodeId} {config : Config} {h₀ h : MemoryHost κ}
  {s s' : Scene} {log log' : Log} {d d' : MemoryDocument}

/-- Patches that are not about frames, and refused ones, change nothing here. -/
lemma InStep.aloof (inStep : InStep log s d) (containers : s'.containers = s.containers)
    (calm : Aloof s.toStage d s'.toStage d') (known : registered log' = registered log)
    (brought : geometries log' = geometries log) : InStep log' s' d' := by
  refine ⟨fun id c hc => ?_, fun name value => ?_, calm.clipped inStep.clipped⟩
  · rw [containers] at hc
    rw [brought]
    exact inStep.frames id c hc
  · rw [calm.root, inStep.root, Publishes.congr known brought]

lemma InStep.refused {p : Patch} {why : PatchError} (inStep : InStep log s d) :
    InStep ((p, .error why) :: log) s d :=
  inStep.aloof rfl (.refl _ _) registered_refused geometries_refused

/-- A patch that is not about frames. -/
lemma InStep.calm {act : Work Scene Unit} {p : Patch} (inStep : InStep log s h.document)
    (calm : Calm act s h)
    (spares : Spares listed act) (known : registered ((p, .ok ()) :: log) = registered log)
    (brought : geometries ((p, .ok ()) :: log) = geometries log) :
    Ends act s h (fun _ s' h' => InStep ((p, .ok ()) :: log) s' h'.document)
      (fun why s' h' => InStep ((p, .error why) :: log) s' h'.document) fun _ => True := by
  refine (Ends.and calm (spares κ s h)).mono ?_ ?_ fun _ _ => trivial
  · exact fun _ _ _ ⟨calm, same⟩ => inStep.aloof same calm known brought
  · exact fun _ _ _ ⟨calm, same⟩ => inStep.aloof same calm registered_refused geometries_refused

theorem InStep.createFrame (inStep : InStep log s h.document)
    (accounts : Accounts log s) (c : Creation) :
    Ends (Scene.onStage (Stage.addContainer c.id c.frame)) s h
      (fun _ s' h' => InStep ((.createFrame c, .ok ()) :: log) s' h'.document)
      (fun why s' h' => InStep ((.createFrame c, .error why) :: log) s' h'.document)
      (fun _ => True) := by
  refine (ends_onStage _ _ _).2
    ((ends_addContainer s.toStage h c.id c.frame).mono ?_ ?_ fun _ _ => trivial)
  · rintro _ s₁ h₁ ⟨rfl, rfl, new, _⟩
    have unregistered : registered log c.id = false := by
      rw [← accounts.frames, Std.ExtTreeMap.contains_eq_isSome_getElem?, new]
      rfl
    refine ⟨fun id found hf => ?_, fun name value => ?_, inStep.clipped⟩
    · dsimp only at hf
      rw [getElem?_insert_eq] at hf
      simp only [geometries]
      split at hf
      · next same =>
        rw [if_pos same]
        cases hf
        rfl
      · next other =>
        rw [if_neg other]
        exact inStep.frames id found hf
    · rw [publishes_createFrame unregistered]
      exact inStep.root name value
  · rintro why s₁ h₁ ⟨rfl, rfl, _⟩
    exact inStep.refused

theorem InStep.updateFrame (inStep : InStep log s h.document) (accounts : Accounts log s)
    (id : UInt32) (g : Geometry) :
    Ends (Scene.onStage (Stage.updateContainer id g)) s h
      (fun _ s' h' => InStep ((.updateFrame id g, .ok ()) :: log) s' h'.document)
      (fun why s' h' => InStep ((.updateFrame id g, .error why) :: log) s' h'.document)
      (fun _ => True) := by
  refine (ends_onStage _ _ _).2
    ((updateContainer_publishes s.toStage h id g).mono ?_ ?_ fun _ => False.elim)
  · rintro _ s₁ h₁ ⟨c, hc, rfl, doc⟩
    have alike := merge_alike (g := g) (inStep.frames id c hc)
    have known : registered log id := by
      rw [← accounts.frames, Std.ExtTreeMap.contains_eq_isSome_getElem?, hc]
      rfl
    refine ⟨fun j found hf => ?_, fun name value => ?_, ?_⟩
    · dsimp only at hf
      rw [getElem?_insert_eq] at hf
      simp only [geometries]
      split at hf
      · next same =>
        rw [if_pos same]
        cases hf
        subst same
        exact alike
      · next other =>
        rw [if_neg other]
        exact inStep.frames j found hf
    · rw [publishes_updateFrame known, doc]
      split
      · next same =>
        rw [same, Std.ExtTreeMap.getElem?_insert_self, Option.some_inj,
          clipPathCss_of_alike alike, eq_comm]
      · next other =>
        rw [Std.ExtTreeMap.getElem?_insert, if_neg (mt compare_eq_iff_eq.1 (Ne.symm other))]
        exact inStep.root name value
    · rw [doc]
      exact inStep.clipped
  · rintro why s₁ h₁ ⟨rfl, rfl⟩
    exact inStep.refused

theorem InStep.deleteFrame (inStep : InStep log s h.document)
    (sound : Sound base mount s h) (id : UInt32) :
    Ends (Scene.onStage (Stage.removeContainer id)) s h
      (fun _ s' h' => InStep ((.deleteFrame id, .ok ()) :: log) s' h'.document)
      (fun why s' h' => InStep ((.deleteFrame id, .error why) :: log) s' h'.document)
      (fun _ => True) := by
  refine (ends_onStage _ _ _).2
    (((sound.stage.removeContainer id).and (sound.stage.removeContainer_clipped id)).mono ?_ ?_
      fun _ _ => trivial)
  · rintro _ s₁ h₁ ⟨⟨_, _, containers, _⟩, clipped, root⟩
    refine ⟨fun j found hf => ?_, fun name value => ?_, clipped inStep.clipped⟩
    · dsimp only at hf
      rw [containers, getElem?_erase_iff] at hf
      exact inStep.frames j found hf.2
    · rw [publishes_deleteFrame, root, ← inStep.root]
      by_cases same : name = rootName id
      · simp [same]
      · rw [Std.ExtTreeMap.getElem?_erase,
          if_neg (mt compare_eq_iff_eq.1 (Ne.symm same)), and_iff_right same]
  · rintro why s₁ h₁ ⟨_, rfl, rfl⟩
    exact inStep.refused

/-- One more patch, whatever became of it. -/
theorem InStep.apply (inStep : InStep log s h.document) (accounts : Accounts log s)
    (sound : Sound base mount s h) (p : Patch) :
    Ends (Scene.apply p) s h (fun _ s' h' => InStep ((p, .ok ()) :: log) s' h'.document)
      (fun why s' h' => InStep ((p, .error why) :: log) s' h'.document) fun _ => True := by
  cases p with
  | create widget c =>
    exact inStep.calm (sound.create_calm widget c) (offstage_listed.create widget c) rfl rfl
  | update id change =>
    exact inStep.calm (sound.update_calm id change) (offstage_listed.update id change) rfl rfl
  | delete widget id =>
    exact inStep.calm (sound.delete_calm widget id) (offstage_listed.delete widget id) rfl rfl
  | restack id layer depth =>
    exact inStep.calm (sound.restack_calm id layer depth)
      (offstage_listed.restack id layer depth) rfl rfl
  | createFrame c => exact inStep.createFrame accounts c
  | updateFrame id g => exact inStep.updateFrame accounts id g
  | deleteFrame id => exact inStep.deleteFrame sound id
  | loadImage id path =>
    exact inStep.calm (loadImage_calm s h id path) (spares_loadImage id path) rfl rfl

lemma inStep_attached (linked : Linked h₀.document) (there : h₀.document.issued mount)
    (unpublished : h₀.document.rootProperties = ∅)
    (run : MemoryHost.serve (Scene.attach mount config) h₀ = .ok (.ok s, h)) :
    InStep [] s h.document := by
  have start : Answers (Scene.attach mount config) h₀
      (fun r h' => ∀ s, r = .ok s → InStep [] s h'.document) fun _ => True := by
    have built := ((Standing.start linked there).addLayer_supplies 0 fun _ => False)
    refine (answers_attach _ _ _).2
      ((Ends.and built (spares_addLayer κ _ _)).mono ?_
        (fun _ _ _ no => no.1.elim) fun _ _ => trivial)
    rintro _ stage h₁ ⟨supplied, containers⟩ _ ⟨⟩
    have calm := supplied.aloof
    have empty : stage.containers = ∅ := containers
    refine ⟨fun id c hc => ?_, fun name value => ?_, calm.clipped fun i l id node hl => ?_⟩
    · dsimp only [Scene.ofStage] at hc
      simp [empty] at hc
    · rw [calm.root, unpublished]
      simp [Publishes, registered]
    · simp [bare] at hl
  unfold Answers at start
  rw [run] at start
  exact start s rfl

/-- The table of frames, the root and the nodes of frames are as the log of a run says. -/
theorem Chronicle.inStep (chronicle : Chronicle mount config h₀ log s h)
    (linked : Linked h₀.document)
    (there : h₀.document.issued mount) (unpublished : h₀.document.rootProperties = ∅) :
    InStep log s h.document := by
  induction chronicle with
  | attached run => exact inStep_attached linked there unpublished run
  | @patched log s s' h h' p result before run inStep =>
    have applied :=
      inStep.apply (before.accounts linked there) (before.history.sound linked there) p
    unfold Ends at applied
    rw [run] at applied
    cases result with
    | ok => exact applied
    | error why => exact applied

/-- The log that patches lead to from a mount, with the scene, if they do. -/
def recounted (mount : NodeId) (config : Config) (h₀ : MemoryHost κ) (ps : List Patch) :
    Option (Log × Scene) :=
  match MemoryHost.serve (Scene.attach mount config) h₀ with
  | .ok (.ok s, h) =>
    match play ps s h with
    | .ok ((results, s), _) => some ((ps.zip results).reverse, s)
    | .error _ => none
  | _ => none

lemma exists_chronicle_of_recounted {ps : List Patch}
    (run : recounted mount config h₀ ps = some (log, s)) :
    ∃ h : MemoryHost κ, Chronicle mount config h₀ log s h := by
  unfold recounted at run
  split at run
  · next start =>
    split at run
    · next played =>
      cases run
      have chronicle := (Chronicle.attached start).play played
      rw [List.append_nil] at chronicle
      exact ⟨_, chronicle⟩
    · cases run
  · cases run

/-- After any run of patches, accepted or refused, on a document whose root carried nothing: the
root carries the clip paths of the frames that were updated since they were created, and nothing
else, and every node of a frame refers to the path of its frame. -/
theorem clip_paths_of_chronicle (reached : Reached h₀.document) (there : h₀.document.issued mount)
    (unpublished : h₀.document.rootProperties = ∅) (chronicle : Chronicle mount config h₀ log s h) :
    (∀ name value : String, h.document.rootProperties[name]? = some value ↔
      Publishes log name value) ∧
    (∀ id, s.containers.contains id = registered log id) ∧
    (∀ (id : UInt32) (c : Container), s.containers[id]? = some c →
      { c with parent := none } = formed (geometries log id)) ∧
    (∀ (i : Nat) (l : Layer) (id : UInt32) (node : OwnedNode), s.layers[i]? = some l →
      l.frames[id]? = some node →
      Refers h.document node.id id) ∧
    Function.Injective rootName := by
  have inStep := chronicle.inStep reached.tidy.linked there unpublished
  have accounts := chronicle.accounts reached.tidy.linked there
  exact ⟨inStep.root, accounts.frames, inStep.frames, inStep.clipped, rootName_injective⟩

/-- A frame was deleted and created again. It carries the path of its only update since, and its
node on a layer refers to it; a frame inside it that was never updated carries none. -/
theorem clip_paths_after_reuse : ∃ (log : Log) (s : Scene) (h : MemoryHost Recorder),
    Chronicle ⟨0⟩ .standard blankPage log s h ∧ (geometries log 1).length = 1 ∧
      h.document.rootProperties["--container-1-clip-path"]? =
        some (formed (geometries log 1)).clipPathCss ∧
      registered log 2 ∧ h.document.rootProperties["--container-2-clip-path"]? = none ∧
      ∃ l node record, s.layers[2]? = some l ∧ l.frames[(1 : UInt32)]? = some node ∧
        h.document.node? node.id = some record ∧
        record.style["clip-path"]? = some "var(--container-1-clip-path)" := by
  have run :
    (recounted ⟨0⟩ .standard blankPage [.createFrame ⟨1, none, 0⟩,
      .updateFrame 1 ⟨some 100, some 50, none⟩, .deleteFrame 1, .createFrame ⟨1, none, 0⟩,
      .createFrame ⟨2, some 1, 0⟩, .updateFrame 3 ⟨some 9, none, none⟩,
      .updateFrame 1 ⟨none, some 30, none⟩, .create .button ⟨7, some 1, 2⟩, .deleteFrame 1]).map
      (fun r =>
        (registered r.1 1, registered r.1 2, (geometries r.1 1).length, (geometries r.1 2).length,
          (r.2.layers[2]?.bind fun l => l.frames[(1 : UInt32)]?).isSome)) =
          some (true, true, 1, 0, true) := by decide +kernel
  obtain ⟨⟨log, s⟩, start, facts⟩ := Option.map_eq_some_iff.1 run
  obtain ⟨first, second, once, never, instantiated⟩ : registered log 1 = true ∧
    registered log 2 = true ∧
      (geometries log 1).length = 1 ∧ (geometries log 2).length = 0 ∧
      (s.layers[2]?.bind fun l => l.frames[(1 : UInt32)]?).isSome = true := by simpa using facts
  obtain ⟨h, chronicle⟩ := exists_chronicle_of_recounted start
  obtain ⟨root, _, _, clipped, injective⟩ :=
    clip_paths_of_chronicle reached_blankPage rfl rfl chronicle
  obtain ⟨node, found⟩ := Option.isSome_iff_exists.1 instantiated
  obtain ⟨l, hl, hn⟩ := Option.bind_eq_some_iff.1 found
  have brought : geometries log 1 ≠ [] := List.ne_nil_of_length_pos (by omega)
  obtain ⟨record, there, clip, _⟩ := clipped 2 l 1 node hl hn
  refine ⟨log, s, h, chronicle, once,
    (root _ _).2 ⟨1, by decide +kernel, first, brought, rfl⟩, second, ?_,
    l, node, record, hl, hn, there, clip.trans (by decide +kernel)⟩
  refine Option.eq_none_iff_forall_ne_some.2 fun value published => ?_
  obtain ⟨i, same, _, updated, _⟩ := (root _ _).1 published
  have second_name : rootName 2 = "--container-2-clip-path" := by decide +kernel
  obtain rfl : (2 : UInt32) = i := injective (second_name.trans same)
  exact updated (List.eq_nil_of_length_eq_zero never)

end Results

end LayeredPage.Proofs
