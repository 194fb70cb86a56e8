import LayeredPage.Proofs.Clipping
import LayeredPage.Proofs.Recycling
import LayeredPage.Proofs.Straying
import LayeredPage.Proofs.Vacating

/-!
# Creations that are rolled back

An element is built before it is known whether there is a place for it. If one of the containers
that should hold it is missing, all its nodes go back to their pools and its sampler is stopped;
what stays are the layers that the stage grew on the way.
-/

namespace LayeredPage.Proofs

open MemoryDocument

/-! ## What a build does beside its nodes -/

/-- What builds ask for: parts, a sampler, and writes to a node that have no effect elsewhere. -/
def Raises : BenchRequest → Prop
  | .addPart .. | .sample .. => True
  | .write _ .observe | .write _ .focus => False
  | .write .. => True
  | _ => False

section Builds

open Craft Styling

lemma raises_call (r : BenchRequest) (raises : Raises r) : Uses Raises (Craft.call r) :=
  ⟨raises, fun _ => trivial⟩

/-- One request, and what comes after it. -/
lemma raises_then {α : Type} {r : BenchRequest} {f : r.Reply → Craft α} (raises : Raises r)
    (next : ∀ reply, Uses Raises (f reply)) :
    Uses Raises (Craft.call r >>= f) := (raises_call r raises).bind next

/-- No build loads a face, observes a size or moves the focus. -/
theorem raises_build (config : Config) (id : UInt32) (widget : Widget) :
    Uses Raises (build config id widget) := by
  cases widget with
  | text | dropdown => exact raises_then trivial fun _ => raises_call (.write _ (.bind _ _)) trivial
  | button =>
    refine raises_then trivial fun _ => raises_then trivial fun _ => raises_then trivial fun _ => ?_
    refine raises_then trivial fun _ => raises_then trivial fun _ => raises_then trivial fun _ => ?_
    exact raises_call (.write _ (.bind _ _)) trivial
  | checkbox | radioSet =>
    refine raises_then trivial fun _ => raises_then trivial fun _ => raises_then trivial fun _ => ?_
    exact raises_then trivial fun _ => raises_call (.write _ (.bind _ _)) trivial
  | textbox =>
    refine raises_then trivial fun _ => raises_then trivial fun _ => raises_then trivial fun _ => ?_
    refine raises_then trivial fun _ => raises_then trivial fun _ => raises_then trivial fun _ => ?_
    exact raises_then trivial fun _ => raises_then (r := .write _ (.bind _ _)) trivial fun _ =>
      raises_call (.write _ (.bind _ _)) trivial
  | slider =>
    refine raises_then trivial fun _ => raises_then trivial fun _ => raises_then trivial fun _ => ?_
    refine raises_then trivial fun _ => raises_then trivial fun _ => raises_then trivial fun _ => ?_
    exact raises_then trivial fun _ => raises_call (.write _ (.bind _ _)) trivial
  | scroller => exact raises_then trivial fun _ => raises_call (.sample _ _) trivial
  | eventBlocker => exact uses_pure _

end Builds

/-- What a build has done beside the nodes of its element: it has started samplers, of which only
the element's may be live. -/
structure Reared (fonts : FontCache) (d₀ : MemoryDocument) (b : Bench) (d : MemoryDocument) :
    Prop where
  fonts : b.fonts = fonts
  notes : b.element.toNotes = .blank
  sizeless : ∀ r, b.element.scroll = some r → r.width = 0 ∧ r.height = 0
  document : ∃ nodes samplers, d = { d₀ with nodes, samplers }
  samplers : ∃ dead : Array MemorySampler, (∀ k ∈ dead, k.live = false) ∧
    match b.element.scroll with
    | none => d.samplers = d₀.samplers ++ dead
    | some region =>
      ∃ k, d.samplers = (d₀.samplers ++ dead).push k ∧
        region.sampler.index = (d₀.samplers ++ dead).size

section Reared

lemma modify_push_last {α : Type} (xs : Array α) (a : α) (f : α → α) :
    (xs.push a).modify xs.size f = xs.push (f a) := by
  refine Array.ext (by simp) fun i _ inside => ?_
  simp only [Array.getElem_modify, Array.getElem_push]
  rw [Array.size_push] at inside
  split <;> split <;> first | rfl | omega

lemma modify_push_before {α : Type} (xs : Array α) (a : α) (f : α → α) {i : Nat}
    (before : i < xs.size) :
    (xs.push a).modify i f = (xs.modify i f).push a := by
  refine Array.ext (by simp) fun j _ inside => ?_
  simp only [Array.getElem_modify, Array.getElem_push, Array.size_modify]
  rw [Array.size_push, Array.size_modify] at inside
  split <;> split <;> first | rfl | omega

/-- The last sampler is stopped. -/
lemma dead_of_stopped (old : Array MemorySampler) {dead : Array MemorySampler}
    (all : ∀ k ∈ dead, k.live = false) (k : MemorySampler) :
    (∀ j ∈ dead.push { k with live := false }, j.live = false) ∧
      ((old ++ dead).push k).modify (old ++ dead).size
        (fun sampler => { sampler with live := false }) =
        old ++ dead.push { k with live := false } := by
  refine ⟨fun j hj => ?_, ?_⟩
  · rcases Array.mem_push.1 hj with hj | rfl
    · exact all j hj
    · rfl
  · rw [modify_push_last, Array.append_push]

variable {κ : Type} {base : Nat} {rest : List OwnedNode} {e₀ : Element}
  {d₀ d₁ d d' : MemoryDocument} {b : Bench}
  {h : MemoryHost κ} {fonts : FontCache} {n : NodeId} {e : Element}

lemma exists_nodes_written {w : NodeWrite} {spot : Spot} (raises : Raises (.write spot w))
    (n : NodeId) (d : MemoryDocument) :
    ∃ nodes, written w n d = { d with nodes } := by
  cases w with
  | observe | focus => cases raises
  | html markup =>
    obtain ⟨nodes, eq, _⟩ := exists_setHtml (d := d) (n := n) markup
    exact ⟨nodes, eq⟩
  | text content =>
    obtain ⟨nodes, eq, _⟩ := exists_setHtml (d := d) (n := n) (Text.escapeData content)
    exact ⟨nodes, eq⟩
  | attr | style | noStyle | linkStyle | form | bind => exact ⟨_, rfl⟩

/-- Work on nodes alone. -/
lemma Reared.nodes (reared : Reared fonts d₁ b d) (same : ∃ nodes, d' = { d with nodes })
    {b' : Bench} (cache : b'.fonts = b.fonts) (notes : b'.element.toNotes = b.element.toNotes)
    (scroll : b'.element.scroll = b.element.scroll) : Reared fonts d₁ b' d' := by
  obtain ⟨nodes, rfl⟩ := same
  obtain ⟨nodes₀, samplers, eq⟩ := reared.document
  refine ⟨cache.trans reared.fonts, notes.trans reared.notes, ?_, ⟨nodes, samplers, by rw [eq]⟩, ?_⟩
  · rw [scroll]
    exact reared.sizeless
  rw [scroll]
  exact reared.samplers

variable [Core κ]

theorem AtWork.perform_raises (work : AtWork base rest e₀ d₀ b h.document)
    (reared : Reared fonts d₁ b h.document) {r : BenchRequest} (raises : Raises r) :
    Yields (Bench.perform r) b h fun _ b' h' => Reared fonts d₁ b' h'.document := by
  cases r with
  | look | note | addOption | clearOptions | html | resizeRegion | useFont => cases raises
  | write spot w =>
    have issued := work.owned.issued_of_known (.inr (mem_held (node_mem b.element spot)))
    refine (ends_bind _ _ _).2
      ((ends_get _).2 ((ends_script _ _).2 ((answers_write w issued).2 ?_)))
    exact reared.nodes (exists_nodes_written raises _ _) rfl rfl rfl
  | addPart parent kind =>
    refine (ends_bind _ _ _).2 ((ends_focus _ _).2 ((work.owned.take_kept kind).ends ?_))
    rintro n ps h' ⟨⟨o, _, blank, _⟩, _, _, nodes, eq⟩
    refine (ends_bind _ _ _).2 ((ends_get _).2 ((ends_bind _ _ _).2 ((ends_ask _ _).2 ?_)))
    have above :=
      o.issued_of_known (.inr (List.mem_cons_of_mem _ (mem_held (node_mem b.element parent))))
    rw [answer_appendChild above (issued_of_node? blank)]
    obtain ⟨nodes', eq', _⟩ :=
      exists_append (d := h'.document) (p := b.element.node parent) (c := n.id)
    exact reared.nodes ⟨nodes', eq'.trans (by rw [eq])⟩ rfl rfl rfl
  | sample tracker interval =>
    obtain ⟨nodes, samplers, eq⟩ := reared.document
    obtain ⟨dead, all, place⟩ := reared.samplers
    have sizeless (i : SamplerId) (r : ScrollRegion) (new : some ⟨i, 0, 0⟩ = some r) :
        r.width = 0 ∧ r.height = 0 := by
      cases new
      exact ⟨rfl, rfl⟩
    refine (ends_bind _ _ _).2 ((ends_get _).2 ((ends_bind _ _ _).2 ((ends_ask _ _).2 ?_)))
    cases hs : b.element.scroll with
    | none =>
      rw [hs] at place
      refine ⟨reared.fonts, reared.notes, sizeless _, ⟨nodes, _, by rw [eq]⟩, dead, all, _,
        congrArg (Array.push · _) place, ?_⟩
      exact congrArg Array.size place
    | some region =>
      rw [hs] at place
      obtain ⟨k, place, index⟩ := place
      -- The sampler that the element had is stopped, and the new one takes its place.
      obtain ⟨all', stop⟩ := dead_of_stopped d₁.samplers all k
      refine ⟨reared.fonts, reared.notes, sizeless _, ⟨nodes, _, by rw [eq]; rfl⟩, _, all',
        ⟨b.element.leaf.id, tracker, true, interval⟩, ?_, ?_⟩
      · change (h.document.samplers.push ⟨b.element.leaf.id, tracker, true, interval⟩).modify
          region.sampler.index
          (fun sampler => { sampler with live := false }) = _
        rw [place, index, modify_push_before _ _ _ (by simp), stop]
      · change h.document.samplers.size = _
        rw [place, ← stop, Array.size_modify]

/-- A build leaves all alone but nodes and samplers. -/
theorem AtWork.carryOut_raises {α : Type} {craft : Craft α}
    (work : AtWork base rest e₀ d₀ b h.document)
    (reared : Reared fonts d₁ b h.document) (uses : Uses Raises craft) :
    Ends (Bench.carryOut craft) b h (fun _ b' h' => Reared fonts d₁ b' h'.document)
    (fun _ _ _ => False) fun _ => False := by
  induction craft generalizing b h with
  | done a => exact reared
  | ask r next ih =>
    refine (ends_bind _ _ _).2 (((work.perform r).and (work.perform_raises reared uses.1)).ends ?_)
    rintro reply b₁ h₁ ⟨work₁, reared₁⟩
    exact ih reply work₁ reared₁ (uses.2 reply)
  | broken why => exact uses

/-- A scroller has its sampler when it is built. -/
lemma AtWork.build_scrolls (work : AtWork base rest e₀ d₀ b h.document) (config : Config)
    (id : UInt32) (widget : Widget) :
    Ends (Bench.carryOut (Craft.build config id widget)) b h (fun _ b' _ => widget = .scroller →
      b'.element.scroll.isSome)
      (fun _ _ _ => True) fun _ => True := by
  cases widget with
  | scroller =>
    refine (ends_bind _ _ _).2 ((work.perform (.addPart .leaf .div)).ends fun _ b₁ h₁ work₁ => ?_)
    refine (ends_bind _ _ _).2
      ((ends_bind _ _ _).2 ((ends_get _).2 ((ends_bind _ _ _).2 ((ends_ask _ _).2 ?_))))
    cases b₁.element.scroll <;> exact fun _ => rfl
  | text | button | checkbox | textbox | slider | dropdown | radioSet | eventBlocker =>
    exact (work.carryOut _).mono (fun _ _ _ _ => nofun) (fun _ _ _ _ => trivial) fun _ _ => trivial

/-- Once its sampler is stopped, no sampler of the element is live. -/
lemma Reared.stopped (reared : Reared fonts d₁ b d) :
    ∃ dead : Array MemorySampler, (∀ k ∈ dead, k.live = false) ∧
      (Proofs.stopped b.element d).samplers = d₁.samplers ++ dead := by
  obtain ⟨dead, all, place⟩ := reared.samplers
  unfold Proofs.stopped
  cases hs : b.element.scroll with
  | none =>
    rw [hs] at place
    exact ⟨dead, all, place⟩
  | some region =>
    rw [hs] at place
    obtain ⟨k, place, index⟩ := place
    obtain ⟨all', stop⟩ := dead_of_stopped d₁.samplers all k
    refine ⟨_, all', ?_⟩
    change d.samplers.modify region.sampler.index
      (fun sampler => { sampler with live := false }) = _
    rw [place, index, stop]

end Reared

/-! ## Growing in vain -/

/-- Layers without containers were put on a stage, and the core got a context for each. -/
structure Heightened {κ : Type} [Core κ] (count : Nat) (s : Stage) (h : MemoryHost κ) (s' : Stage)
    (h' : MemoryHost κ) : Prop where
  stage : ∃ pools surfaces layers, s' = { s with pools, surfaces, layers }
  layers : ∃ new : List Layer, new.length = count ∧ s'.layers = s.layers ++ new.toArray ∧
    ∀ l ∈ new, l.frames = ∅
  surfaces : ∀ i < s.layers.size, s'.surfaces[i]? = s.surfaces[i]?
  core :
    h'.core = (List.range' s.layers.size count).foldl (fun core i => Core.addContext i core) h.core

section Growth

variable {κ : Type} [Core κ] {base layer count count' : Nat} {mount : NodeId}
  {others : List OwnedNode} {s s' s'' : Stage}
  {h h' h'' : MemoryHost κ} {x : Option UInt32} {ids : List UInt32} {lost : UInt32} {n : NodeId}

lemma Heightened.refl (s : Stage) (h : MemoryHost κ) : Heightened 0 s h s h :=
  ⟨⟨_, _, _, rfl⟩, ⟨[], rfl, by simp, nofun⟩, fun _ _ => rfl, rfl⟩

lemma Heightened.size (high : Heightened count s h s' h') :
    s'.layers.size = s.layers.size + count := by
  obtain ⟨new, length, eq, _⟩ := high.layers
  simp [eq, length]

lemma Heightened.trans (first : Heightened count s h s' h')
    (second : Heightened count' s' h' s'' h'') :
    Heightened (count + count') s h s'' h'' := by
  have size := first.size
  obtain ⟨new, length, eq, bare⟩ := first.layers
  obtain ⟨new', length', eq', bare'⟩ := second.layers
  refine ⟨?_, ⟨new ++ new', by simp [length, length'], by simp [eq', eq], fun l hl => ?_⟩,
    fun i inside => ?_, ?_⟩
  · obtain ⟨_, _, _, rfl⟩ := first.stage
    obtain ⟨_, _, _, rfl⟩ := second.stage
    exact ⟨_, _, _, rfl⟩
  · exact (List.mem_append.1 hl).elim (bare l) (bare' l)
  · exact (second.surfaces i (by omega)).trans (first.surfaces i inside)
  · rw [second.core, first.core, size, ← List.foldl_append, List.range'_append_1]

lemma Standing.addLayer_heightens (st : Standing base mount others s h.document) :
    Yields Stage.addLayer s h fun _ s' h' => Heightened 1 s h s' h' := by
  unfold Stage.addLayer
  have free : s.layers.size ∉ s.surfaces :=
    fun inside => absurd ((st.surfaces _).1 inside) (lt_irrefl _)
  refine (ends_bind _ _ _).2 ((ends_get _).2 ((ends_bind _ _ _).2 ((ends_focus _ _).2 ?_)))
  refine ((build_yields st.owned st.mount free).and (build_gains st.owned st.mount free)).ends ?_
  rintro l w h' ⟨built, _, _, core⟩
  refine ⟨⟨_, _, _, rfl⟩, ⟨[l], rfl, ?_, ?_⟩, fun i inside => ?_, core⟩
  · exact Array.push_eq_append
  · simp [built.frames]
  · change w.surfaces[i]? = _
    rw [built.surfaces, Std.ExtTreeMap.getElem?_insert, if_neg]
    exact mt compare_eq_iff_eq.1 (by omega)

theorem Standing.addLayers_heighten (count : Nat) {s : Stage} {h : MemoryHost κ}
    (st : Standing base mount others s h.document) :
    Yields (Stage.addLayers count) s h fun _ s' h' => Heightened count s h s' h' := by
  induction count generalizing s h with
  | zero => exact .refl s h
  | succ count ih =>
    refine (ends_bind _ _ _).2 ((st.addLayer.and st.addLayer_heightens).ends ?_)
    rintro _ s₁ h₁ ⟨⟨grown, _⟩, one⟩
    refine (ih grown.standing).ends fun _ s₂ h₂ more => ?_
    rw [Nat.add_comm]
    exact one.trans more

lemma Standing.growTo_heightens (st : Standing base mount others s h.document) (top : UInt32) :
    Yields (Stage.growTo top) s h fun _ s' h' =>
      Heightened (top.toNat + 1 - s.layers.size) s h s' h' :=
  (ends_bind _ _ _).2 ((ends_get _).2 (st.addLayers_heighten _))

/-- Where the way up gets lost the stage grows to the layer, and no container gets a node. -/
theorem Standing.addElement_strays {layer : UInt32} (st : Standing base mount others s h.document)
    (acyclic : Acyclic s.containers) (strays : Strays s.containers x ids lost) :
    Ends (Stage.addElement n x layer) s h (fun _ _ _ => False)
      (fun why s' h' => why = .unknownContainer lost ∧
        Grew base mount others layer.toNat (fun _ => False) s h.document s' h'.document ∧
        Heightened (layer.toNat + 1 - s.layers.size) s h s' h')
      fun _ => False := by
  unfold Stage.addElement
  have grows :=
    (st.growTo_supplies layer layer.toNat fun _ => False).and (st.growTo_heightens layer)
  refine (ends_bind _ _ _).2 (grows.ends ?_)
  rintro _ s₁ h₁ ⟨⟨grew, size⟩, high⟩
  have inside : layer.toNat < s₁.layers.size := by omega
  rw [← grew.1.containers] at acyclic strays
  refine (ends_bind _ _ _).2
    ((grew.1.standing.attachPoint_strays inside acyclic strays).mono
      (fun _ _ _ => False.elim) ?_ fun _ => id)
  rintro _ _ _ ⟨rfl, rfl, rfl⟩
  exact ⟨rfl, grew, high⟩

/-- On layers that are new nothing but a canvas and an overlay is, right below the mount; all other
nodes keep their records. -/
lemma Grew.in_vain
    (grew : Grew base mount others layer (fun _ => False) s h.document s' h'.document)
    (high : Heightened count s h s' h') (st : Standing base mount others s h.document) {m : NodeId}
    (hm : Known base (stageNodes s ++ others) m) :
    ∃ new, h'.document.node? m = (h.document.node? m).map (regrouped (· ++ new)) ∧
      (new ≠ [] → m = mount) ∧ ∀ c ∈ new, ∃ (i : Nat) (l : Layer), s.layers.size ≤ i ∧
        s'.layers[i]? = some l ∧
        (c = l.canvas.id ∨ c = l.overlay.id) := by
  obtain ⟨new, eq, strange⟩ := grew.records_of_stage st hm
  have st' := grew.1.standing
  have places (c) (hc : c ∈ new) : ∃ (i : Nat) (l : Layer), s.layers.size ≤ i ∧
    s'.layers[i]? = some l ∧
      (c = l.canvas.id ∨ c = l.overlay.id) := by
    obtain ⟨unknown, inside⟩ := strange c hc
    obtain ⟨o, ho, rfl⟩ := List.mem_map.1 inside
    obtain ⟨i, l', hl', own⟩ := mem_stageNodes.1 ho
    have fresh (i : Nat) (l : Layer) (hl : s.layers[i]? = some l) : o ∉ layerNodes l := fun old =>
      unknown (.beside (.inr (List.mem_map_of_mem (mem_stageNodes.2 ⟨i, l, hl, old⟩))) _)
    rcases Nat.lt_or_ge i s.layers.size with old | above
    · obtain ⟨_, _, layers, _⟩ := high.layers
      rw [layers, Array.getElem?_append_left old] at hl'
      exact absurd own (fresh i l' hl')
    · rcases mem_layerNodes.1 own with rfl | rfl | ⟨id, found⟩
      · exact ⟨i, l', above, hl', .inl rfl⟩
      · exact ⟨i, l', above, hl', .inr rfl⟩
      · rcases grew.2.frames i l' id o hl' found with ⟨l, hl, old⟩ | ⟨_, no, _⟩
        · exact absurd (mem_layerNodes.2 (.inr (.inr ⟨id, old⟩))) (fresh i l hl)
        · exact no.elim
  refine ⟨new, eq, fun some_new => ?_, places⟩
  obtain ⟨c, hc⟩ := List.exists_mem_of_ne_nil new some_new
  obtain ⟨node, found⟩ := issued_iff.1 (st.owned.issued_of_known hm)
  rw [found, Option.map_some] at eq
  have parent : h'.document.parent? c = some m := by
    rw [← st'.owned.linked, children_of_node? eq]
    exact List.mem_append_right _ hc
  obtain ⟨i, l, _, hl, spot⟩ := places c hc
  obtain ⟨_, _, canvas, overlay⟩ := st'.layers i l hl
  rw [st'.mounted] at canvas overlay
  rcases spot with rfl | rfl
  · exact Option.some.inj (parent.symm.trans canvas)
  · exact Option.some.inj (parent.symm.trans overlay)

end Growth

/-! ## Going back to the pools -/

/-- No node is observed or has the focus but these. -/
structure Attended (K : NodeId → Prop) (d : MemoryDocument) : Prop where
  observed : ∀ i ∈ d.observed, K ⟨i⟩
  focused : ∀ n, d.focused = some n → K n

section Return

variable {κ : Type} [Core κ] {base : Nat} {mount : NodeId} {h : MemoryHost κ}
  {e : Element} {ps : NodePools} {elements : Std.ExtTreeMap UInt32 Element}
  {K : NodeId → Prop} {d : MemoryDocument} {ns : List NodeId}

lemma putAll_restocks (nodes : List OwnedNode) {ps : NodePools} {h : MemoryHost κ}
    (stocked : Stocked true ps) (issued : ∀ n ∈ nodes, h.document.issued n.id) :
    Yields (nodes.forM fun node => Pools.put node.kind node : Work NodePools Unit)
      ps h fun _ ps' h' =>
      Stocked true ps' ∧ Restocked nodes ps ps' ∧
      h' = { h with document := emptied (nodes.map (·.id)) h.document } := by
  induction nodes generalizing ps h with
  | nil => exact ⟨stocked, fun _ => ⟨rfl, rfl⟩, rfl⟩
  | cons n nodes ih =>
    refine (ends_bind _ _ _).2 ((put_restocks stocked (issued n List.mem_cons_self)).ends ?_)
    rintro _ ps₁ h₁ ⟨stocked₁, restocked, rfl⟩
    refine (ih stocked₁ fun m hm => ?_).ends ?_
    · rw [issued_reset]
      exact issued m (List.mem_cons_of_mem _ hm)
    · rintro _ ps₂ h₂ ⟨stocked₂, restocked₂, rfl⟩
      exact ⟨stocked₂, restocked.trans restocked₂, rfl⟩

lemma issued_emptied {n : NodeId} : (emptied ns d).issued n = d.issued n := by
  unfold emptied
  induction ns generalizing d with
  | nil => rfl
  | cons m ns ih => exact ih.trans issued_reset

/-- The nodes of an element in the order in which they go back. -/
def returned (e : Element) : List OwnedNode := e.options.reverse ++ e.parts.reverse ++ [e.leaf]

lemma mem_returned {n : OwnedNode} : n ∈ returned e ↔ n ∈ e.nodes := by
  simp only [returned, Element.nodes, Element.fittings, List.mem_append, List.mem_reverse,
    List.mem_cons, List.not_mem_nil]
  tauto

/-- An element whose size is not observed lets go of its sampler, and then its nodes go back. -/
lemma AtHand.release_restocks {s : Scene} (hand : AtHand base mount s.toStage elements e h.document)
    (unobserved : e.observed = false) :
    Yields (Scene.release e) s h fun _ s' h' => ∃ ps, s' = { s with pools := ps } ∧
      Restocked (returned e) s.pools ps ∧
      h' = { h with document := emptied ((returned e).map (·.id)) (stopped e h.document) } := by
  have back {h₁ : MemoryHost κ} (eq : h₁ = { h with document := stopped e h.document }) :
      Yields (Scene.onPools (Proofs.handBack e)) s h₁ fun _ s' h' => ∃ ps,
      s' = { s with pools := ps } ∧
        Restocked (returned e) s.pools ps ∧
        h' = { h with document := emptied ((returned e).map (·.id)) (stopped e h.document) } := by
    subst eq
    have known (n) (hn : n ∈ e.nodes) : (stopped e h.document).issued n.id := by
      have issued := hand.owned.issued_of_known (.inr (mem_held (List.mem_map_of_mem hn)))
      rwa [MemoryDocument.issued, nodes_stopped]
    have option (n) (hn : n ∈ e.options.reverse) : n ∈ e.nodes :=
      mem_returned.1 (by simp [returned, List.mem_reverse.1 hn])
    have part (n) (hn : n ∈ e.parts.reverse) : n ∈ e.nodes :=
      mem_returned.1 (by simp [returned, List.mem_reverse.1 hn])
    refine (ends_onStage _ _ _).2 ((ends_onPools _ _ _).2 ((ends_bind _ _ _).2 ?_))
    refine (putAll_restocks _ hand.stage.owned.stocked fun n hn => known n (option n hn)).ends ?_
    rintro _ ps₁ h₁ ⟨stocked₁, first, rfl⟩
    refine (ends_bind _ _ _).2
      ((putAll_restocks _ stocked₁ fun n hn => issued_emptied.trans (known n (part n hn))).ends ?_)
    rintro _ ps₂ h₂ ⟨stocked₂, second, rfl⟩
    refine (put_restocks stocked₂
      (issued_emptied.trans (issued_emptied.trans (known e.leaf List.mem_cons_self)))).ends ?_
    rintro _ ps₃ h₃ ⟨_, third, rfl⟩
    refine ⟨ps₃, rfl, (first.trans second).trans third, ?_⟩
    rw [returned, List.map_append, List.map_append, emptied_append, emptied_append]
    rfl
  unfold Scene.release
  rw [unobserved]
  refine (ends_bind _ _ _).2 ?_
  cases hs : e.scroll with
  | none => exact back (by rw [stopped, hs])
  | some region => exact (ends_ask _ _).2 (back (by rw [stopped, hs]))

/-- Nodes that nobody attends to go back unnoticed. -/
lemma Attended.emptied (attended : Attended K d) (strange : ∀ n ∈ ns, ¬ K n) :
    ∃ nodes, emptied ns d = { d with nodes } := by
  obtain ⟨nodes, observed, focused, eq, watched, focus⟩ := exists_emptied ns d
  refine ⟨nodes, ?_⟩
  have same : observed = d.observed := by
    refine Std.ExtTreeSet.ext_mem fun i =>
      (watched i).trans (and_iff_left_of_imp fun inside gone => ?_)
    obtain ⟨n, hn, rfl⟩ := List.mem_map.1 gone
    exact strange n hn (attended.observed _ inside)
  have still : focused = d.focused := by
    rw [focus]
    cases there : d.focused with
    | none => rfl
    | some n =>
      exact Option.filter_eq_some_iff.2
        ⟨rfl, decide_eq_true fun gone => strange n gone (attended.focused n there)⟩
  rw [eq, same, still]

end Return

/-! ## Creations -/

/-- The stage may have grown by layers without containers, each with its context; all else is as it
was. The nodes that were there keep their records, but that the mount got the new layers. Any node
that is neither of the stage nor of an element waits on its shelf in its empty state. No node is
observed, focused or heard that was not, and samplers that were started are stopped. -/
structure RolledBack {κ : Type} [Core κ] (base : Nat) (count : Nat) (s : Scene)
    (h : MemoryHost κ) (s' : Scene) (h' : MemoryHost κ) : Prop where
  scene : s' = { s with pools := s'.pools, surfaces := s'.surfaces, layers := s'.layers }
  grown : Heightened count s.toStage h s'.toStage h'
  records : ∀ m, Known base (stageNodes s.toStage ++ elementNodes s.elements) m → m ≠ s.mount →
    h'.document.node? m = h.document.node? m
  mount : ∃ new, h'.document.node? s.mount = (h.document.node? s.mount).map (regrouped (· ++ new)) ∧
    ∀ c ∈ new, ∃ (i : Nat) (l : Layer), s.layers.size ≤ i ∧ s'.layers[i]? = some l ∧
      (c = l.canvas.id ∨ c = l.overlay.id)
  shelved : ∀ m : NodeId, h'.document.issued m →
    ¬ Known base (stageNodes s'.toStage ++ elementNodes s.elements) m →
    ∃ n ∈ shelf s'.pools n.kind, n.id = m ∧ h'.document.node? m = some (.fresh n.kind)
  document : ∃ nodes samplers, h'.document = { h.document with nodes, samplers }
  samplers : ∃ dead : Array MemorySampler, h'.document.samplers = h.document.samplers ++ dead ∧
    ∀ k ∈ dead, k.live = false

/-- An element that no update has reached: it remembers nothing, and if it scrolls it has no outer
size. -/
structure Pristine (e : Element) : Prop where
  notes : e.toNotes = .blank
  region : e.widget = .scroller → ∃ r, e.scroll = some r ∧ r.width = 0 ∧ r.height = 0

/-- A new element is in the table as it was built, and the other elements do not notice. -/
structure Joined {κ : Type} (widget : Widget) (id : UInt32) (s : Scene) (h : MemoryHost κ)
    (s' : Scene) (h' : MemoryHost κ) : Prop where
  elements : ∃ e, e.widget = widget ∧ Pristine e ∧ s'.elements = s.elements.insert id e
  containers : s'.containers = s.containers
  others : Unaffected id s s' h.document h'.document

/-- An element was built, and has no place yet. -/
structure Assembled {κ : Type} (base : Nat) (mount : NodeId) (widget : Widget) (c : Creation)
    (s : Scene) (h : MemoryHost κ) (b : Bench) (h' : MemoryHost κ) : Prop where
  hand : AtHand base mount { s.toStage with pools := b.pools } s.elements b.element h'.document
  widget : b.element.widget = widget
  frame : b.element.frame = c.frame
  layer : b.element.layer = c.layer
  alone : h'.document.parent? b.element.leaf.id = none
  kept : Kept (Known base (stageNodes s.toStage ++ elementNodes s.elements)) h.document h'.document
  reared : Reared s.fonts h.document b h'.document
  scrolls : b.element.widget = .scroller → b.element.scroll.isSome
  core : h'.core = h.core

section Creations

variable {κ : Type} [Core κ] {base : Nat} {mount : NodeId} {s : Scene} {h h₁ h₂ : MemoryHost κ}
  {widget : Widget} {c : Creation}
  {b : Bench} {stage : Stage} {needed : UInt32 → Prop} {layer count : Nat}

/-- Creating is building an element and then looking for a place, and what comes of building is
known then. -/
lemma Sound.assemble_with (sound : Sound base mount s h) (widget : Widget)
    (new : s.elements[c.id]? = none) (built : Bench → MemoryHost κ → Prop)
    (build : ∀ (leaf : OwnedNode) (ps : NodePools) (h' : MemoryHost κ),
      AtHand base mount { s.toStage with pools := ps } s.elements
        (.start widget leaf c) h'.document →
      (∃ nodes, h'.document = { h.document with nodes }) →
      h'.document.node? leaf.id = some (marked c.id) →
      Ends (Bench.carryOut (Craft.build s.config c.id widget)) ⟨ps, s.fonts, .start widget leaf c⟩
        h' (fun _ b h' => built b h')
        (fun _ _ _ => True) fun _ => True)
    {post : Unit → Scene → MemoryHost κ → Prop}
    {refused : PatchError → Scene → MemoryHost κ → Prop} {breach : Breach → Prop}
    (next : ∀ b h', Assembled base mount widget c s h b h' → built b h' →
      Ends (Stage.addElement b.element.leaf.id c.frame c.layer)
      { s.toStage with pools := b.pools } h'
        (fun _ stage h' =>
          post () { s with toStage := stage, elements := s.elements.insert c.id b.element } h')
        (fun why stage h' => Ends (Scene.release b.element) { s with toStage := stage } h'
          (fun _ s' h' => refused why s' h') (fun why s' h' => refused why s' h') breach)
        breach) :
    Ends (Scene.create widget c) s h post refused breach := by
  have unknown : s.elements.contains c.id = false := by
    rw [Std.ExtTreeMap.contains_eq_isSome_getElem?, new]
    rfl
  unfold Scene.create
  refine (ends_bind _ _ _).2 ((ends_get _).2 ?_)
  rw [unknown]
  refine sound.begun_kept widget c fun leaf ps h₃ hand kept document alone record core => ?_
  have started : Reared s.fonts h.document ⟨ps, s.fonts, .start widget leaf c⟩ h₃.document := by
    obtain ⟨nodes, eq⟩ := document
    exact ⟨rfl, rfl, nofun, ⟨nodes, _, eq⟩, #[], nofun, by rw [eq]; exact Array.append_empty.symm⟩
  refine (ends_bind _ _ _).2 ((ends_get _).2 ((ends_bind _ _ _).2 ((ends_atBench _ _ _ _).2 ?_)))
  have work := hand.atWork s.fonts
  have reared := work.carryOut_raises started (raises_build s.config c.id widget)
  refine (((hand.carryOut s.fonts _).and (work.carryOut_discreet _)).and
    ((reared.and (work.build_scrolls s.config c.id widget)).and
      (build leaf ps h₃ hand document record))).mono ?_ (fun _ _ _ no => no.2.1.1.elim)
      fun _ no => no.2.1.1.elim
  rintro _ b h₄ ⟨⟨⟨hand₄, _, same_widget, same_leaf, same_frame, same_layer⟩, work₄, discreet⟩,
    ⟨reared, scrolls⟩, built⟩
  have assembled : Assembled base mount widget c s h b h₄ := by
    refine ⟨hand₄, same_widget, same_frame, same_layer, ?_, kept.trans fun m hm =>
      discreet.records m hm, reared,
      fun scroller => scrolls (same_widget.symm.trans scroller), discreet.core.trans core⟩
    rw [same_leaf, work₄.settled _ (.inr (.inl rfl))]
    exact alone
  have leaf_id : leaf.id = b.element.leaf.id := by rw [same_leaf]; rfl
  rw [leaf_id]
  refine (ends_bind _ _ _).2
    ((ends_outcome _ _).2 ((ends_bind _ _ _).2 ((ends_onStage _ _ _).2 ?_)))
  refine (next b h₄ assembled built).mono ?_ ?_ fun _ => id
  · intro _ stage h₅ accepted
    rw [reared.fonts]
    exact accepted
  · intro why stage h₅ back
    rw [reared.fonts]
    exact (ends_bind _ _ _).2
      (back.mono (fun _ _ _ done => done) (fun _ _ _ done => done) fun _ => id)

lemma Sound.assemble (sound : Sound base mount s h) (widget : Widget)
    (new : s.elements[c.id]? = none) {post : Unit → Scene → MemoryHost κ → Prop}
    {refused : PatchError → Scene → MemoryHost κ → Prop} {breach : Breach → Prop}
    (next : ∀ b h', Assembled base mount widget c s h b h' →
      Ends (Stage.addElement b.element.leaf.id c.frame c.layer)
      { s.toStage with pools := b.pools } h'
        (fun _ stage h' =>
          post () { s with toStage := stage, elements := s.elements.insert c.id b.element } h')
        (fun why stage h' => Ends (Scene.release b.element) { s with toStage := stage } h'
          (fun _ s' h' => refused why s' h') (fun why s' h' => refused why s' h') breach)
        breach) :
    Ends (Scene.create widget c) s h post refused breach := by
  refine sound.assemble_with widget new (fun _ _ => True) (fun leaf ps h' hand _ _ => ?_)
    fun b h' assembled _ => next b h' assembled
  exact ((hand.carryOut s.fonts _).mono (fun _ _ _ _ => trivial)
    (fun _ _ _ _ => trivial) fun _ _ => trivial)

omit [Core κ] in
lemma Assembled.pristine (assembled : Assembled base mount widget c s h b h₁) :
    Pristine b.element := by
  refine ⟨assembled.reared.notes, fun scroller => ?_⟩
  obtain ⟨r, hr⟩ := Option.isSome_iff_exists.1 (assembled.scrolls scroller)
  exact ⟨r, hr, assembled.reared.sizeless r hr⟩

omit [Core κ] in
/-- The others do not notice that the element gets its place. -/
lemma Assembled.joined (assembled : Assembled base mount widget c s h b h₁)
    (new : s.elements[c.id]? = none) {d : MemoryDocument} {place : NodeId}
    (grew : Grew base mount (b.element.nodes ++ elementNodes s.elements) layer needed
      { s.toStage with pools := b.pools }
      h₁.document stage d) (inside : place ∈ (stageNodes stage).map (·.id))
      (hung : h₂.document = d.append place b.element.leaf.id) :
    Joined widget c.id s h
      { s with toStage := stage, elements := s.elements.insert c.id b.element } h₂ := by
  have st := grew.1.standing
  have leaf : b.element.leaf.id ∈ (b.element.nodes ++ elementNodes s.elements).map (·.id) :=
    List.mem_cons_self
  have alone : d.parent? b.element.leaf.id = none :=
    (grew.1.kept _ (.behind (.inr leaf) _)).trans assembled.alone
  obtain ⟨nodes, samplers, reared⟩ := assembled.reared.document
  obtain ⟨nodes', supplied⟩ := grew.2.document
  obtain ⟨nodes'', appended, _⟩ := exists_append (d := d) (p := place) (c := b.element.leaf.id)
  refine ⟨⟨b.element, assembled.widget, assembled.pristine, rfl⟩, grew.1.containers,
    .of_kept (fun j other => getElem?_insert_of_ne other) (fun m hm => ?_)
    fun m _ => ?_⟩
  · rw [erase_of_new new] at hm
    have held : m ∈ (b.element.nodes ++ elementNodes s.elements).map (·.id) := by
      rw [List.map_append]
      exact List.mem_append_right _ hm
    have apart : m ≠ place := fun same => st.apart held (.inr (same ▸ inside))
    have other : m ≠ b.element.leaf.id :=
      fun same => st.notMem_others hm (same ▸ List.mem_cons_self)
    rw [hung,
      node?_append_of_absent st.owned.linked (notMem_children_of_alone st.owned.linked alone) other,
      if_neg apart]
    simp only [List.append_nil]
    rw [map_regrouped_id, grew.records_of_others held]
    exact assembled.kept m (.behind (.inr hm) _)
  · rw [hung, appended, supplied, reared]

omit [Core κ] in
/-- What is neither known nor held waits on its shelf. -/
lemma Owned.shelved_of_strange {ps : NodePools} {mine : List OwnedNode} {d : MemoryDocument}
    {m : NodeId} (o : Owned base ps mine d)
    (issued : d.issued m) (strange : ¬ Known base mine m) : ∃ n ∈ shelf ps n.kind, n.id = m ∧
      d.node? m = some (.fresh n.kind) := by
  obtain ⟨n, hn, rfl⟩ :=
    List.mem_map.1 (o.mem_iff.2 ⟨Nat.le_of_not_lt fun foreign => strange (.inl foreign), issued⟩)
  rcases List.mem_append.1 hn with waiting | held
  · obtain ⟨kind, _, there⟩ := List.mem_flatMap.1 waiting
    rw [← o.sorted kind n there] at there
    exact ⟨n, there, rfl, o.fresh n waiting⟩
  · exact absurd (.inr (List.mem_map_of_mem held)) strange

lemma exists_stopped (e : Element) (d : MemoryDocument) :
    ∃ samplers, stopped e d = { d with samplers } := by
  unfold stopped
  split <;> exact ⟨_, rfl⟩

omit [Core κ] in
/-- An element that hangs nowhere takes no tie to others with it. -/
lemma Assembled.released (assembled : Assembled base mount widget c s h b h₁)
    (grew : Grew base mount (b.element.nodes ++ elementNodes s.elements) layer needed
      { s.toStage with pools := b.pools }
      h₁.document stage h₂.document) {t t' : Scene} {h' : MemoryHost κ}
    (dropped : Dropped (Known base (stageNodes stage ++ elementNodes s.elements))
      b.element t h₂ t' h') :
    Kept (Known base (stageNodes stage ++ elementNodes s.elements)) h₂.document h'.document := by
  have hand : AtHand base mount stage s.elements b.element h₂.document :=
    assembled.hand.grown grew.1
  refine dropped.records.kept grew.1.standing.owned.linked fun m hm => ⟨hm, fun c hc above => ?_⟩
  rcases List.mem_cons.1 hc with rfl | below
  · have alone := grew.1.kept _ (.behind (.inr List.mem_cons_self) _)
    rw [alone, assembled.alone] at above
    cases above
  · exact hand.owned.strange ((hand.family c m above).2 below) hm rfl

/-- Without a place the element is given back, and nothing is left of it. -/
lemma Assembled.rollBack (assembled : Assembled base mount widget c s h b h₁)
    (attended : Attended (Known base (stageNodes s.toStage ++ elementNodes s.elements)) h.document)
    (grew : Grew base mount (b.element.nodes ++ elementNodes s.elements) layer
      (fun _ => False) { s.toStage with pools := b.pools }
      h₁.document stage h₂.document)
    (high : Heightened count { s.toStage with pools := b.pools } h₁ stage h₂) :
    Yields (Scene.release b.element) { s with toStage := stage } h₂ fun _ s' h' =>
      RolledBack base count s h s' h' := by
  let K := Known base (stageNodes s.toStage ++ elementNodes s.elements)
  have st := grew.1.standing
  have hand : AtHand base mount stage s.elements b.element h₂.document :=
    assembled.hand.grown grew.1
  have strange (n) (hn : n ∈ (returned b.element).map (·.id)) : ¬ K n := by
    intro known
    obtain ⟨o, ho, rfl⟩ := List.mem_map.1 hn
    refine assembled.hand.owned.strange (List.mem_map_of_mem (mem_returned.1 ho)) known rfl
  refine ((AtHand.release_restocks (s := { s with toStage := stage }) hand
    (congrArg Notes.observed assembled.reared.notes)).and
    ((AtHand.release (s := { s with toStage := stage }) hand).and
      (AtHand.release_returns (s := { s with toStage := stage }) hand))).ends ?_
  rintro _ s' h' ⟨⟨ps, rfl, restocked, rfl⟩, ⟨ps', same, order⟩, dropped⟩
  obtain rfl : ps = ps' := congrArg (fun s : Scene => s.pools) same
  have still := assembled.released grew dropped
  have remembered (m) (hm : K m) :
      K m ∧ Known base (stageNodes stage ++ elementNodes s.elements) m ∧
        Known base
          (stageNodes { s.toStage with pools := b.pools } ++
          (b.element.nodes ++ elementNodes s.elements)) m := by
    refine ⟨hm, grew.1.ext.known hm, hm.imp_right fun held => ?_⟩
    rw [List.map_append, List.mem_append] at held ⊢
    exact held.imp_right fun own => List.map_append ▸ List.mem_append_right _ own
  have record (m) (hm : K m) :
      ∃ new, (emptied ((returned b.element).map (·.id)) (stopped b.element h₂.document)).node? m =
        (h.document.node? m).map (regrouped (· ++ new)) ∧ (new ≠ [] → m = mount) ∧ ∀ c ∈ new,
        ∃ (i : Nat) (l : Layer),
          s.layers.size ≤ i ∧ stage.layers[i]? = some l ∧ (c = l.canvas.id ∨ c = l.overlay.id) := by
    obtain ⟨_, after, before⟩ := remembered m hm
    rw [still m after, ← assembled.kept m hm]
    exact grew.in_vain high assembled.hand.stage before
  obtain ⟨nodes, samplers, reared⟩ := assembled.reared.document
  obtain ⟨nodes', supplied⟩ := grew.2.document
  have reared₂ : Reared s.fonts h.document b h₂.document :=
    assembled.reared.nodes ⟨nodes', supplied⟩ rfl rfl rfl
  obtain ⟨dead, all, halted⟩ := reared₂.stopped
  obtain ⟨samplers', paused⟩ := exists_stopped b.element h₂.document
  have before :
      stopped b.element h₂.document =
        { h.document with nodes := nodes', samplers := samplers' } := by
    rw [paused, supplied, reared]
  have attended₂ : Attended K (stopped b.element h₂.document) := by
    rw [before]
    exact ⟨attended.observed, attended.focused⟩
  obtain ⟨nodes'', back⟩ := attended₂.emptied strange
  refine ⟨?_, ?_, fun m hm other => ?_, ?_, fun m issued unknown => ?_,
    ⟨nodes'', samplers', ?_⟩, dead, ?_, all⟩
  · obtain ⟨pools, surfaces, layers, eq⟩ := high.stage
    rw [eq]
  · obtain ⟨pools, surfaces, layers, eq⟩ := high.stage
    exact ⟨⟨_, _, _, by rw [eq]⟩, high.layers, high.surfaces,
      high.core.trans (by rw [assembled.core])⟩
  · obtain ⟨new, eq, only, _⟩ := record m hm
    have none : new = [] := by
      by_contra some_new
      exact other ((only some_new).trans assembled.hand.stage.mounted.symm)
    rw [eq, none]
    simp only [List.append_nil]
    exact map_regrouped_id _
  · obtain ⟨new, eq, _, spots⟩ := record s.mount (.inl assembled.hand.stage.mount)
    exact ⟨new, eq, spots⟩
  · exact order.stage.owned.shelved_of_strange issued unknown
  · rw [back, before]
  · rw [← halted, back]

/-- Whether it finds its place or not, a new element leaves the others alone. -/
theorem Sound.create_alone (sound : Sound base mount s h) (widget : Widget)
    (new : s.elements[c.id]? = none) :
    Ends (Scene.create widget c) s h (fun _ s' h' => Joined widget c.id s h s' h')
      (fun _ s' h' => Unaffected c.id s s' h.document h'.document ∧ s'.elements = s.elements ∧
        ¬ ∃ ids, Line s.containers c.frame ids)
      fun _ => ¬ ∃ ids, Line s.containers c.frame ids := by
  refine sound.assemble widget new fun b h₁ assembled => ?_
  have leaf : b.element.leaf.id ∈ (b.element.nodes ++ elementNodes s.elements).map (·.id) :=
    List.mem_cons_self
  have st := assembled.hand.stage
  refine (Ends.and (st.addElement_supplies leaf c.frame) (st.addElement leaf c.frame)).mono ?_
    ?_ fun _ no => no.2.2
  · rintro _ stage h₂ ⟨⟨_, place, d, there, grew, hung⟩, _⟩
    exact assembled.joined new grew (target?_mem there) hung
  · rintro why stage h₂ ⟨grew, _, _, no⟩
    have hand : AtHand base mount stage s.elements b.element h₂.document :=
      assembled.hand.grown grew.1
    refine (AtHand.release_returns (s := { s with toStage := stage }) hand).ends ?_
    rintro _ s' h' dropped
    have still := assembled.released grew dropped
    obtain ⟨nodes, samplers, reared⟩ := assembled.reared.document
    obtain ⟨nodes', supplied⟩ := grew.2.document
    obtain ⟨pools, rfl⟩ := dropped.scene
    refine ⟨.of_kept (fun _ _ => rfl) (fun m hm => ?_) (fun m hm => ?_), rfl, no⟩ <;>
      rw [erase_of_new new] at hm
    · have held : m ∈ (b.element.nodes ++ elementNodes s.elements).map (·.id) :=
        List.map_append ▸ List.mem_append_right _ hm
      rw [still m (.behind (.inr hm) _), grew.records_of_others held]
      exact assembled.kept m (.behind (.inr hm) _)
    · rw [dropped.observed m (.behind (.inr hm) _), supplied, reared]

/-- An element whose containers are all there is created. -/
theorem Sound.create_joins (sound : Sound base mount s h) (widget : Widget)
    (new : s.elements[c.id]? = none) {ids : List UInt32} (line : Line s.containers c.frame ids) :
    Yields (Scene.create widget c) s h fun _ s' h' => Joined widget c.id s h s' h' :=
  (sound.create_alone widget new).mono (fun _ _ _ joined => joined)
    (fun _ _ _ no => no.2.2 ⟨ids, line⟩) fun _ no => no ⟨ids, line⟩

/-- An element with a container missing above it is built, and given back. -/
theorem Sound.create_rollsBack (sound : Sound base mount s h) (widget : Widget)
    (new : s.elements[c.id]? = none)
    (attended : Attended (Known base (stageNodes s.toStage ++ elementNodes s.elements)) h.document)
    (acyclic : Acyclic s.containers) {ids : List UInt32} {lost : UInt32}
    (strays : Strays s.containers c.frame ids lost) :
    Ends (Scene.create widget c) s h (fun _ _ _ => False)
      (fun why s' h' => why = .unknownContainer lost ∧
        RolledBack base (c.layer.toNat + 1 - s.layers.size) s h s' h')
      fun _ => False := by
  refine sound.assemble widget new fun b h₁ assembled => ?_
  refine (assembled.hand.stage.addElement_strays acyclic strays).mono
    (fun _ _ _ => False.elim) ?_ fun _ => id
  rintro _ stage h₂ ⟨rfl, grew, high⟩
  exact (assembled.rollBack attended grew high).mono (fun _ _ _ back => ⟨rfl, back⟩)
    (fun _ _ _ => False.elim) fun _ => id

omit [Core κ] in
/-- Samplers that were stopped are not counted. -/
lemma liveSamplers_of_dead {d d' : MemoryDocument} {dead : Array MemorySampler}
    (eq : d'.samplers = d.samplers ++ dead)
    (all : ∀ k ∈ dead, k.live = false) : d'.liveSamplers = d.liveSamplers := by
  have none_live : dead.toList.filter (·.live) = [] := List.filter_eq_nil_iff.2 fun k hk => by
    simp [all k (Array.mem_toList_iff.1 hk)]
  rw [liveSamplers, eq, Array.toList_append, List.filter_append, none_live,
    List.append_nil, liveSamplers]

end Creations

/-! ## After any history -/

section Histories

variable {κ : Type} [Core κ] {mount : NodeId} {config : Config} {h₀ h : MemoryHost κ} {s : Scene}
  {c : Creation} {widget : Widget}

/-- A history has a twin that hands no node out twice. -/
lemma History.alike (history : History mount config h₀ s h) (reached : Reached h₀.document)
    (there : h₀.document.issued mount) :
    ∃ s' h', Alike h₀.document.nodes.size s h s' h' := by
  induction history with
  | attached run =>
    have both := attach_alike reached.tidy there config
    change MemoryHost.serve (Scene.attachWith .complete mount config) h₀ = _ at run
    rw [run] at both
    cases both with
    | broken no => cases no
    | results run' _ alike =>
      cases run'
      obtain ⟨s, s', same, _, _, alike⟩ := alike
      cases same
      exact ⟨s', _, alike⟩
  | @patched _ _ _ _ p _ before run ih =>
    obtain ⟨s', h', f, twins⟩ := ih
    have both := twins.patched (before.sound reached.tidy.linked there) p
    rw [run] at both
    cases both with
    | broken no => cases no
    | results run' _ alike =>
      cases run'
      exact ⟨_, _, alike.2.2⟩

/-- No node waits on a shelf and is still observed, or has the focus. -/
lemma History.attended (history : History mount config h₀ s h) (reached : Reached h₀.document)
    (there : h₀.document.issued mount) :
    Attended
      (Known h₀.document.nodes.size (stageNodes s.toStage ++ elementNodes s.elements))
        h.document := by
  obtain ⟨_, _, f, twins⟩ := history.alike reached there
  have mirrored := twins.stage.twins.mirrored
  exact ⟨mirrored.observed.known, mirrored.focused.2⟩

/-- After any history in which no container has come to be inside itself, an element under a new id
is created exactly when its containers are all registered, up to the outermost. Otherwise the
refusal names the first that is missing on the way up, and nothing is left of the attempt but
layers. -/
theorem rollback_of_history (reached : Reached h₀.document) (there : h₀.document.issued mount)
    (history : History mount config h₀ s h) (acyclic : Acyclic s.containers)
    (new : s.elements[c.id]? = none) (widget : Widget) :
    ((∃ ids, Line s.containers c.frame ids) ∨ ∃ ids lost, Strays s.containers c.frame ids lost) ∧
    (∀ ids, Line s.containers c.frame ids →
      Yields (Scene.apply (.create widget c)) s h fun _ s' h' => Joined widget c.id s h s' h') ∧
    ∀ ids lost, Strays s.containers c.frame ids lost →
      Ends (Scene.apply (.create widget c)) s h (fun _ _ _ => False)
        (fun why s' h' => why = .unknownContainer lost ∧
          h'.document.liveSamplers = h.document.liveSamplers ∧
          RolledBack h₀.document.nodes.size (c.layer.toNat + 1 - s.layers.size) s h s' h')
        fun _ => False := by
  have sound := history.sound reached.tidy.linked there
  refine ⟨acyclic.ends c.frame, fun ids line => sound.create_joins widget new line,
    fun ids lost strays => ?_⟩
  refine (sound.create_rollsBack widget new (history.attended reached there) acyclic strays).mono
    (fun _ _ _ => False.elim) ?_ fun _ => id
  rintro why s' h' ⟨rfl, back⟩
  obtain ⟨dead, eq, all⟩ := back.samplers
  exact ⟨rfl, liveSamplers_of_dead eq all, back⟩

/-- A scroller is to go into frame 2, whose frame 1 was deleted while frame 2 had no node yet. -/
theorem rollback_in_an_orphaned_frame :
    ∃ (s : Scene) (h : MemoryHost Recorder), History ⟨0⟩ .standard blankPage s h ∧
    Strays s.containers (some 2) [2] 1 ∧
    Ends (Scene.apply (.create .scroller ⟨7, some 2, 3⟩)) s h (fun _ _ _ => False)
      (fun why s' h' => why = .unknownContainer 1 ∧
        h'.document.liveSamplers = h.document.liveSamplers ∧
        RolledBack 1 3 s h s' h')
      fun _ => False := by
  have run :
      leads ⟨0⟩ .standard blankPage [.createFrame ⟨1, none, 0⟩, .createFrame ⟨2, some 1, 0⟩,
        .deleteFrame 1] (fun s =>
          decide (s.layers.size = 1) && decide (s.elements.toList.map (·.1) = []) &&
            decide (s.containers.toList.map (fun p => (p.1, p.2.parent)) = [(2, some 1)])) =
            true := by decide +kernel
  obtain ⟨s, h, history, facts⟩ := exists_history ⟨0⟩ .standard blankPage _ _ run
  simp only [Bool.and_eq_true, decide_eq_true_eq] at facts
  obtain ⟨⟨low, vacant⟩, orphan⟩ := facts
  have entry (id : UInt32) (f : Container) : s.containers[id]? = some f → id = 2 ∧
      f.parent = some 1 := by
    intro found
    have listed := List.mem_map_of_mem (f := fun p : UInt32 × Container => (p.1, p.2.parent))
      (Std.ExtTreeMap.mem_toList_iff_getElem?_eq_some.2 found)
    rw [orphan, List.mem_singleton, Prod.mk.injEq] at listed
    exact listed
  have acyclic : Acyclic s.containers := acyclic_of_lt fun p hp outer above => by
    obtain ⟨inner, parent⟩ := entry p.1 p.2 (Std.ExtTreeMap.mem_toList_iff_getElem?_eq_some.1 hp)
    rw [parent] at above
    cases above
    rw [inner]
    decide
  have strays : Strays s.containers (some 2) [2] 1 := by
    obtain ⟨⟨id, f⟩, hp, same⟩ :=
      List.mem_map.1 (orphan ▸ List.mem_cons_self : ((2 : UInt32), some (1 : UInt32)) ∈ _)
    obtain ⟨rfl, parent⟩ := Prod.mk.inj same
    have gone : s.containers[(1 : UInt32)]? = none :=
      Option.eq_none_iff_forall_ne_some.2 fun f found =>
      absurd (entry 1 f found).1 (by decide)
    exact .inner (Std.ExtTreeMap.mem_toList_iff_getElem?_eq_some.1 hp) (parent ▸ .missing gone)
  have new : s.elements[(7 : UInt32)]? = none := by
    refine Option.eq_none_iff_forall_ne_some.2 fun e found => ?_
    have listed :=
      List.mem_map_of_mem (f := (·.1)) (Std.ExtTreeMap.mem_toList_iff_getElem?_eq_some.2 found)
    rw [vacant] at listed
    cases listed
  have back :=
    (rollback_of_history reached_blankPage rfl history acyclic
      (c := ⟨7, some 2, 3⟩) new .scroller).2.2 [2] 1 strays
  rw [low] at back
  exact ⟨s, h, history, strays, back⟩

end Histories

end LayeredPage.Proofs
