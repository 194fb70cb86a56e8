import LayeredPage.Proofs.Lockstep
import LayeredPage.Proofs.Mirroring

/-!
# Pools that recycle beside pools that do not

One run hands nodes out again, the other makes every node anew. The nodes that are held mirror each
other under a renaming; it changes when a node is taken, and only for that node.
-/

namespace LayeredPage.Proofs

open MemoryDocument

/-- Pools that keep nothing, so their shelves are empty. -/
def Barren (ps : NodePools) : Prop := Stocked false ps ∧ ∀ kind, shelf ps kind = []

/-- Two runs that hold the same nodes under different names. Live samplers are on nodes that were
there before, or are on the watch list `ws` with the place of their node. -/
structure Twins {κ : Type} (base : Nat) (f : NodeId → NodeId) (mine : List OwnedNode)
    (ws : List (NodeId × Nat)) (ps ps' : NodePools) (h h' : MemoryHost κ) : Prop where
  owned : Owned base ps mine h.document
  barren : Barren ps'
  mirrored : Mirrored (Known base mine) f h.document h'.document
  foreign : ∀ n : NodeId, n.index < base → f n = n
  watched : ∀ (i : Nat) (s : MemorySampler), h.document.samplers[i]? = some s → s.live →
    s.node.index < base ∨ (s.node, i) ∈ ws
  core : h'.core = h.core

section Pools

variable {κ : Type} {base : Nat} {f : NodeId → NodeId} {mine mine' : List OwnedNode}
  {ws ws' : List (NodeId × Nat)} {ps ps' : NodePools} {h h' : MemoryHost κ}
  {kind : NodeKind} {n : OwnedNode} {keeps : Bool}

lemma known_perm (perm : mine.Perm mine') (m : NodeId) : Known base mine' m ↔ Known base mine m :=
  or_congr_right (perm.map _).mem_iff.symm

lemma Twins.perm (twins : Twins base f mine ws ps ps' h h') (perm : mine.Perm mine')
    (more : ∀ p ∈ ws, p ∈ ws') :
    Twins base f mine' ws' ps ps' h h' :=
  ⟨twins.owned.perm perm, twins.barren, twins.mirrored.iff (known_perm perm), twins.foreign,
    fun i s hs live => (twins.watched i s hs live).imp_right (more _), twins.core⟩

/-- Changes to both documents beside their nodes. -/
lemma Twins.besides (twins : Twins base f mine ws ps ps' h h') {d d' : MemoryDocument}
    (nodes : d.nodes = h.document.nodes) (mirrored : Mirrored (Known base mine) f d d')
    (watched : ∀ (i : Nat) (s : MemorySampler), d.samplers[i]? = some s → s.live →
      s.node.index < base ∨ (s.node, i) ∈ ws') :
    Twins base f mine ws' ps ps' { h with document := d } { h' with document := d' } :=
  ⟨twins.owned.of_nodes nodes, twins.barren, mirrored, twins.foreign, watched, twins.core⟩

/-- Both cores do the same. -/
lemma Twins.withCore (twins : Twins base f mine ws ps ps' h h') (change : κ → κ) :
    Twins base f mine ws ps ps' { h with core := change h.core }
    { h' with core := change h'.core } :=
  ⟨twins.owned, twins.barren, twins.mirrored, twins.foreign, twins.watched,
    congrArg change twins.core⟩

variable [Core κ]

/-- A pool that keeps nothing makes a node each time. -/
lemma Barren.take (barren : Barren ps) (kind : NodeKind) :
    Yields (Pools.take kind : Work NodePools OwnedNode) ps h fun n ps₁ h₁ =>
      n = ⟨(h.document.create kind).1, kind⟩ ∧ Barren ps₁ ∧
      h₁ = { h with document := (h.document.create kind).2 } := by
  obtain ⟨p, hp, keeps, make, reset⟩ := barren.1 kind
  have free : p.free = [] := by rw [← shelf_of_get? hp, barren.2]
  refine (ends_take hp _).2
    ((answers_take_made free make _).2 ⟨rfl, ⟨barren.1.set hp rfl rfl rfl, fun k => ?_⟩, rfl⟩)
  rw [shelf_set]
  split
  · exact free
  · exact barren.2 k

lemma Barren.put (barren : Barren ps) (hn : h.document.issued n.id) :
    Yields (Pools.put n.kind n : Work NodePools Unit) ps h fun _ ps₁ h₁ =>
      Barren ps₁ ∧ h₁ = { h with document := h.document.reset n.id } := by
  obtain ⟨p, hp, keeps, make, reset⟩ := barren.1 n.kind
  refine (ends_put hp _ _).2 ((answers_put reset hn _).2 ⟨?_, rfl⟩)
  rw [keeps]
  refine ⟨barren.1.set hp rfl rfl rfl, fun k => ?_⟩
  rw [shelf_set]
  split
  · rw [if_neg Bool.false_ne_true, ← shelf_of_get? hp, barren.2]
  · exact barren.2 k

/-- A node is taken in both runs; the second makes a new one, and its name is the twin of the
first's. -/
theorem Twins.take (twins : Twins base f mine ws ps ps' h h') (kind : NodeKind)
    {refused : PatchError → NodePools → MemoryHost κ → NodePools → MemoryHost κ → Prop} :
    Sync (Pools.take kind) (Pools.take kind) ps h ps' h'
      (fun n ps h n' ps' h' => ∃ f', Steady base mine f f' ∧ n' = renamedNode f' n ∧ n.kind = kind ∧
        Twins base f' (n :: mine) ws ps ps' h h') refused := by
  have real := (twins.owned.take kind).and (take_effect twins.owned.stocked kind)
  refine sync_of_yields real (twins.barren.take kind) ?_
  rintro n ps₁ h₁ n' ps₁' h₁' ⟨⟨owned, kind_eq, blank, _⟩, effect⟩ ⟨rfl, barren, rfl⟩
  have mir := twins.mirrored
  have new : ¬ Known base mine n.id := fun known => ne_of_joined owned known rfl
  let f' := Function.update f n.id (h'.document.create kind).1
  have named : f' n.id = (h'.document.create kind).1 := Function.update_self ..
  have same (m) (hm : Known base mine m) : f' m = f m := by
    refine Function.update_of_ne ?_ _ _
    rintro rfl
    exact new hm
  have other (m) (hm : Known base mine m) : f m ≠ (h'.document.create kind).1 := by
    intro eq
    have issued := (mir.tree.issued hm).2
    rw [eq] at issued
    simp [MemoryDocument.issued, MemoryDocument.create] at issued
  have blank' := node?_create (d := h'.document) (m := (h'.document.create kind).1) kind
  rw [if_pos rfl] at blank'
  have kept (m) (hm : Known base mine m) : h₁.document.node? m = h.document.node? m := by
    rcases effect with rfl | rfl
    · rfl
    · exact node?_create_of_issued kind (mir.tree.issued hm).1
  have tree := mir.tree.join owned.linked (mir.tree.linked'.create kind) kept
    (fun m hm => node?_create_of_issued kind (mir.tree.issued hm).2) blank blank' same named other
  have real : ∃ nodes, h₁.document = { h.document with nodes } := by
    rcases effect with rfl | rfl
    · exact ⟨_, rfl⟩
    · exact ⟨_, rfl⟩
  have joined := mir.join tree same named new other real ⟨_, rfl⟩
  refine ⟨f', same, ?_, kind_eq, owned, barren, joined.iff fun m => ?_, fun m hm => ?_,
    fun i s hs live => ?_, ?_⟩
  · rw [renamedNode, named, ← kind_eq]
  · simp only [Known, List.map_cons, List.mem_cons]
    tauto
  · exact (same m (.inl hm)).trans (twins.foreign m hm)
  · obtain ⟨nodes, eq⟩ := real
    rw [eq] at hs
    exact twins.watched i s hs live
  · rcases effect with rfl | rfl <;> exact twins.core

/-- A node is given back in both runs; no live sampler is on it. -/
theorem Twins.put (twins : Twins base f (n :: mine) ws ps ps' h h')
    (unwatched : ∀ i, (n.id, i) ∉ ws)
    {refused : PatchError → NodePools → MemoryHost κ → NodePools → MemoryHost κ → Prop} :
    Sync (Pools.put n.kind n) (Pools.put n.kind (renamedNode f n)) ps h ps' h'
      (fun _ ps h _ ps' h' => Twins base f mine ws ps ps' h h') refused := by
  have mir := twins.mirrored
  have hn : Known base (n :: mine) n.id := .inr List.mem_cons_self
  have issued := mir.tree.issued hn
  have not_foreign := twins.owned.base_le_of_mem List.mem_cons_self
  have real := twins.owned.put.and (put_effect twins.owned.stocked issued.1)
  have unsampled (i : Nat) (s : MemorySampler) (hs : h.document.samplers[i]? = some s)
      (live : s.live) : s.node ≠ n.id := by
    rintro eq
    rcases twins.watched i s hs live with foreign | watched
    · rw [eq] at foreign
      omega
    · exact unwatched i (eq ▸ watched)
  refine sync_of_yields real (Barren.put (n := renamedNode f n) twins.barren issued.2) ?_
  rintro _ ps₁ h₁ _ ps₁' h₁' ⟨⟨owned, _⟩, rfl⟩ ⟨barren, rfl⟩
  refine ⟨owned, barren, (mir.reset hn unsampled).iff fun m => ?_, twins.foreign,
    fun i s hs live => ?_, twins.core⟩
  · refine ⟨fun known => ⟨known.cons n, ne_of_joined twins.owned known⟩, fun ⟨known, other⟩ => ?_⟩
    exact known.imp_right fun held => (List.mem_cons.1 held).resolve_left other
  · obtain ⟨nodes, eq, _⟩ := exists_reset (d := h.document) (n := n.id)
    rw [eq] at hs
    exact twins.watched i s hs live

/-- Nodes are given back one by one. -/
theorem Twins.putAll (nodes : List OwnedNode) {ps ps' : NodePools} {h h' : MemoryHost κ}
    (twins : Twins base f (nodes ++ mine) ws ps ps' h h')
    (unwatched : ∀ n ∈ nodes, ∀ i, (n.id, i) ∉ ws)
    {refused : PatchError → NodePools → MemoryHost κ → NodePools → MemoryHost κ → Prop} :
    Sync (nodes.forM fun node => Pools.put node.kind node : Work NodePools Unit)
      ((nodes.map (renamedNode f)).forM fun node =>
        Pools.put node.kind node : Work NodePools Unit) ps h ps' h'
      (fun _ ps h _ ps' h' => Twins base f mine ws ps ps' h h') refused := by
  induction nodes generalizing ps ps' h h' with
  | nil => exact sync_pure twins
  | cons n nodes ih =>
    refine sync_bind
      ((Twins.put twins (unwatched n List.mem_cons_self)).mono ?_ fun _ _ _ _ _ kept => kept)
    exact fun _ ps₁ h₁ _ ps₁' h₁' twins => ih twins fun m hm =>
      unwatched m (List.mem_cons_of_mem _ hm)

theorem Twins.giveBack {nodes : List OwnedNode}
    (twins : Twins base f (nodes ++ mine) ws ps ps' h h')
    (unwatched : ∀ n ∈ nodes, ∀ i, (n.id, i) ∉ ws)
    {refused : PatchError → NodePools → MemoryHost κ → NodePools → MemoryHost κ → Prop} :
    Sync (Bench.giveBack nodes) (Bench.giveBack (nodes.map (renamedNode f))) ps h ps' h'
      (fun _ ps h _ ps' h' => Twins base f mine ws ps ps' h h') refused := by
  unfold Bench.giveBack
  rw [← List.map_reverse]
  refine Twins.putAll nodes.reverse
    (twins.perm ((List.reverse_perm nodes).symm.append_right mine) fun _ hp => hp) ?_
  exact fun n hn => unwatched n (List.mem_reverse.1 hn)

end Pools

section Requests

variable {κ σ : Type} [Core κ] {base : Nat} {f : NodeId → NodeId} {mine : List OwnedNode}
  {ws ws' : List (NodeId × Nat)} {ps ps' : NodePools} {h h' : MemoryHost κ}
  {n p c : NodeId} {s s' : σ} {refused : PatchError → σ → MemoryHost κ → σ → MemoryHost κ → Prop}

lemma samplers_written (w : NodeWrite) (n : NodeId) (d : MemoryDocument) :
    (written w n d).samplers = d.samplers := by
  have kept (html : String) : (d.setHtml n html).samplers = d.samplers := by
    obtain ⟨nodes, eq, _⟩ := exists_setHtml (d := d) (n := n) html
    rw [eq]
  cases w with
  | html markup => exact kept markup
  | text content => exact kept _
  | focus | observe | attr | style | noStyle | linkStyle | form | bind => rfl

/-- A known node is written to. -/
lemma Twins.write {post : Unit → σ → MemoryHost κ → Unit → σ → MemoryHost κ → Prop}
    (twins : Twins base f mine ws ps ps' h h') (hn : Known base mine n) (w : NodeWrite)
    (next : ∀ h h', Twins base f mine ws ps ps' h h' → post () s h () s' h') :
    Sync (liftM (w.apply n)) (liftM (w.apply (f n))) s h s' h' post refused := by
  have issued := twins.mirrored.tree.issued hn
  refine sync_script (serve_write w issued.1) (serve_write w issued.2) (next _ _ ?_)
  refine ⟨twins.owned.written hn w, twins.barren, twins.mirrored.written hn w, twins.foreign,
    fun i smp hs live => ?_,
    twins.core⟩
  dsimp only at hs
  rw [samplers_written] at hs
  exact twins.watched i smp hs live

/-- Held nodes are written to one by one. -/
lemma Twins.writeAll {post : PUnit → σ → MemoryHost κ → PUnit → σ → MemoryHost κ → Prop}
    (w : NodeWrite)
    (nodes : List OwnedNode) {h h' : MemoryHost κ} (twins : Twins base f mine ws ps ps' h h')
    (inside : ∀ n ∈ nodes, n ∈ mine)
    (next : ∀ h h', Twins base f mine ws ps ps' h h' → post ⟨⟩ s h ⟨⟩ s' h') :
    Sync (nodes.forM fun n => (w.apply n.id : Script Patching Unit) : Work σ PUnit)
      ((nodes.map (renamedNode f)).forM fun n =>
        (w.apply n.id : Script Patching Unit) : Work σ PUnit)
      s h s' h' post refused := by
  induction nodes generalizing h h' with
  | nil => exact sync_pure (next h h' twins)
  | cons n nodes ih =>
    refine sync_bind
      (twins.write (.inr (List.mem_map_of_mem (inside n List.mem_cons_self))) w
        fun h h' twins => ?_)
    exact ih twins fun m hm => inside m (List.mem_cons_of_mem _ hm)

/-- A held node is hung under a known one. -/
lemma Twins.hang {post : Unit → σ → MemoryHost κ → Unit → σ → MemoryHost κ → Prop}
    (twins : Twins base f mine ws ps ps' h h') (hp : Known base mine p) (hc : c ∈ mine.map (·.id))
    (next : ∀ h h', Twins base f mine ws ps ps' h h' → post () s h () s' h') :
    Sync (liftM (ask (.appendChild p c))) (liftM (ask (.appendChild (f p) (f c)))) s h s'
      h' post refused := by
  have above := twins.mirrored.tree.issued hp
  have below := twins.mirrored.tree.issued (.inr hc)
  have run : MemoryHost.serve (ask (.appendChild p c)) h =
      .ok ((), { h with document := h.document.append p c }) := by
    rw [serve_ask, answer_appendChild above.1 below.1]
    rfl
  have run' : MemoryHost.serve (ask (.appendChild (f p) (f c))) h' =
      .ok ((), { h' with document := h'.document.append (f p) (f c) }) := by
    rw [serve_ask, answer_appendChild above.2 below.2]
    rfl
  refine sync_script run run' (next _ _ ?_)
  refine ⟨twins.owned.append hp hc, twins.barren, twins.mirrored.append hp (.inr hc), twins.foreign,
    fun i smp hs live => ?_, twins.core⟩
  obtain ⟨nodes, eq, _⟩ := exists_append (d := h.document) (p := p) (c := c)
  dsimp only at hs
  rw [eq] at hs
  exact twins.watched i smp hs live

/-- Known nodes have as many children as their twins. -/
lemma Twins.childCount {post : Nat → σ → MemoryHost κ → Nat → σ → MemoryHost κ → Prop}
    (twins : Twins base f mine ws ps ps' h h') (hn : Known base mine n)
    (next : ∀ count, post count s h count s' h') :
    Sync (liftM (ask (.childCount n))) (liftM (ask (.childCount (f n)))) s h s'
      h' post refused := by
  obtain ⟨node, found, found', _⟩ := twins.mirrored.tree.nodes n hn
  have run : MemoryHost.serve (ask (.childCount n)) h = .ok (node.children.length, h) := by
    rw [serve_ask, answer_childCount (issued_of_node? found), children_of_node? found]
    rfl
  have run' : MemoryHost.serve (ask (.childCount (f n))) h' = .ok (node.children.length, h') := by
    rw [serve_ask, answer_childCount (issued_of_node? found'), children_of_node? found',
      renamedRecord, List.length_map]
    rfl
  exact sync_script run run' (next _)

/-- Known nodes show the same markup as their twins. -/
lemma Twins.innerHtml {post : String → σ → MemoryHost κ → String → σ → MemoryHost κ → Prop}
    (twins : Twins base f mine ws ps ps' h h') (hn : Known base mine n)
    (next : ∀ html, post html s h html s' h') :
    Sync (liftM (ask (.innerHtml n))) (liftM (ask (.innerHtml (f n)))) s h s' h' post refused := by
  obtain ⟨node, found, found', _⟩ := twins.mirrored.tree.nodes n hn
  have run : MemoryHost.serve (ask (.innerHtml n)) h = .ok (node.html, h) := by
    rw [serve_ask, answer_innerHtml found]
    rfl
  have run' : MemoryHost.serve (ask (.innerHtml (f n))) h' = .ok (node.html, h') := by
    rw [serve_ask, answer_innerHtml found']
    rfl
  exact sync_script run run' (next _)

/-- A known node is sampled, by samplers of the same name. -/
lemma Twins.sample {post : SamplerId → σ → MemoryHost κ → SamplerId → σ → MemoryHost κ → Prop}
    (twins : Twins base f mine ws ps ps' h h') (hn : Known base mine n)
    (tracker : ScrollTracker Float) (interval : UInt32)
    (next : ∀ h h' i, Twins base f mine ((n, i) :: ws) ps ps' h h' → post ⟨i⟩ s h ⟨i⟩ s' h') :
    Sync (liftM (ask (.sampleScroll n tracker interval)))
    (liftM (ask (.sampleScroll (f n) tracker interval)))
      s h s' h' post refused := by
  have mir := twins.mirrored
  let d : MemoryDocument :=
    { h.document with samplers := h.document.samplers.push ⟨n, tracker, true, interval⟩ }
  let d' : MemoryDocument :=
    { h'.document with samplers := h'.document.samplers.push ⟨f n, tracker, true, interval⟩ }
  have mirrored : Mirrored (Known base mine) f d d' := mir.besides rfl rfl mir.observed mir.focused
    (mir.samplers.push hn tracker interval) mir.properties mir.faces mir.images
  have sampled :
      Twins base f mine ((n, h.document.samplers.size) :: ws) ps ps' { h with document := d }
      { h' with document := d' } := by
    refine twins.besides rfl mirrored fun i smp hs live => ?_
    change (h.document.samplers.push _)[i]? = some smp at hs
    rw [Array.getElem?_push] at hs
    split at hs
    · next last =>
      cases hs
      exact .inr (last ▸ List.mem_cons_self)
    · exact (twins.watched i smp hs live).imp_right (List.mem_cons_of_mem _)
  have same := next _ _ _ sampled
  exact sync_script rfl rfl (mir.samplers.size ▸ same)

/-- A sampler is cancelled in both runs, and watched no longer. -/
lemma Twins.cancel {post : Unit → σ → MemoryHost κ → Unit → σ → MemoryHost κ → Prop} {r : SamplerId}
    (twins : Twins base f mine ws ps ps' h h') (less : ∀ p ∈ ws, p.2 ≠ r.index → p ∈ ws')
    (next : ∀ h h', Twins base f mine ws' ps ps' h h' → post () s h () s' h') :
    Sync (liftM (ask (.cancelSampler r))) (liftM (ask (.cancelSampler r))) s h s'
      h' post refused := by
  have mir := twins.mirrored
  refine sync_script rfl rfl
    (next _ _ (twins.besides rfl (mir.besides rfl rfl mir.observed mir.focused
      (mir.samplers.cancel r.index) mir.properties mir.faces mir.images) fun i smp hs live => ?_))
  change (h.document.samplers.modify r.index _)[i]? = _ at hs
  rw [Array.getElem?_modify] at hs
  split at hs
  · obtain ⟨t, _, rfl⟩ := Option.map_eq_some_iff.1 hs
    cases live
  · next other =>
      exact (twins.watched i smp hs live).imp_right fun inside => less _ inside (Ne.symm other)

/-- A known node is observed no longer. -/
lemma Twins.unobserve {post : Unit → σ → MemoryHost κ → Unit → σ → MemoryHost κ → Prop}
    (twins : Twins base f mine ws ps ps' h h') (hn : Known base mine n)
    (next : ∀ h h', Twins base f mine ws ps ps' h h' → post () s h () s' h') :
    Sync (liftM (ask (.unobserveSize n))) (liftM (ask (.unobserveSize (f n)))) s h s'
      h' post refused := by
  have mir := twins.mirrored
  have inj (m) (hm : Known base mine m) := mir.tree.inj m n hm hn
  exact sync_script rfl rfl (next _ _ (twins.besides rfl (mir.besides rfl rfl
    (mir.observed.erase inj (fun _ hm => hm) fun _ hm _ => hm) mir.focused mir.samplers
      mir.properties mir.faces
    mir.images) twins.watched))

/-- A root property is set or removed. -/
lemma Twins.property {post : Unit → σ → MemoryHost κ → Unit → σ → MemoryHost κ → Prop}
    {script : Script Patching Unit} (change : Names → Names)
    (run : ∀ h : MemoryHost κ, MemoryHost.serve script h =
      .ok ((), { h with
        document := { h.document with rootProperties := change h.document.rootProperties } }))
    (twins : Twins base f mine ws ps ps' h h')
    (next : ∀ h h', Twins base f mine ws ps ps' h h' → post () s h () s' h') :
    Sync (liftM script) (liftM script) s h s' h' post refused := by
  have mir := twins.mirrored
  exact sync_script (run h) (run h')
    (next _ _ (twins.besides rfl (mir.besides rfl rfl mir.observed mir.focused
      mir.samplers (congrArg change mir.properties) mir.faces mir.images) twins.watched))

lemma Twins.face {post : Unit → σ → MemoryHost κ → Unit → σ → MemoryHost κ → Prop}
    (twins : Twins base f mine ws ps ps' h h') (face : FaceRequest)
    (next : ∀ h h', Twins base f mine ws ps ps' h h' → post () s h () s' h') :
    Sync (liftM (ask (.loadFace face))) (liftM (ask (.loadFace face))) s h s' h' post refused := by
  have mir := twins.mirrored
  exact sync_script rfl rfl
    (next _ _ (twins.besides rfl (mir.besides rfl rfl mir.observed mir.focused mir.samplers
      mir.properties (congrArg (· ++ [face]) mir.faces) mir.images) twins.watched))

lemma Twins.image {post : Unit → σ → MemoryHost κ → Unit → σ → MemoryHost κ → Prop}
    (twins : Twins base f mine ws ps ps' h h') (image : ImageRequest)
    (next : ∀ h h', Twins base f mine ws ps ps' h h' → post () s h () s' h') :
    Sync (liftM (ask (.loadImage image))) (liftM (ask (.loadImage image))) s h s'
      h' post refused := by
  have mir := twins.mirrored
  exact sync_script rfl rfl
    (next _ _ (twins.besides rfl (mir.besides rfl rfl mir.observed mir.focused mir.samplers
      mir.properties mir.faces (congrArg (· ++ [image]) mir.images)) twins.watched))

end Requests

end LayeredPage.Proofs
