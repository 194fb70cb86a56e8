import LayeredPage.Proofs.Lodging
import LayeredPage.Proofs.Vacating

/-!
# Layers that are taken away

The members of a layer are counted as the children of its overlay and its container nodes beyond the
container nodes themselves. Each of these is the child of one holder of its layer, so what is
counted are the callers' nodes, each once. A stack shrinks exactly when there are none above the top
it is to keep, and then nothing but these layers goes.
-/

namespace LayeredPage.Proofs

open MemoryDocument

/-! ## Members -/

/-- The nodes of callers that hang from the overlay of a layer or from a container's node on it. -/
def tenants (s : Stage) (d : MemoryDocument) (l : Layer) : List NodeId :=
  ((holders l).flatMap d.children).filter fun n => decide (Foreign s d n)

section Members

variable {s : Stage} {d : MemoryDocument} {l : Layer} {i : Nat} {n p q : NodeId}

lemma mem_tenants : n ∈ tenants s d l ↔ Foreign s d n ∧ ∃ p ∈ holders l, n ∈ d.children p := by
  rw [tenants, List.mem_filter, List.mem_flatMap, decide_eq_true_iff, and_comm]

lemma total_lengths {α : Type} (f : α → List NodeId) (as : List α) :
    Stage.total (as.map fun a => (f a).length) = (as.flatMap f).length := by
  rw [List.length_flatMap]
  rfl

namespace Quartered

lemma nodup_holders (quartered : Quartered s [] d) (hl : s.layers[i]? = some l) :
    (holders l).Nodup := by
  have distinct := quartered.staged_nodup
  rw [stageNodes, List.map_flatMap, List.nodup_flatMap] at distinct
  have own := distinct.1 l (Array.mem_toList_iff.2 (Array.mem_of_getElem? hl))
  rw [map_layerNodes] at own
  exact (List.nodup_cons.1 own).2

/-- What hangs on a layer is a container's node of the layer or a caller's. -/
lemma frame_or_foreign (quartered : Quartered s [] d) (hl : s.layers[i]? = some l)
    (hp : p ∈ holders l) (hn : n ∈ d.children p) :
    (∃ (id : UInt32) (f : OwnedNode), l.frames[id]? = some f ∧ f.id = n) ∨ Foreign s d n := by
  have linked := quartered.tidy.linked
  have below_mount (here : n ∈ d.children s.mount) : False :=
    quartered.staged_ne_mount (staged_of_holder hl hp) (linked.parent_unique hn here)
  by_cases staged : n ∈ (stageNodes s).map (·.id)
  · left
    obtain ⟨m, hm, rfl⟩ := List.mem_map.1 staged
    obtain ⟨j, l', hl', place⟩ := mem_stageNodes.1 hm
    rcases mem_layerNodes.1 place with rfl | rfl | ⟨id, found⟩
    · exact (below_mount (quartered.hung j l' hl').1).elim
    · exact (below_mount (quartered.hung j l' hl').2).elim
    · obtain ⟨q, hq, here⟩ := quartered.frames j l' id m hl' found
      obtain rfl := linked.parent_unique hn here
      obtain rfl :=
        layer_unique quartered.staged_nodup hl hl' (List.mem_cons_of_mem _ hp)
          (List.mem_cons_of_mem _ hq)
      obtain rfl := Option.some.inj (hl.symm.trans hl')
      exact ⟨id, m, found, rfl⟩
  · right
    obtain ⟨not_mount, not_waiting⟩ := quartered.below i l hl p hp n hn
    refine ⟨issued_of_parent? ((linked n p).1 hn), fun inside => ?_⟩
    rw [List.map_append, List.mem_cons, List.mem_append] at inside
    rcases inside with same | waiting | here
    · exact not_mount same
    · exact not_waiting waiting
    · exact staged here

lemma not_foreign_of_frame {id : UInt32} {f : OwnedNode} (hl : s.layers[i]? = some l)
    (found : l.frames[id]? = some f) :
    ¬ Foreign s d f.id := by
  rintro ⟨_, strange⟩
  refine strange (List.mem_cons_of_mem _ ?_)
  rw [List.map_append]
  exact List.mem_append_right _ (staged_of_frame hl found)

lemma nodup_below (quartered : Quartered s [] d) (hl : s.layers[i]? = some l) :
    ((holders l).flatMap d.children).Nodup := by
  refine List.nodup_flatMap.2 ⟨fun p hp => quartered.once i l hl p hp,
    (quartered.nodup_holders hl).imp ?_⟩
  exact fun apart n hp hq => apart (quartered.tidy.linked.parent_unique hp hq)

lemma nodup_tenants (quartered : Quartered s [] d) (hl : s.layers[i]? = some l) :
    (tenants s d l).Nodup :=
  (quartered.nodup_below hl).filter _

/-- The children on a layer are its container nodes and its members. -/
theorem total_children (quartered : Quartered s [] d) (hl : s.layers[i]? = some l) :
    Stage.total ((holders l).map fun n => (d.children n).length) =
      l.frames.values.length + (tenants s d l).length := by
  have own :
      (((holders l).flatMap d.children).filter fun n => !decide (Foreign s d n)).Perm
        (l.frames.values.map (·.id)) := by
    refine (List.perm_ext_iff_of_nodup ((quartered.nodup_below hl).filter _)
      (List.nodup_cons.1 (quartered.nodup_holders hl)).2).2 ?_
    intro n
    rw [List.mem_filter, List.mem_flatMap, values_eq, List.map_map, List.mem_map]
    simp only [Bool.not_eq_true', decide_eq_false_iff_not, Prod.exists,
      Std.ExtTreeMap.mem_toList_iff_getElem?_eq_some,
      Function.comp_apply]
    constructor
    · rintro ⟨⟨p, hp, hn⟩, own⟩
      exact (quartered.frame_or_foreign hl hp hn).resolve_right own
    · rintro ⟨id, f, found, rfl⟩
      exact ⟨quartered.frames i l id f hl found, not_foreign_of_frame hl found⟩
  have parts := List.length_eq_length_filter_add (l := (holders l).flatMap d.children) fun n =>
    decide (Foreign s d n)
  rw [total_lengths, parts, own.length_eq, List.length_map, Nat.add_comm]
  rfl

end Quartered

/-- The first layer with members is told with their number. -/
theorem Quartered.requireVacant {h : MemoryHost Recorder} (quartered : Quartered s [] h.document)
    (ls : List Layer) (on_stage : ∀ l ∈ ls, l ∈ s.layers) :
    Ends (Stage.requireVacant ls) s h (fun _ s' h' => s' = s ∧ h' = h ∧
      ∀ l ∈ ls, tenants s h.document l = [])
      (fun why s' h' => s' = s ∧ h' = h ∧ ∃ before l after, ls = before ++ l :: after ∧
        (∀ m ∈ before, tenants s h.document m = []) ∧ tenants s h.document l ≠ [] ∧
        why = .layerInUse l.index (tenants s h.document l).length) fun _ => False := by
  induction ls with
  | nil => exact ⟨rfl, rfl, by simp⟩
  | cons l ls ih =>
    obtain ⟨i, hl⟩ := Array.mem_iff_getElem?.1 (on_stage l List.mem_cons_self)
    have issued (n) (hn : n ∈ holders l) : h.document.issued n :=
      quartered.staged_issued (staged_of_holder hl hn)
    have counted := quartered.total_children hl
    unfold Stage.requireVacant Stage.members
    refine (ends_bind _ _ _).2
      ((ends_script _ _).2 ((answers_bind _ _ _).2 ((answers_childCounts issued _).2 ?_)))
    rw [answers_pure]
    have beyond : Stage.total ((holders l).map fun n => (h.document.children n).length) -
        (l.frames.values.map (·.id)).length = (tenants s h.document l).length := by
      rw [List.length_map]
      exact Nat.sub_eq_of_eq_add' counted
    rw [beyond]
    split
    · next members =>
      exact ⟨rfl, rfl, [], l, ls, rfl, by simp, List.length_pos_iff.1 members, rfl⟩
    · next vacant =>
      have none_here : tenants s h.document l = [] :=
        List.length_eq_zero_iff.1 (Nat.eq_zero_of_not_pos vacant)
      refine (ih fun m hm => on_stage m (List.mem_cons_of_mem _ hm)).mono ?_ ?_ fun _ => id
      · rintro _ _ _ ⟨rfl, rfl, none_above⟩
        exact ⟨rfl, rfl, List.forall_mem_cons.2 ⟨none_here, none_above⟩⟩
      · rintro why _ _ ⟨rfl, rfl, before, m, after, rfl, none_before, some_here, rfl⟩
        exact ⟨rfl, rfl, l :: before, m, after, rfl,
          List.forall_mem_cons.2 ⟨none_here, none_before⟩, some_here, rfl⟩

end Members

/-! ## Layers go -/

/-- Nodes went back to the pools under these tags, one after the other. -/
def Stored (back : List (NodeKind × OwnedNode)) (ps ps' : NodePools) : Prop :=
  ∀ kind, shelf ps' kind =
      ((back.filter fun b => decide (b.1 = kind)).map (·.2)).reverse ++ shelf ps kind ∧
    made ps' kind = made ps kind

/-- The nodes of a layer as they go back: those of its containers, the canvas, the overlay. -/
def givenBack (l : Layer) : List (NodeKind × OwnedNode) :=
  l.frames.values.map (NodeKind.div, ·) ++ [(.canvas, l.canvas), (.div, l.overlay)]

section Removing

variable {s : Stage} {h : MemoryHost Recorder} {hand : List OwnedNode} {d : MemoryDocument}
  {ps ps' ps'' : NodePools} {l : Layer}
  {back back' : List (NodeKind × OwnedNode)} {n : OwnedNode} {m : NodeId}

lemma Stored.nil (ps : NodePools) : Stored [] ps ps := fun _ => ⟨rfl, rfl⟩

lemma Stored.trans (first : Stored back ps ps') (second : Stored back' ps' ps'') :
    Stored (back ++ back') ps ps'' := by
  intro kind
  obtain ⟨shelf₁, made₁⟩ := first kind
  obtain ⟨shelf₂, made₂⟩ := second kind
  rw [shelf₂, shelf₁, List.filter_append, List.map_append, List.reverse_append, List.append_assoc]
  exact ⟨rfl, made₂.trans made₁⟩

/-- A node in hand goes back. -/
lemma Quartered.store (quartered : Quartered s (n :: hand) h.document) (kind : NodeKind) :
    Yields (Pools.put kind n : Work NodePools Unit) s.pools h fun _ ps h' =>
      Quartered { s with pools := ps } hand h'.document ∧
      Stored [(kind, n)] s.pools ps ∧ h' = { h with document := emptied [n.id] h.document } := by
  refine (quartered.put kind).ends ?_
  rintro _ ps h' ⟨quartered', shelves, made, rfl⟩
  refine ⟨quartered', fun k => ⟨?_, made k⟩, rfl⟩
  rw [shelves]
  by_cases same : k = kind
  · subst same
    simp
  · simp [same, Ne.symm same]

/-- Container nodes in hand go back. -/
lemma Quartered.storeAll (nodes : List OwnedNode) {s : Stage} {h : MemoryHost Recorder}
    (quartered : Quartered s (nodes ++ hand) h.document) :
    Yields (nodes.forM fun node => Stage.onPools (Pools.put NodeKind.div node)) s h fun _ s' h' =>
      ∃ ps, s' = { s with pools := ps } ∧ Quartered s' hand h'.document ∧
        Stored (nodes.map (NodeKind.div, ·)) s.pools ps ∧
        h' = { h with document := emptied (nodes.map (·.id)) h.document } := by
  induction nodes generalizing s h with
  | nil => exact ⟨s.pools, rfl, quartered, .nil _, rfl⟩
  | cons n nodes ih =>
    refine (ends_bind _ _ _).2 ((ends_onPools _ _ _).2 ((quartered.store .div).ends ?_))
    rintro _ ps h₁ ⟨quartered₁, stored, rfl⟩
    refine (ih quartered₁).ends ?_
    rintro _ s₂ h₂ ⟨ps₂, rfl, quartered₂, stored₂, rfl⟩
    exact ⟨ps₂, rfl, quartered₂, stored.trans stored₂, rfl⟩

/-- The top layer leaves the stage, its nodes come to hand. -/
lemma Quartered.pop {lower : Array Layer}
    (quartered : Quartered { s with layers := lower.push l } hand d) :
    Quartered { s with layers := lower } (l.frames.values ++ l.canvas :: l.overlay :: hand) d := by
  have below {i : Nat} {m : Layer} (hm : lower[i]? = some m) : (lower.push l)[i]? = some m := by
    rw [Array.getElem?_push, if_neg (Array.getElem?_eq_some_iff.1 hm).1.ne, hm]
  have nodes : (stageNodes { s with layers := lower.push l } ++ hand).Perm
      (stageNodes { s with layers := lower } ++
        (l.frames.values ++ l.canvas :: l.overlay :: hand)) := by
    have grown : stageNodes { s with layers := lower.push l } =
        stageNodes { s with layers := lower } ++ layerNodes l :=
      stageNodes_push (s := { s with layers := lower })
    rw [grown, List.append_assoc, values_eq]
    exact (List.perm_append_comm_assoc [l.canvas, l.overlay] _ _).append_left _
  exact ⟨quartered.toApart.perm nodes, quartered.idle, fun i m hm => quartered.bare i m (below hm),
    fun i m hm => quartered.hung i m (below hm),
    fun i m id f hm => quartered.frames i m id f (below hm),
    fun i m hm => quartered.once i m (below hm),
    fun i m hm => quartered.below i m (below hm)⟩

/-- A layer in hand is given back with its container nodes, and the core is told. -/
theorem Quartered.discard
    (quartered : Quartered s (l.frames.values ++ l.canvas :: l.overlay :: hand) h.document)
    (there : l.index ∈ s.surfaces) :
    Yields (Stage.discard l) s h fun _ s' h' =>
      ∃ ps, s' = { s with pools := ps, surfaces := s.surfaces.erase l.index } ∧
        Quartered s' hand h'.document ∧
        Stored (givenBack l) s.pools ps ∧
        h' =
          ⟨emptied ((givenBack l).map (·.2.id)) h.document,
            h.core.note (.removeContext l.index)⟩ := by
  unfold Stage.discard Layer.cleanUp Workshop.unregister
  refine (ends_bind _ _ _).2 ((quartered.storeAll l.frames.values).ends ?_)
  rintro _ s₁ h₁ ⟨ps₁, rfl, quartered₁, stored₁, rfl⟩
  refine (ends_focus _ _).2 ((ends_removeContext _).2 ?_)
  refine (ends_bind _ _ _).2 ((ends_bind _ _ _).2 ((ends_get _).2 ?_))
  have registered : ({ s with pools := ps₁ } : Stage).surfaces.contains l.index = true :=
    Std.ExtTreeMap.contains_iff_mem.2 there
  rw [registered]
  refine (ends_bind _ _ _).2 ((ends_focus _ _).2 ?_)
  refine (quartered₁.store
    (h := ⟨emptied (l.frames.values.map (·.id)) h.document, h.core.note (.removeContext l.index)⟩)
      .canvas).ends ?_
  rintro _ ps₂ h₂ ⟨quartered₂, stored₂, rfl⟩
  refine (ends_focus _ _).2 ((quartered₂.store (h := ⟨_, _⟩) .div).ends ?_)
  rintro _ ps₃ h₃ ⟨quartered₃, stored₃, rfl⟩
  refine ⟨ps₃, rfl, quartered₃.withSurfaces _, ?_, ?_⟩
  · exact stored₁.trans (stored₂.trans stored₃)
  · have ids :
        (givenBack l).map (·.2.id) =
          l.frames.values.map (·.id) ++ ([l.canvas.id] ++ [l.overlay.id]) := by
      simp [givenBack, Function.comp_def]
    rw [ids, emptied_append, emptied_append]

/-- The place of the top layer is free again. -/
lemma Tiered.pop {s' : Stage} {lower : Array Layer} (tiered : Tiered s)
    (layers : s.layers = lower.push l)
    (popped : s'.layers = lower) (surfaces : s'.surfaces = s.surfaces.erase l.index) :
    Tiered s' := by
  have last : l.index = lower.size :=
    tiered.index _ l (by rw [layers, Array.getElem?_push, if_pos rfl])
  refine ⟨fun i m hm => tiered.index i m ?_, fun i => ?_⟩
  · rw [popped] at hm
    rw [layers, Array.getElem?_push, if_neg (Array.getElem?_eq_some_iff.1 hm).1.ne, hm]
  · rw [surfaces, popped, Std.ExtTreeMap.mem_erase, tiered.surfaces, layers, Array.size_push, last,
      compare_eq_iff_eq.ne]
    omega

/-- Some layers go, the highest first. -/
theorem Arranged.removeLayers (above : List Layer) {s : Stage} {h : MemoryHost Recorder}
    {lower : Array Layer}
    (layers : s.layers = lower ++ above.toArray) (arranged : Arranged s hand h.document) :
    Yields (Stage.removeLayers above.length) s h fun _ s' h' => Arranged s' hand h'.document ∧
      (∃ ps surfaces, s' = { s with pools := ps, surfaces, layers := lower }) ∧
      (∀ i < lower.size, s'.surfaces[i]? = s.surfaces[i]?) ∧
      Stored (above.reverse.flatMap givenBack) s.pools s'.pools ∧
      h' = ⟨emptied ((above.reverse.flatMap givenBack).map (·.2.id)) h.document,
        { h.core with calls := above.map (fun l => .removeContext l.index) ++ h.core.calls }⟩ := by
  induction above using List.reverseRecOn generalizing s h with
  | nil =>
    have same : s = { s with layers := lower } := by
      rw [Array.append_empty] at layers
      rw [← layers]
    exact ⟨arranged, ⟨s.pools, s.surfaces, same⟩, fun _ _ => rfl, .nil _, rfl⟩
  | append_singleton below top ih =>
    have whole : s.layers = (lower ++ below.toArray).push top := by
      rw [layers, ← List.push_toArray, Array.append_push]
    have last : (lower ++ below.toArray).size = top.index := by
      refine (arranged.tiered.index _ top ?_).symm
      rw [whole, Array.getElem?_push, if_pos rfl]
    have there : top.index ∈ s.surfaces := by
      rw [arranged.tiered.surfaces, whole, Array.size_push, last]
      exact Nat.lt_succ_self _
    have quartered :
        Quartered { s with layers := (lower ++ below.toArray).push top } hand h.document := by
      rw [← whole]
      exact arranged.quartered
    rw [List.length_append, List.length_singleton]
    unfold Stage.removeLayers
    refine (ends_bind _ _ _).2 ((ends_get _).2 ?_)
    rw [whole, Array.back?_push]
    refine (ends_bind _ _ _).2 ((ends_modify _ _).2 ((ends_bind _ _ _).2 ?_))
    rw [whole, Array.pop_push]
    refine (quartered.pop.discard there).ends ?_
    rintro _ s₁ h₁ ⟨ps₁, rfl, quartered₁, stored₁, rfl⟩
    refine (ih rfl ⟨quartered₁, arranged.tiered.pop whole rfl rfl⟩).ends ?_
    rintro _ s₂ h₂ ⟨arranged₂, ⟨ps₂, surfaces₂, rfl⟩, same, stored₂, rfl⟩
    have order : (below ++ [top]).reverse.flatMap givenBack =
        givenBack top ++ below.reverse.flatMap givenBack := by simp
    refine ⟨arranged₂, ⟨ps₂, surfaces₂, rfl⟩, fun i hi => (same i hi).trans ?_, ?_, ?_⟩
    · refine Std.ExtTreeMap.getElem?_erase.trans (if_neg ?_)
      rw [compare_eq_iff_eq, ← last, Array.size_append]
      omega
    · rw [order]
      exact stored₁.trans stored₂
    · rw [order, List.map_append, List.map_append, emptied_append, List.append_assoc]
      rfl

end Removing

/-! ## What is left -/

/-- The layers above some layer. -/
def above (s : Stage) (top : Nat) : List Layer := s.layers.toList.drop (top + 1)

/-- The nodes of these layers. -/
def leaving (s : Stage) (top : Nat) : List NodeId := ((above s top).flatMap layerNodes).map (·.id)

/-- The layers above `top` are gone. Their nodes are in the pools and in their empty state, the core
was told from the highest layer down, and nothing else has changed but that the mount has fewer
children. -/
structure Lowered (top : Nat) (s : Stage) (h : MemoryHost Recorder) (s' : Stage)
    (h' : MemoryHost Recorder) : Prop where
  layers : s'.layers.toList = s.layers.toList.take (top + 1)
  surfaces : ∀ i : Nat, s'.surfaces[i]? = if i ≤ top then s.surfaces[i]? else none
  stage : s' = { s with pools := s'.pools, surfaces := s'.surfaces, layers := s'.layers }
  told : h'.core = { h.core with
    calls :=
      (List.range' (top + 1) (s.layers.size - (top + 1))).map .removeContext ++ h.core.calls }
  stored : Stored ((above s top).reverse.flatMap givenBack) s.pools s'.pools
  back : ∀ l ∈ above s top, ∀ f ∈ l.frames.values,
    f ∈ shelf s'.pools .div ∧ h'.document.parent? f.id = none ∧ h'.document.children f.id = []
  blank : ∀ n ∈ leaving s top,
    h'.document.node? n = (h.document.node? n).map fun node => .fresh node.kind
  mount :
    h'.document.node? s.mount =
      (h.document.node? s.mount).map (regrouped fun cs => cs.filter (· ∉ leaving s top))
  kept : ∀ n, n ∉ leaving s top → n ≠ s.mount → h'.document.node? n = h.document.node? n
  observed : ∀ n, n ∉ leaving s top →
    (n.index ∈ h'.document.observed ↔ n.index ∈ h.document.observed)
  focused : h'.document.focused = h.document.focused.filter (· ∉ leaving s top)
  document : h'.document = { h.document with
    nodes := h'.document.nodes, observed := h'.document.observed, focused := h'.document.focused }

/-- What is left of a record when some nodes are taken out of the tree. -/
def bereft (ns : List NodeId) (node : MemoryNode) : MemoryNode :=
  { node with parent := node.parent.filter (· ∉ ns), children := node.children.filter (· ∉ ns) }

section Remainders

variable {s : Stage} {h : MemoryHost Recorder} {d : MemoryDocument} {n m : NodeId}
  {ns : List NodeId} {l : Layer} {top : Nat}

lemma bereft_nil (node : MemoryNode) : bereft [] node = node := by
  cases node with
  | mk _ parent => cases parent <;> simp [bereft, Option.filter]

lemma bereft_without (node : MemoryNode) : bereft ns (without n node) = bereft (n :: ns) node := by
  have parent : (if node.parent = some n then none else node.parent).filter (· ∉ ns) =
      node.parent.filter (· ∉ n :: ns) := by
    cases node.parent with
    | none => rfl
    | some p => by_cases same : p = n <;> simp [same, Option.filter]
  have children :
      (node.children.filter (· ≠ n)).filter (· ∉ ns) = node.children.filter (· ∉ n :: ns) := by
    simp [List.filter_filter, Bool.and_comm]
  simp only [bereft, without, parent, children]

/-- Nodes that were reset are empty, and the others have lost them as parent and as children. -/
lemma node?_emptied_of_linked (linked : Linked d) : (emptied ns d).node? m =
    if m ∈ ns then (d.node? m).map
      fun node => .fresh node.kind else (d.node? m).map (bereft ns) := by
  unfold emptied
  induction ns generalizing d with
  | nil => cases found : d.node? m <;> simp [found, bereft_nil]
  | cons n ns ih =>
    rw [List.foldl_cons, ih linked.reset, node?_reset linked]
    cases d.node? m with
    | none => simp
    | some node =>
      by_cases first : m = n
      · subst first
        by_cases later : m ∈ ns <;> simp [later, bereft, MemoryNode.fresh, Option.filter]
      · by_cases later : m ∈ ns
        · simp [first, later, without]
        · simp [first, later, bereft_without]

lemma mem_above : l ∈ above s top ↔ ∃ i, top < i ∧ s.layers[i]? = some l := by
  rw [above, List.mem_iff_getElem?]
  constructor
  · rintro ⟨i, hl⟩
    rw [List.getElem?_drop, Array.getElem?_toList] at hl
    exact ⟨top + 1 + i, by omega, hl⟩
  · rintro ⟨i, higher, hl⟩
    refine ⟨i - (top + 1), ?_⟩
    rw [List.getElem?_drop, Array.getElem?_toList, Nat.add_sub_cancel' higher, hl]

lemma mem_leaving :
    n ∈ leaving s top ↔ ∃ i l, top < i ∧ s.layers[i]? = some l ∧ n ∈ l.canvas.id :: holders l := by
  rw [leaving, List.map_flatMap, List.mem_flatMap]
  constructor
  · rintro ⟨l, hl, hn⟩
    obtain ⟨i, higher, hl⟩ := mem_above.1 hl
    exact ⟨i, l, higher, hl, by rwa [map_layerNodes] at hn⟩
  · rintro ⟨i, l, higher, hl, hn⟩
    exact ⟨l, mem_above.2 ⟨i, higher, hl⟩, by rwa [map_layerNodes]⟩

/-- What goes back is what leaves. -/
lemma mem_givenBack :
    n ∈ ((above s top).reverse.flatMap givenBack).map (·.2.id) ↔ n ∈ leaving s top := by
  have layer (l : Layer) : n ∈ (givenBack l).map (·.2.id) ↔ n ∈ (layerNodes l).map (·.id) := by
    rw [map_layerNodes]
    simp only [givenBack, holders, List.map_append, List.map_map, List.map_cons, List.map_nil,
      List.mem_append, List.mem_cons,
      List.not_mem_nil, or_false, Function.comp_def]
    tauto
  simp only [leaving, List.map_flatMap, List.mem_flatMap, List.mem_reverse, layer]

namespace Quartered

/-- Nothing hangs from a node that leaves but others that do. -/
lemma leaving_of_parent (quartered : Quartered s [] d)
    (vacant : ∀ l ∈ above s top, tenants s d l = []) (hn : n ∈ leaving s top)
    (hm : m ∈ d.children n) : m ∈ leaving s top := by
  obtain ⟨i, l, higher, hl, place⟩ := mem_leaving.1 hn
  rcases List.mem_cons.1 place with rfl | hp
  · rw [quartered.bare i l hl] at hm
    cases hm
  · rcases quartered.frame_or_foreign hl hp hm with ⟨id, f, found, rfl⟩ | foreign
    · exact mem_leaving.2 ⟨i, l, higher, hl, List.mem_cons_of_mem _ (frame_mem_holders found)⟩
    · have tenant := mem_tenants.2 ⟨foreign, n, hp, hm⟩
      rw [vacant l (mem_above.2 ⟨i, higher, hl⟩)] at tenant
      cases tenant

/-- A node that leaves hangs from the mount or from another that does. -/
lemma leaving_of_child (quartered : Quartered s [] d) (hm : m ∈ leaving s top)
    (hn : m ∈ d.children n) :
    n = s.mount ∨ n ∈ leaving s top := by
  have linked := quartered.tidy.linked
  obtain ⟨i, l, higher, hl, place⟩ := mem_leaving.1 hm
  rcases List.mem_cons.1 place with rfl | hp
  · exact .inl (linked.parent_unique hn (quartered.hung i l hl).1)
  · rcases mem_holders.1 hp with rfl | ⟨id, f, found, rfl⟩
    · exact .inl (linked.parent_unique hn (quartered.hung i l hl).2)
    · obtain ⟨p, hp, here⟩ := quartered.frames i l id f hl found
      obtain rfl := linked.parent_unique hn here
      exact .inr (mem_leaving.2 ⟨i, l, higher, hl, List.mem_cons_of_mem _ hp⟩)

lemma mount_not_leaving (quartered : Quartered s [] d) : s.mount ∉ leaving s top := by
  intro inside
  obtain ⟨i, l, _, hl, place⟩ := mem_leaving.1 inside
  exact quartered.staged_ne_mount (staged_of_layer hl place) rfl

/-- A record that does not leave loses the nodes that do from its children, and nothing else. -/
lemma node?_stays (quartered : Quartered s [] d) (vacant : ∀ l ∈ above s top, tenants s d l = [])
    (hm : m ∉ leaving s top) :
    (emptied (((above s top).reverse.flatMap givenBack).map (·.2.id)) d).node? m =
      (d.node? m).map (regrouped fun cs => cs.filter (· ∉ leaving s top)) := by
  rw [node?_emptied_of_linked quartered.tidy.linked, if_neg (mt mem_givenBack.1 hm)]
  cases found : d.node? m with
  | none => rfl
  | some node =>
    have parent :
        node.parent.filter (· ∉ ((above s top).reverse.flatMap givenBack).map (·.2.id)) =
          node.parent := by
      cases above_m : node.parent with
      | none => rfl
      | some p =>
        refine Option.filter_eq_some_iff.2 ⟨rfl, decide_eq_true fun inside => hm ?_⟩
        refine quartered.leaving_of_parent vacant (mem_givenBack.1 inside)
          ((quartered.tidy.linked m p).2 ?_)
        rw [parent?_of_node? found, above_m]
    have children :
        node.children.filter (· ∉ ((above s top).reverse.flatMap givenBack).map (·.2.id)) =
          node.children.filter (· ∉ leaving s top) :=
      List.filter_congr fun c _ => by rw [decide_eq_decide, mem_givenBack]
    rw [Option.map_some, Option.map_some, bereft, parent, children, regrouped]

end Quartered

end Remainders

section Shrinks

variable {s : Stage} {h : MemoryHost Recorder} {top : Nat}

lemma Tiered.index_above (tiered : Tiered s) :
    (above s top).map (·.index) = List.range' (top + 1) (s.layers.size - (top + 1)) := by
  refine List.ext_getElem (by simp [above]) fun i hi _ => ?_
  rw [List.length_map, above, List.length_drop, Array.length_toList] at hi
  have inside : top + 1 + i < s.layers.size := by omega
  have place := tiered.index _ _ (Array.getElem?_eq_getElem inside)
  simpa [above] using place

lemma frame_leaves {l : Layer} {f : OwnedNode} (hl : l ∈ above s top) (hf : f ∈ l.frames.values) :
    f.id ∈ leaving s top := by
  rw [values_eq] at hf
  exact List.mem_map_of_mem
    (List.mem_flatMap.2 ⟨l, hl, List.mem_cons_of_mem _ (List.mem_cons_of_mem _ hf)⟩)

/-- Once the layers above `top` are without members, they go. -/
theorem Arranged.lower (arranged : Arranged s [] h.document)
    (vacant : ∀ l ∈ above s top, tenants s h.document l = []) :
    Yields (Stage.removeLayers (above s top).length) s h fun _ s' h' => Arranged s' [] h'.document ∧
      Lowered top s h s' h' := by
  have quartered := arranged.quartered
  let lower := (s.layers.toList.take (top + 1)).toArray
  have whole : s.layers = lower ++ (above s top).toArray := by
    rw [List.append_toArray, above, List.take_append_drop, Array.toArray_toList]
  have height : lower.size = min (top + 1) s.layers.size := by simp [lower]
  refine (arranged.removeLayers (above s top) whole).ends ?_
  rintro _ s' h' ⟨arranged', ⟨ps, surfaces, rfl⟩, same, stored, rfl⟩
  obtain ⟨nodes, observed, focused, eq, watched, focus⟩ :=
    exists_emptied (((above s top).reverse.flatMap givenBack).map (·.2.id)) h.document
  have stays (m) (hm : m ∉ leaving s top) := quartered.node?_stays (m := m) vacant hm
  have blank (n) (hn : n ∈ leaving s top) :
      (emptied (((above s top).reverse.flatMap givenBack).map (·.2.id)) h.document).node? n =
        (h.document.node? n).map fun node => .fresh node.kind := by
    rw [node?_emptied_of_linked quartered.tidy.linked, if_pos (mem_givenBack.2 hn)]
  refine ⟨arranged', rfl, fun i => ?_, rfl, ?_, stored, fun l hl f hf => ⟨?_, ?_, ?_⟩, blank,
    stays _ quartered.mount_not_leaving,
    fun n hn other => ?_, fun n hn => ?_, ?_, ?_⟩
  · split
    · next low =>
      by_cases inside : i < lower.size
      · exact same i inside
      · have old : i ∉ s.surfaces := by
          rw [arranged.tiered.surfaces]
          omega
        rw [Std.ExtTreeMap.getElem?_eq_none old]
        exact Std.ExtTreeMap.getElem?_eq_none (mt (arranged'.tiered.surfaces i).1 inside)
    · next high =>
      refine Std.ExtTreeMap.getElem?_eq_none (mt (arranged'.tiered.surfaces i).1 ?_)
      change ¬ i < lower.size
      omega
  · rw [← arranged.tiered.index_above, List.map_map]
    rfl
  · rw [(stored .div).1]
    refine List.mem_append_left _
      (List.mem_reverse.2 (List.mem_map.2 ⟨(.div, f), List.mem_filter.2 ⟨?_, rfl⟩, rfl⟩))
    exact List.mem_flatMap.2
      ⟨l, List.mem_reverse.2 hl, List.mem_append_left _ (List.mem_map_of_mem hf)⟩
  · rw [parent?, blank _ (frame_leaves hl hf)]
    cases h.document.node? f.id <;> rfl
  · rw [children, blank _ (frame_leaves hl hf)]
    cases h.document.node? f.id <;> rfl
  · refine (stays n hn).trans ?_
    cases found : h.document.node? n with
    | none => rfl
    | some node =>
      have all : node.children.filter (· ∉ leaving s top) = node.children := by
        refine List.filter_eq_self.2 fun c hc => decide_eq_true fun inside => ?_
        rw [← children_of_node? found] at hc
        rcases quartered.leaving_of_child inside hc with same | above
        · exact other same
        · exact hn above
      rw [Option.map_some, regrouped, all]
  · rw [eq]
    refine (watched n.index).trans (and_iff_left fun inside => hn ?_)
    obtain ⟨m, hm, same⟩ := List.mem_map.1 inside
    rw [show n = m from congrArg NodeId.mk same.symm]
    exact mem_givenBack.1 hm
  · rw [eq]
    refine focus.trans (congrArg (fun p => h.document.focused.filter p) (funext fun n => ?_))
    rw [decide_eq_decide, mem_givenBack]
  · rw [eq]

/-- A stack shrinks to `top` unless something of a caller's hangs above. Then the lowest layer where
it does is told, with the number of such nodes, and nothing changes. -/
theorem Arranged.shrinkTo (arranged : Arranged s [] h.document) (top : UInt32) :
    Ends (Stage.shrinkTo top) s h
      (fun _ s' h' => (∀ l ∈ above s top.toNat, tenants s h.document l = []) ∧
        Arranged s' [] h'.document ∧ Lowered top.toNat s h s' h')
      (fun why s' h' => (s' = s ∧ h' = h) ∧ ∃ (i : Nat) (l : Layer), top.toNat < i ∧
        s.layers[i]? = some l ∧
        tenants s h.document l ≠ [] ∧
        (∀ (j : Nat) (m : Layer), top.toNat < j → j < i → s.layers[j]? = some m →
          tenants s h.document m = []) ∧
        why = .layerInUse i (tenants s h.document l).length) fun _ => False := by
  unfold Stage.shrinkTo
  refine (ends_bind _ _ _).2 ((ends_get _).2 ((ends_bind _ _ _).2 ?_))
  refine (arranged.quartered.requireVacant (above s top.toNat) fun l hl =>
    ?_).mono ?_ ?_ fun _ => id
  · obtain ⟨i, _, hl⟩ := mem_above.1 hl
    exact Array.mem_of_getElem? hl
  · rintro _ _ _ ⟨rfl, rfl, vacant⟩
    exact (arranged.lower vacant).ends fun _ _ _ done => ⟨vacant, done⟩
  · rintro why s' h' ⟨stage, host, before, l, after, split, none_before, some_here, rfl⟩
    have place (k : Nat) : s.layers[top.toNat + 1 + k]? = (before ++ l :: after)[k]? := by
      rw [← split, above, List.getElem?_drop, Array.getElem?_toList]
    have here : s.layers[top.toNat + 1 + before.length]? = some l := by simp [place]
    refine ⟨⟨stage, host⟩, top.toNat + 1 + before.length, l, by omega, here, some_here,
      fun j m higher lower hm => ?_, ?_⟩
    · obtain ⟨k, rfl⟩ : ∃ k, j = top.toNat + 1 + k := ⟨j - (top.toNat + 1), by omega⟩
      rw [place, List.getElem?_append_left (by omega)] at hm
      exact none_before m (List.mem_of_getElem? hm)
    · rw [arranged.tiered.index _ l here]

/-- Whatever a caller asks of the stage, everybody hangs where it should. -/
theorem Arranged.call (arranged : Arranged s [] h.document) (c : StageCall)
    (foreign : ∀ n ∈ c.guests, Foreign s h.document n) :
    Ends c.act s h (fun _ s' h' => Arranged s' [] h'.document)
    (fun _ s' h' => Arranged s' [] h'.document) fun _ => True := by
  have unchanged {s' : Stage} {h' : MemoryHost Recorder} (same : s' = s ∧ h' = h) :
      Arranged s' [] h'.document := by
    obtain ⟨rfl, rfl⟩ := same
    exact arranged
  cases c with
  | growTo top => exact (arranged.growTo top).ends fun _ _ _ grown => grown.1
  | shrinkTo top =>
    exact (arranged.shrinkTo top).mono (fun _ _ _ shrunk => shrunk.2.1)
      (fun _ _ _ kept => unchanged kept.1) fun _ _ => trivial
  | addElement node container layer =>
    have guest : Arranged s [⟨node, .div⟩] h.document :=
      arranged.welcome (foreign node (by simp [StageCall.guests]))
    refine (guest.addElement (by simp) container layer).mono ?_ ?_ fun _ _ => trivial
    · exact fun _ _ _ arranged' => arranged'.alone
    · exact fun _ _ _ arranged' => arranged'.alone
  | addContainer id parent =>
    exact (arranged.addContainer id parent).mono (fun _ _ _ done => done)
      (fun _ _ _ => unchanged) fun _ _ => trivial
  | updateContainer id g =>
    exact (arranged.updateContainer id g).mono (fun _ _ _ done => done)
      (fun _ _ _ => unchanged) fun _ _ => trivial
  | removeContainer id =>
    exact (arranged.removeContainer id).mono (fun _ _ _ done => done)
      (fun _ _ _ => unchanged) fun _ _ => trivial

end Shrinks

/-! ## Tenancies -/

/-- One thing that a caller does: it calls the stage, asks the document about nodes of its own,
takes a node from the pools or gives one back. -/
inductive CallerTurn (s : Stage) (h : MemoryHost Recorder) :
    Stage → MemoryHost Recorder → Prop where
  | called {s' : Stage} {h' : MemoryHost Recorder} {c : StageCall}
    {result : Except PatchError Unit} :
      (∀ n ∈ c.guests, Foreign s h.document n) →
      MemoryHost.patch c.act s h = .ok ((result, s'), h') → CallerTurn s h s' h'
  | asked {r : DocumentRequest} {reply : r.Reply} {d : MemoryDocument} :
      (∀ n ∈ named r, Foreign s h.document n) → answer r h.document = .ok (reply, d) →
      CallerTurn s h s { h with document := d }
  | took {s' : Stage} {h' : MemoryHost Recorder} {kind : NodeKind}
    {result : Except PatchError OwnedNode} :
      MemoryHost.patch (Stage.onPools (Pools.take kind)) s h = .ok ((result, s'), h') →
      CallerTurn s h s' h'
  | gave {s' : Stage} {h' : MemoryHost Recorder} {kind : NodeKind} {n : OwnedNode}
    {result : Except PatchError Unit} :
      Foreign s h.document n.id → MemoryHost.patch (Stage.onPools (Pools.put kind n)) s h =
        .ok ((result, s'), h') →
      CallerTurn s h s' h'

/-- The stages that a caller's turns lead to from where a mount was taken over, with pools whose
nodes are childless. -/
inductive Tenancy (mount : NodeId) (h₀ : MemoryHost Recorder) :
    Stage → MemoryHost Recorder → Prop where
  | attached {ps : NodePools} {s : Stage} {h : MemoryHost Recorder} :
    Apart mount ps [] h₀.document →
      (∀ n ∈ shelved ps, h₀.document.children n.id = []) →
      MemoryHost.serve (Stage.attach ps mount) h₀ = .ok (.ok s, h) → Tenancy mount h₀ s h
  | moved {s s' : Stage} {h h' : MemoryHost Recorder} : Tenancy mount h₀ s h →
    CallerTurn s h s' h' → Tenancy mount h₀ s' h'

section Tenancies

variable {mount : NodeId} {s s' : Stage} {h h' h₀ : MemoryHost Recorder} {ps : NodePools}

/-- The first layer is built as the others are. -/
lemma attach_arranged (a : Apart mount ps [] h₀.document)
    (idle : ∀ n ∈ shelved ps, h₀.document.children n.id = []) :
    Answers (Stage.attach ps mount) h₀ (fun r h => ∃ s, r = .ok s ∧ Arranged s [] h.document)
      fun _ => False := by
  have start : Arranged (bare ps mount) [] h₀.document := by
    refine ⟨⟨a, idle, ?_, ?_, ?_, ?_, ?_⟩, fun i l hl => by simp [bare] at hl,
      fun i => by simp [bare]⟩
    all_goals simp [bare]
  refine (answers_stage _ _).2
    (start.addLayer.mono ?_ (fun _ _ _ => False.elim) fun _ => False.elim)
  rintro _ s h ⟨arranged, _⟩
  exact ⟨s, rfl, arranged⟩

/-- A caller's turn leaves everybody where it should hang. -/
theorem Arranged.turn (arranged : Arranged s [] h.document) (turn : CallerTurn s h s' h') :
    Arranged s' [] h'.document := by
  cases turn with
  | @called _ _ c result foreign run =>
    have kept := arranged.call c foreign
    unfold Ends at kept
    rw [run] at kept
    cases result with
    | ok => exact kept
    | error => exact kept
  | asked foreign run => exact arranged.ask foreign run
  | @took _ _ kind result run =>
    have kept : Yields (Stage.onPools (Pools.take kind)) s h fun _ s' h' =>
        Arranged s' [] h'.document :=
      (ends_onPools _ _ _).2 ((arranged.quartered.take kind).ends fun _ _ _ taken =>
        Arranged.alone ⟨taken.1, arranged.tiered.index, arranged.tiered.surfaces⟩)
    unfold Yields Ends at kept
    rw [run] at kept
    cases result with
    | ok => exact kept
    | error => exact kept.elim
  | @gave _ _ kind n result foreign run =>
    have kept : Yields (Stage.onPools (Pools.put kind n)) s h fun _ s' h' =>
        Arranged s' [] h'.document :=
      (ends_onPools _ _ _).2
        (((arranged.welcome foreign).quartered.put kind).ends fun _ _ _ given =>
          ⟨given.1, arranged.tiered.index, arranged.tiered.surfaces⟩)
    unfold Yields Ends at kept
    rw [run] at kept
    cases result with
    | ok => exact kept
    | error => exact kept.elim

theorem Tenancy.arranged (tenancy : Tenancy mount h₀ s h) : Arranged s [] h.document := by
  induction tenancy with
  | attached a idle run =>
    have start := attach_arranged a idle
    unfold Answers at start
    rw [run] at start
    obtain ⟨s, eq, arranged⟩ := start
    cases eq
    exact arranged
  | moved _ turn arranged => exact arranged.turn turn

/-- At every point of a tenancy and for every `top`, the stack shrinks to `top` exactly when no
caller's node hangs from the overlay of a layer above, or from a container's node there. Otherwise
the refusal tells the lowest such layer and how many such nodes it has, and nothing changes. The
children on a layer are its container nodes and the callers' nodes, so the difference that is
counted is that of the two. -/
theorem shrinking_of_tenancy (tenancy : Tenancy mount h₀ s h) (top : UInt32) :
    Ends (Stage.shrinkTo top) s h
      (fun _ s' h' =>
        (∀ (i : Nat) (l : Layer), top.toNat < i → s.layers[i]? = some l →
          tenants s h.document l = []) ∧
        Lowered top.toNat s h s' h')
      (fun why s' h' => (s' = s ∧ h' = h) ∧ ∃ (i : Nat) (l : Layer), top.toNat < i ∧
        s.layers[i]? = some l ∧
        tenants s h.document l ≠ [] ∧
        (∀ (j : Nat) (m : Layer), top.toNat < j → j < i → s.layers[j]? = some m →
          tenants s h.document m = []) ∧
        why = .layerInUse i (tenants s h.document l).length)
      (fun _ => False) ∧
    ∀ (i : Nat) (l : Layer), s.layers[i]? = some l → (tenants s h.document l).Nodup ∧
      (∀ n, n ∈ tenants s h.document l ↔ Foreign s h.document n ∧ ∃ p ∈ holders l,
        h.document.parent? n = some p) ∧
      Stage.total ((holders l).map fun n => (h.document.children n).length) =
        l.frames.values.length + (tenants s h.document l).length := by
  have arranged := tenancy.arranged
  refine ⟨(arranged.shrinkTo top).mono ?_ (fun _ _ _ refused => refused) fun _ =>
    id, fun i l hl => ?_⟩
  · rintro _ s' h' ⟨vacant, _, lowered⟩
    exact ⟨fun i l higher hl => vacant l (mem_above.2 ⟨i, higher, hl⟩), lowered⟩
  · refine ⟨arranged.quartered.nodup_tenants hl, fun n => ?_, arranged.quartered.total_children hl⟩
    simp only [mem_tenants, ← arranged.quartered.tidy.linked n _]

lemma Tenancy.attempt {cs : List StageCall} (tenancy : Tenancy mount h₀ s h)
    (run : Proofs.attempt cs s h = some (s', h')) :
    Tenancy mount h₀ s' h' := by
  induction cs generalizing s h with
  | nil =>
    cases run
    exact tenancy
  | cons c cs ih =>
    unfold Proofs.attempt at run
    split at run
    · next foreign =>
      split at run
      · next step => exact ih (tenancy.moved (.called foreign step)) run
      · cases run
    · cases run

lemma exists_tenancy (cs : List StageCall) (test : Stage → MemoryHost Recorder → Bool)
    (a : Apart ⟨0⟩ .complete [] h₀.document) (run : tenured h₀ cs test = true) :
    ∃ (s : Stage) (h : MemoryHost Recorder), Tenancy ⟨0⟩ h₀ s h ∧ test s h = true := by
  unfold tenured at run
  split at run
  · next s h start =>
    split at run
    · next made =>
        exact ⟨_, _,
          (Tenancy.attached a (fun n hn => absurd hn List.not_mem_nil) start).attempt made, run⟩
    · cases run
  · cases run

/-- The button hangs in a container in a container on layer 2, below the empty layer 3, so the stack
cannot shrink. When it has moved to layer 0 the stack can, and the two container nodes go with their
layer. -/
theorem shrinking_past_nested_containers : ∃ (s s' : Stage) (h h' : MemoryHost Recorder),
    Tenancy ⟨0⟩ buttonPage s h ∧ s.layers.size = 4 ∧
    Ends (Stage.shrinkTo 0) s h (fun _ _ _ => False) (fun why t g => (t = s ∧ g = h) ∧
      why = .layerInUse 2 1) (fun _ => False) ∧
    Tenancy ⟨0⟩ buttonPage s' h' ∧ (above s' 0).map (fun l => l.frames.values.length) = [0, 2, 0] ∧
    Yields (Stage.shrinkTo 0) s' h' fun _ t g => Lowered 0 s' h' t g := by
  have reached : Reached buttonPage.document :=
    .asked (r := .createElement .button) reached_blankPage (by simp [named]) rfl
  have apart : Apart ⟨0⟩ .complete [] buttonPage.document := Apart.start reached rfl
  let calls : List StageCall :=
    [.addContainer 1 none, .addContainer 2 (some 1), .addElement ⟨1⟩ (some 2) 2, .growTo 3]
  obtain ⟨s, h, tenancy, test⟩ := exists_tenancy calls
    (fun s h =>
      decide (s.layers.toList.map (fun l => (tenants s h.document l).length) = [0, 0, 1, 0]))
        apart (by decide +kernel)
  obtain ⟨s', h', tenancy', test'⟩ := exists_tenancy (calls ++ [.addElement ⟨1⟩ none 0])
    (fun s h =>
      decide (s.layers.toList.map (fun l => (tenants s h.document l).length) = [1, 0, 0, 0]) &&
      decide ((above s 0).map (fun l => l.frames.values.length) = [0, 2, 0]))
        apart (by decide +kernel)
  have members := of_decide_eq_true test
  obtain ⟨members', frames⟩ := Bool.and_eq_true_iff.1 test'
  rw [decide_eq_true_iff] at members'
  have count {s : Stage} {h : MemoryHost Recorder} {counts : List Nat} {i : Nat} {l : Layer}
      (all : s.layers.toList.map (fun l => (tenants s h.document l).length) = counts)
      (hl : s.layers[i]? = some l) :
      counts[i]? = some (tenants s h.document l).length := by
    rw [← all, List.getElem?_map, Array.getElem?_toList, hl]
    rfl
  have size : s.layers.size = 4 := by simpa using congrArg List.length members
  refine ⟨s, s', h, h', tenancy, size, (shrinking_of_tenancy tenancy 0).1.mono ?_ ?_ fun _ => id,
    tenancy', of_decide_eq_true frames,
    (shrinking_of_tenancy tenancy' 0).1.mono (fun _ _ _ done => done.2) ?_ fun _ => id⟩
  · rintro _ _ _ ⟨vacant, _⟩
    have hl : s.layers[2]? = some s.layers[2] := Array.getElem?_eq_getElem (by omega)
    have counted := count members hl
    rw [vacant 2 _ (by decide) hl] at counted
    simp at counted
  · rintro why t g ⟨same, i, l, _, hl, some_here, _, rfl⟩
    have counted := count members hl
    rw [← List.length_pos_iff] at some_here
    obtain rfl : i = 2 := by
      rcases i with _ | _ | _ | _ | i <;> simp at counted <;> omega
    refine ⟨same, ?_⟩
    rw [← Option.some.inj counted]
  · rintro why t g ⟨_, i, l, higher, hl, some_here, _⟩
    have counted := count members' hl
    rw [← List.length_pos_iff] at some_here
    rcases i with _ | _ | _ | _ | i <;> simp at counted <;> omega

end Tenancies

end LayeredPage.Proofs
