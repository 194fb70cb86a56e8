import LayeredPage.Proofs.Tenure

/-!
# Who hangs from a layer

The overlay of a layer and the container nodes on it hold two sorts of nodes: container nodes of the
same layer, each hanging from exactly one of them, and nodes that callers brought along. Canvases
and the nodes that wait on a shelf hold nothing. `Quartered` says so, beside some nodes in hand that
are about to enter the stage or have just left it. Each thing that a stage does with a node keeps
it.
-/

namespace LayeredPage.Proofs

open MemoryDocument

/-- The overlay of a layer and its container nodes. -/
def holders (l : Layer) : List NodeId := l.overlay.id :: l.frames.values.map (·.id)

section Holders

variable {s : Stage} {l l' : Layer} {i j : Nat} {n p : NodeId} {id : UInt32} {f : OwnedNode}

lemma mem_holders : p ∈ holders l ↔ p = l.overlay.id ∨ ∃ (id : UInt32) (f : OwnedNode),
    l.frames[id]? = some f ∧ f.id = p := by
  simp only [holders, values_eq, List.mem_cons, List.mem_map, Prod.exists,
    Std.ExtTreeMap.mem_toList_iff_getElem?_eq_some,
    exists_eq_right]
  refine or_congr_right ⟨?_, ?_⟩
  · rintro ⟨f, ⟨id, found⟩, rfl⟩
    exact ⟨id, f, found, rfl⟩
  · rintro ⟨id, f, found, rfl⟩
    exact ⟨f, ⟨id, found⟩, rfl⟩

lemma overlay_mem_holders : l.overlay.id ∈ holders l := List.mem_cons_self

lemma frame_mem_holders (found : l.frames[id]? = some f) : f.id ∈ holders l :=
  mem_holders.2 (.inr ⟨id, f, found, rfl⟩)

lemma map_layerNodes (l : Layer) : (layerNodes l).map (·.id) = l.canvas.id :: holders l := by
  simp [layerNodes, holders, values_eq]

lemma staged_of_layer (hl : s.layers[i]? = some l) (hn : n ∈ l.canvas.id :: holders l) :
    n ∈ (stageNodes s).map (·.id) := by
  rw [← map_layerNodes] at hn
  obtain ⟨m, hm, rfl⟩ := List.mem_map.1 hn
  exact List.mem_map_of_mem (mem_stageNodes.2 ⟨i, l, hl, hm⟩)

lemma staged_of_holder (hl : s.layers[i]? = some l) (hp : p ∈ holders l) :
    p ∈ (stageNodes s).map (·.id) :=
  staged_of_layer hl (List.mem_cons_of_mem _ hp)

lemma staged_of_frame (hl : s.layers[i]? = some l) (found : l.frames[id]? = some f) :
    f.id ∈ (stageNodes s).map (·.id) :=
  staged_of_holder hl (frame_mem_holders found)

/-- A node is on one layer only. -/
lemma layer_unique (distinct : ((stageNodes s).map (·.id)).Nodup) (hl : s.layers[i]? = some l)
    (hl' : s.layers[j]? = some l')
    (hn : n ∈ l.canvas.id :: holders l) (hn' : n ∈ l'.canvas.id :: holders l') : i = j := by
  rw [stageNodes, List.map_flatMap, List.nodup_flatMap] at distinct
  have apart := List.pairwise_iff_getElem.1 distinct.2
  rw [← Array.getElem?_toList] at hl hl'
  obtain ⟨hi, rfl⟩ := List.getElem?_eq_some_iff.1 hl
  obtain ⟨hj, rfl⟩ := List.getElem?_eq_some_iff.1 hl'
  rw [← map_layerNodes] at hn hn'
  rcases lt_trichotomy i j with lower | same | higher
  · exact absurd hn' (List.disjoint_left.1 (apart i j hi hj lower) hn)
  · exact same
  · exact absurd hn (List.disjoint_left.1 (apart j i hj hi higher) hn')

/-- No canvas is the overlay or a container node of a layer. -/
lemma canvas_ne_holder (distinct : ((stageNodes s).map (·.id)).Nodup) (hl : s.layers[i]? = some l)
    (hl' : s.layers[j]? = some l') (hp : p ∈ holders l') : l.canvas.id ≠ p := by
  rintro rfl
  obtain rfl := layer_unique distinct hl hl' List.mem_cons_self (List.mem_cons_of_mem _ hp)
  obtain rfl := Option.some.inj (hl.symm.trans hl')
  rw [stageNodes, List.map_flatMap, List.nodup_flatMap] at distinct
  have own := distinct.1 l (Array.mem_toList_iff.2 (Array.mem_of_getElem? hl))
  rw [map_layerNodes, List.nodup_cons] at own
  exact own.1 hp

end Holders

/-- Overlays and container nodes hold container nodes of their layer, each in one place, and nodes
of callers; canvases and the nodes on the shelves hold nothing. -/
structure Quartered (s : Stage) (hand : List OwnedNode) (d : MemoryDocument) : Prop
    extends Apart s.mount s.pools (stageNodes s ++ hand) d where
  idle : ∀ n ∈ shelved s.pools, d.children n.id = []
  bare : ∀ (i : Nat) (l : Layer), s.layers[i]? = some l → d.children l.canvas.id = []
  hung : ∀ (i : Nat) (l : Layer), s.layers[i]? = some l → l.canvas.id ∈ d.children s.mount ∧
    l.overlay.id ∈ d.children s.mount
  frames : ∀ (i : Nat) (l : Layer) (id : UInt32) (f : OwnedNode), s.layers[i]? = some l →
    l.frames[id]? = some f →
    ∃ p ∈ holders l, f.id ∈ d.children p
  once : ∀ (i : Nat) (l : Layer), s.layers[i]? = some l → ∀ p ∈ holders l, (d.children p).Nodup
  below : ∀ (i : Nat) (l : Layer), s.layers[i]? = some l → ∀ p ∈ holders l, ∀ n ∈ d.children p,
    n ≠ s.mount ∧ n ∉ (shelved s.pools).map (·.id)

/-- Each layer knows its place, and these places are the surfaces. -/
structure Tiered (s : Stage) : Prop where
  index : ∀ (i : Nat) (l : Layer), s.layers[i]? = some l → l.index = i
  surfaces : ∀ i, i ∈ s.surfaces ↔ i < s.layers.size

/-- A layer takes the next place. -/
lemma Tiered.push {s s' : Stage} {l : Layer} (tiered : Tiered s) (index : l.index = s.layers.size)
    (layers : s'.layers = s.layers.push l)
    (surfaces : ∃ n, s'.surfaces = s.surfaces.insert s.layers.size n) : Tiered s' := by
  obtain ⟨n, surfaces⟩ := surfaces
  refine ⟨fun i m hm => ?_, fun i => ?_⟩
  · rw [layers, Array.getElem?_push] at hm
    split at hm
    · next last =>
      obtain rfl := Option.some.inj hm
      rw [index, last]
    · exact tiered.index i m hm
  · rw [surfaces, layers, Array.size_push, Nat.lt_succ_iff_lt_or_eq, ← tiered.surfaces,
      Std.ExtTreeMap.mem_insert, compare_eq_iff_eq]
    tauto

lemma Tiered.of_bones {s s' : Stage} (tiered : Tiered s)
    (layers : s'.layers.map bones = s.layers.map bones)
    (surfaces : s'.surfaces = s.surfaces) : Tiered s' := by
  have size : s'.layers.size = s.layers.size := by simpa using congrArg Array.size layers
  refine ⟨fun i l' hl' => ?_, fun i => ?_⟩
  · have here : (s.layers[i]?).map bones = some (bones l') := by
      rw [← Array.getElem?_map, ← layers, Array.getElem?_map, hl']
      rfl
    obtain ⟨l, hl, same⟩ := Option.map_eq_some_iff.1 here
    exact (congrArg Prod.fst same).symm.trans (tiered.index i l hl)
  · rw [surfaces, size]
    exact tiered.surfaces i

namespace Quartered

variable {s : Stage} {hand hand' : List OwnedNode} {d d' : MemoryDocument} {n p c : NodeId}
  {l : Layer} {i : Nat}

lemma staged_nodup (quartered : Quartered s hand d) : ((stageNodes s).map (·.id)).Nodup := by
  have distinct := quartered.toApart.nodup
  rw [List.map_append] at distinct
  exact distinct.of_append_left

/-- What is in hand is not on the stage, nor the mount, nor on a shelf. -/
lemma loose (quartered : Quartered s hand d) (hn : n ∈ hand.map (·.id)) :
    n ∉ (stageNodes s).map (·.id) ∧ n ≠ s.mount ∧ n ∉ (shelved s.pools).map (·.id) := by
  have distinct := quartered.distinct
  rw [List.nodup_cons, ← List.append_assoc, List.map_append, List.nodup_append] at distinct
  refine ⟨fun staged => ?_, ?_, fun waiting => ?_⟩
  · rw [List.map_append] at distinct
    exact distinct.2.2.2 n (List.mem_append_right _ staged) n hn rfl
  · rintro rfl
    exact distinct.1 (List.mem_append_right _ hn)
  · rw [List.map_append] at distinct
    exact distinct.2.2.2 n (List.mem_append_left _ waiting) n hn rfl

lemma staged_ne_mount (quartered : Quartered s hand d) (hn : n ∈ (stageNodes s).map (·.id)) :
    n ≠ s.mount := by
  refine quartered.toApart.ne_mount ?_
  rw [List.map_append]
  exact List.mem_append_left _ hn

lemma staged_not_shelved (quartered : Quartered s hand d) (hn : n ∈ (stageNodes s).map (·.id)) :
    n ∉ (shelved s.pools).map (·.id) := by
  have distinct := (List.nodup_cons.1 quartered.distinct).2
  rw [List.map_append, List.map_append, List.nodup_append] at distinct
  exact fun waiting => distinct.2.2 n waiting n (List.mem_append_left _ hn) rfl

lemma staged_issued (quartered : Quartered s hand d) (hn : n ∈ (stageNodes s).map (·.id)) :
    d.issued n := by
  refine quartered.toApart.issued_of_mem ?_
  rw [List.map_append]
  exact List.mem_append_left _ hn

lemma hand_issued (quartered : Quartered s hand d) (hn : n ∈ hand.map (·.id)) : d.issued n := by
  refine quartered.toApart.issued_of_mem ?_
  rw [List.map_append]
  exact List.mem_append_right _ hn

/-- Shelves may empty as long as everybody stays where they are. -/
lemma of_children {ps : NodePools} (quartered : Quartered s hand d)
    (apart : Apart s.mount ps (stageNodes s ++ hand') d')
    (fewer : ∀ m ∈ shelved ps, m ∈ shelved s.pools) (same : ∀ m, d'.children m = d.children m) :
    Quartered { s with pools := ps } hand' d' where
  toApart := apart
  idle n hn := (same _).trans (quartered.idle n (fewer n hn))
  bare i l hl := (same _).trans (quartered.bare i l hl)
  hung i l hl := by
    rw [same]
    exact quartered.hung i l hl
  frames i l id f hl found := by
    obtain ⟨p, hp, here⟩ := quartered.frames i l id f hl found
    exact ⟨p, hp, (same p).symm ▸ here⟩
  once i l hl p hp := by
    rw [same]
    exact quartered.once i l hl p hp
  below i l hl p hp n hn := by
    rw [same] at hn
    obtain ⟨not_mount, not_waiting⟩ := quartered.below i l hl p hp n hn
    exact ⟨not_mount, fun waiting => not_waiting (List.map_subset _ fewer waiting)⟩

/-- Nodes of callers may leave. -/
lemma quiet (quartered : Quartered s hand d)
    (apart : Apart s.mount s.pools (stageNodes s ++ hand') d')
    (quiet : ∀ p ∈ s.mount :: (shelved s.pools ++ stageNodes s).map (·.id),
      Undisturbed p ((stageNodes s).map (·.id)) d d') : Quartered s hand' d' := by
  have stage {p : NodeId} (hp : p ∈ (stageNodes s).map (·.id)) :
      Undisturbed p ((stageNodes s).map (·.id)) d d' := by
    refine quiet p (List.mem_cons_of_mem _ ?_)
    rw [List.map_append]
    exact List.mem_append_right _ hp
  have nothing {p : NodeId} (u : Undisturbed p ((stageNodes s).map (·.id)) d d')
    (none_below : d.children p = []) :
      d'.children p = [] := by
    obtain ⟨q, children, _⟩ := u.children
    rw [children, none_below, List.filter_nil]
  have stays {n p : NodeId} (u : Undisturbed p ((stageNodes s).map (·.id)) d d')
    (hn : n ∈ (stageNodes s).map (·.id)) (here : n ∈ d.children p) : n ∈ d'.children p := by
    obtain ⟨q, children, all⟩ := u.children
    rw [children]
    exact List.mem_filter.2 ⟨here, all n hn⟩
  refine ⟨apart, fun n hn => ?_, fun i l hl => ?_, fun i l hl => ⟨?_, ?_⟩, fun i l id f hl found =>
    ?_, fun i l hl p hp => ?_,
    fun i l hl p hp n hn => ?_⟩
  · refine nothing (quiet _ (List.mem_cons_of_mem _ ?_)) (quartered.idle n hn)
    exact List.mem_map_of_mem (List.mem_append_left _ hn)
  · exact nothing (stage (staged_of_layer hl List.mem_cons_self)) (quartered.bare i l hl)
  · exact stays (quiet _ List.mem_cons_self) (staged_of_layer hl List.mem_cons_self)
      (quartered.hung i l hl).1
  · exact stays (quiet _ List.mem_cons_self) (staged_of_holder hl overlay_mem_holders)
      (quartered.hung i l hl).2
  · obtain ⟨p, hp, here⟩ := quartered.frames i l id f hl found
    exact ⟨p, hp, stays (stage (staged_of_holder hl hp)) (staged_of_frame hl found) here⟩
  · obtain ⟨q, children, _⟩ := (stage (staged_of_holder hl hp)).children
    rw [children]
    exact (quartered.once i l hl p hp).filter _
  · obtain ⟨q, children, _⟩ := (stage (staged_of_holder hl hp)).children
    rw [children] at hn
    exact quartered.below i l hl p hp n (List.mem_of_mem_filter hn)

/-- A node in hand may be hung under the mount or on a layer. -/
lemma append (quartered : Quartered s hand d)
    (hp : p = s.mount ∨ ∃ (i : Nat) (l : Layer), s.layers[i]? = some l ∧ p ∈ holders l)
    (hc : c ∈ hand.map (·.id)) : Quartered s hand (d.append p c) := by
  obtain ⟨not_staged, not_mount, not_shelved⟩ := quartered.loose hc
  have parent_issued : d.issued p := by
    rcases hp with rfl | ⟨i, l, hl, hp⟩
    · exact quartered.toApart.mounted
    · exact quartered.staged_issued (staged_of_holder hl hp)
  have child_issued := quartered.hand_issued hc
  have children (m) := children_append (m := m) (c := c) quartered.tidy.linked parent_issued
  have nothing {m : NodeId} (other : m ≠ p) (none_below : d.children m = []) :
      (d.append p c).children m = [] := by
    rw [children, none_below, if_neg other]
    rfl
  have stays {n m : NodeId} (hn : n ∈ (stageNodes s).map (·.id)) (here : n ∈ d.children m) :
      n ∈ (d.append p c).children m := by
    rw [children, List.mem_append, List.mem_filter]
    exact .inl ⟨here, decide_eq_true (ne_of_mem_of_not_mem hn not_staged)⟩
  refine ⟨quartered.toApart.change (quartered.tidy.append parent_issued child_issued)
    size_append.ge, fun n hn => ?_, fun i l hl => ?_,
    fun i l hl => ⟨?_, ?_⟩, fun i l id f hl found => ?_, fun i l hl q hq => ?_,
    fun i l hl q hq n hn => ?_⟩
  · refine nothing ?_ (quartered.idle n hn)
    have waiting : n.id ∈ (shelved s.pools).map (·.id) := List.mem_map_of_mem hn
    rcases hp with rfl | ⟨i, l, hl, hp⟩
    · have distinct := (List.nodup_cons.1 quartered.distinct).1
      rw [List.map_append] at distinct
      exact ne_of_mem_of_not_mem (List.mem_append_left _ waiting) distinct
    · exact ne_of_mem_of_not_mem waiting (quartered.staged_not_shelved (staged_of_holder hl hp))
  · refine nothing ?_ (quartered.bare i l hl)
    rcases hp with rfl | ⟨j, l', hl', hp⟩
    · exact quartered.staged_ne_mount (staged_of_layer hl List.mem_cons_self)
    · exact canvas_ne_holder quartered.staged_nodup hl hl' hp
  · exact stays (staged_of_layer hl List.mem_cons_self) (quartered.hung i l hl).1
  · exact stays (staged_of_holder hl overlay_mem_holders) (quartered.hung i l hl).2
  · obtain ⟨q, hq, here⟩ := quartered.frames i l id f hl found
    exact ⟨q, hq, stays (staged_of_frame hl found) here⟩
  · rw [children, List.nodup_append]
    refine ⟨(quartered.once i l hl q hq).filter _, by split <;> simp, fun a ha b hb => ?_⟩
    split at hb
    · rintro rfl
      simp_all
    · cases hb
  · rw [children, List.mem_append, List.mem_filter] at hn
    rcases hn with ⟨old, _⟩ | new
    · exact quartered.below i l hl q hq n old
    · split at new
      · obtain rfl := List.mem_singleton.1 new
        exact ⟨not_mount, not_shelved⟩
      · cases new

lemma perm (quartered : Quartered s hand d) (perm : hand.Perm hand') : Quartered s hand' d :=
  quartered.of_children (quartered.toApart.perm (perm.append_left _)) (fun _ hm => hm) fun _ => rfl

/-- Surfaces do not matter. -/
lemma withSurfaces (quartered : Quartered s hand d) (surfaces : Surfaces) :
    Quartered { s with surfaces } hand d :=
  ⟨quartered.toApart, quartered.idle, quartered.bare, quartered.hung, quartered.frames,
    quartered.once, quartered.below⟩

/-- A node in hand comes to rest. -/
lemma reset {o : OwnedNode} {ps : NodePools} (quartered : Quartered s (o :: hand) d)
    (apart : Apart s.mount ps (stageNodes s ++ hand) (d.reset o.id))
    (shelves : ∀ m ∈ shelved ps, m = o ∨ m ∈ shelved s.pools) :
    Quartered { s with pools := ps } hand (d.reset o.id) := by
  obtain ⟨not_staged, not_mount, not_shelved⟩ := quartered.loose (n := o.id) List.mem_cons_self
  have children (m) := children_reset (n := o.id) (m := m) quartered.tidy.linked
  have nothing {m : NodeId} (none_below : d.children m = []) : (d.reset o.id).children m = [] := by
    rw [children, none_below]
    split <;> rfl
  have stays {m p : NodeId} (hm : m ∈ (stageNodes s).map (·.id)) (other : p ≠ o.id)
    (here : m ∈ d.children p) :
      m ∈ (d.reset o.id).children p := by
    rw [children, if_neg other, List.mem_filter]
    exact ⟨here, decide_eq_true (ne_of_mem_of_not_mem hm not_staged)⟩
  have kept {i : Nat} {l : Layer} {p : NodeId} (hl : s.layers[i]? = some l) (hp : p ∈ holders l) :
      (d.reset o.id).children p = (d.children p).filter (· ≠ o.id) := by
    rw [children, if_neg (ne_of_mem_of_not_mem (staged_of_holder hl hp) not_staged)]
  refine ⟨apart, fun n hn => ?_, fun i l hl => nothing (quartered.bare i l hl),
    fun i l hl => ⟨?_, ?_⟩,
    fun i l id f hl found => ?_, fun i l hl p hp => ?_, fun i l hl p hp n hn => ?_⟩
  · rcases shelves n hn with rfl | waiting
    · rw [children, if_pos rfl]
    · exact nothing (quartered.idle n waiting)
  · exact stays (staged_of_layer hl List.mem_cons_self) not_mount.symm (quartered.hung i l hl).1
  · exact stays (staged_of_holder hl overlay_mem_holders) not_mount.symm (quartered.hung i l hl).2
  · obtain ⟨p, hp, here⟩ := quartered.frames i l id f hl found
    exact ⟨p, hp,
      stays (staged_of_frame hl found)
        (ne_of_mem_of_not_mem (staged_of_holder hl hp) not_staged) here⟩
  · rw [kept hl hp]
    exact (quartered.once i l hl p hp).filter _
  · rw [kept hl hp, List.mem_filter, decide_eq_true_eq] at hn
    obtain ⟨not_mount, not_waiting⟩ := quartered.below i l hl p hp n hn.1
    refine ⟨not_mount, fun waiting => ?_⟩
    obtain ⟨m, hm, rfl⟩ := List.mem_map.1 waiting
    rcases shelves m hm with rfl | hm
    · exact hn.2 rfl
    · exact not_waiting (List.mem_map_of_mem hm)

/-- A layer joins the stack, its canvas and overlay under the mount and nothing below them. -/
lemma push (quartered : Quartered s (l.canvas :: l.overlay :: hand) d) (frames : l.frames = ∅)
    (canvas : d.children l.canvas.id = []) (overlay : d.children l.overlay.id = [])
    (above : l.canvas.id ∈ d.children s.mount ∧ l.overlay.id ∈ d.children s.mount) :
    Quartered { s with layers := s.layers.push l } hand d := by
  have grown :
      (stageNodes { s with layers := s.layers.push l } ++ hand).Perm
        (stageNodes s ++ l.canvas :: l.overlay :: hand) := by
    refine ((stageNodes_push_perm frames).append_right hand).trans ?_
    exact List.perm_append_comm_assoc [l.canvas, l.overlay] _ _
  have place {j : Nat} {m : Layer} (hm : (s.layers.push l)[j]? = some m) :
      m = l ∨ s.layers[j]? = some m := by
    rw [Array.getElem?_push] at hm
    split at hm
    · exact .inl (Option.some.inj hm).symm
    · exact .inr hm
  have alone : holders l = [l.overlay.id] := by
    rw [holders, frames, values_eq]
    rfl
  have none_below {p : NodeId} (hp : p ∈ holders l) : d.children p = [] := by
    rw [alone, List.mem_singleton] at hp
    rw [hp, overlay]
  refine ⟨quartered.toApart.perm grown.symm, quartered.idle, fun j m hm => ?_, fun j m hm => ?_,
    fun j m id f hm found => ?_,
    fun j m hm p hp => ?_, fun j m hm p hp n hn => ?_⟩
  · rcases place hm with rfl | hm
    · exact canvas
    · exact quartered.bare j m hm
  · rcases place hm with rfl | hm
    · exact above
    · exact quartered.hung j m hm
  · rcases place hm with rfl | hm
    · simp [frames] at found
    · exact quartered.frames j m id f hm found
  · rcases place hm with rfl | hm
    · rw [none_below hp]
      exact List.nodup_nil
    · exact quartered.once j m hm p hp
  · rcases place hm with rfl | hm
    · rw [none_below hp] at hn
      cases hn
    · exact quartered.below j m hm p hp n hn

/-- A node in hand that hangs on a layer, with nothing below it, joins as a container's. -/
lemma furnish {layer : Nat} {id : UInt32} {node : OwnedNode}
    (quartered : Quartered s (node :: hand) d) (hl : s.layers[layer]? = some l)
    (new : l.frames[id]? = none) (hp : p ∈ holders l) (here : node.id ∈ d.children p)
    (blank : d.children node.id = []) :
    Quartered (furnished s s.pools layer id node) hand d := by
  have grown :
      (stageNodes (furnished s s.pools layer id node) ++ hand).Perm
        (stageNodes s ++ node :: hand) :=
    ((stageNodes_insert hl new).append_right hand).trans List.perm_middle.symm
  have place {j : Nat} {m : Layer} (hm : (furnished s s.pools layer id node).layers[j]? = some m) :
      (j = layer ∧ m = { l with frames := l.frames.insert id node }) ∨ s.layers[j]? = some m := by
    by_cases same : j = layer
    · subst same
      exact .inl ⟨rfl, (Option.some.inj ((furnished_here hl).symm.trans hm)).symm⟩
    · rw [furnished_there same] at hm
      exact .inr hm
  have holder {q : NodeId} : q ∈ holders { l with frames := l.frames.insert id node } ↔
      q = node.id ∨ q ∈ holders l := by
    rw [mem_holders, mem_holders]
    constructor
    · rintro (rfl | ⟨j, f, found, rfl⟩)
      · exact .inr (.inl rfl)
      · rw [getElem?_insert_eq] at found
        split at found
        · exact .inl (congrArg OwnedNode.id (Option.some.inj found).symm)
        · exact .inr (.inr ⟨j, f, found, rfl⟩)
    · rintro (rfl | rfl | ⟨j, f, found, rfl⟩)
      · exact .inr ⟨id, node, by simp, rfl⟩
      · exact .inl rfl
      · exact .inr ⟨j, f, getElem?_insert_of_new new found, rfl⟩
  refine ⟨quartered.toApart.perm grown.symm, quartered.idle, fun j m hm => ?_, fun j m hm => ?_,
    fun j m k f hm found => ?_,
    fun j m hm q hq => ?_, fun j m hm q hq n hn => ?_⟩
  · rcases place hm with ⟨rfl, rfl⟩ | hm
    · exact quartered.bare j l hl
    · exact quartered.bare j m hm
  · rcases place hm with ⟨rfl, rfl⟩ | hm
    · exact quartered.hung j l hl
    · exact quartered.hung j m hm
  · rcases place hm with ⟨rfl, rfl⟩ | hm
    · rw [getElem?_insert_eq] at found
      split at found
      · obtain rfl := Option.some.inj found
        exact ⟨p, holder.2 (.inr hp), here⟩
      · obtain ⟨q, hq, below⟩ := quartered.frames j l k f hl found
        exact ⟨q, holder.2 (.inr hq), below⟩
    · exact quartered.frames j m k f hm found
  · rcases place hm with ⟨rfl, rfl⟩ | hm
    · rcases holder.1 hq with rfl | hq
      · rw [blank]
        exact List.nodup_nil
      · exact quartered.once j l hl q hq
    · exact quartered.once j m hm q hq
  · rcases place hm with ⟨rfl, rfl⟩ | hm
    · rcases holder.1 hq with rfl | hq
      · rw [blank] at hn
        cases hn
      · exact quartered.below j l hl q hq n hn
    · exact quartered.below j m hm q hq n hn

/-- A container's node on a layer that has nothing below it leaves the stage. -/
lemma unframe {layer : Nat} {id : UInt32} {node : OwnedNode} (quartered : Quartered s hand d)
    (hl : s.layers[layer]? = some l)
    (found : l.frames[id]? = some node) (blank : d.children node.id = []) :
    Quartered (stripped s s.pools layer id) (node :: hand) d := by
  have lost :
      (stageNodes s ++ hand).Perm (stageNodes (stripped s s.pools layer id) ++ node :: hand) :=
    ((stageNodes_erase hl found).append_right hand).trans List.perm_middle.symm
  -- A node that something hangs from stays on its layer.
  have holder {j : Nat} {m m' : Layer} {q n : NodeId} (hm : s.layers[j]? = some m)
      (hm' : (stripped s s.pools layer id).layers[j]? = some m') (hq : q ∈ holders m)
      (hn : n ∈ d.children q) : q ∈ holders m' := by
    by_cases same : j = layer
    · subst same
      obtain rfl := Option.some.inj (hl.symm.trans hm)
      obtain rfl := Option.some.inj ((stripped_here hl).symm.trans hm')
      rcases mem_holders.1 hq with rfl | ⟨k, f, hf, rfl⟩
      · exact overlay_mem_holders
      · refine frame_mem_holders (getElem?_erase_iff.2 ⟨?_, hf⟩)
        rintro rfl
        obtain rfl := Option.some.inj (found.symm.trans hf)
        rw [blank] at hn
        cases hn
    · rw [stripped_there same] at hm'
      obtain rfl := Option.some.inj (hm.symm.trans hm')
      exact hq
  have fewer {j : Nat} {m' : Layer} (hm' : (stripped s s.pools layer id).layers[j]? = some m') :
      ∃ m, s.layers[j]? = some m ∧ m'.canvas = m.canvas ∧ m'.overlay = m.overlay ∧
        (∀ (k : UInt32) (f : OwnedNode), m'.frames[k]? = some f → m.frames[k]? = some f) ∧
        ∀ q ∈ holders m', q ∈ holders m := by
    obtain ⟨m, hm, canvas, overlay, frames⟩ := exists_of_stripped hm'
    have kept (k : UInt32) (f : OwnedNode) (hf : m'.frames[k]? = some f) :
        m.frames[k]? = some f := (frames k f hf).1
    refine ⟨m, hm, canvas, overlay, kept, fun q hq => ?_⟩
    rw [mem_holders, overlay] at hq
    exact mem_holders.2 (hq.imp_right fun ⟨k, f, hf, eq⟩ => ⟨k, f, kept k f hf, eq⟩)
  refine ⟨quartered.toApart.perm lost, quartered.idle, fun j m' hm' => ?_, fun j m' hm' => ?_,
    fun j m' k f hm' hf => ?_,
    fun j m' hm' q hq => ?_, fun j m' hm' q hq n hn =>
      ?_⟩ <;> obtain ⟨m, hm, canvas, overlay, frames, inside⟩ := fewer hm'
  · rw [canvas]
    exact quartered.bare j m hm
  · rw [canvas, overlay]
    exact quartered.hung j m hm
  · obtain ⟨q, hq, here⟩ := quartered.frames j m k f hm (frames k f hf)
    exact ⟨q, holder hm hm' hq here, here⟩
  · exact quartered.once j m hm q (inside q hq)
  · exact quartered.below j m hm q (inside q hq) n hn

end Quartered

/-! ## Steps -/

section Shelves

variable {ps : NodePools} {h : MemoryHost Recorder} {n : OwnedNode}

lemma mem_shelved : n ∈ shelved ps ↔ ∃ kind, n ∈ shelf ps kind := by
  rw [shelved, List.mem_flatMap]
  exact exists_congr fun kind => and_iff_right (by cases kind <;> simp [NodeKind.all])

/-- A node that is handed out waited on a shelf or is new. Nobody gets another child. -/
lemma take_origin (stocked : Stocked true ps) (kind : NodeKind) :
    Yields (Pools.take kind : Work NodePools OwnedNode) ps h fun n ps' h' =>
      (∀ m ∈ shelved ps', m ∈ shelved ps) ∧
      (n ∈ shelved ps ∨ h.document.children n.id = []) ∧ ∀ m,
      h'.document.children m = h.document.children m := by
  obtain ⟨p, hp, _, make, _⟩ := stocked kind
  have fewer {q : Pool (Script Patching) OwnedNode} (sub : ∀ m ∈ q.free, m ∈ p.free) (m)
    (hm : m ∈ shelved (ps.set kind q)) :
      m ∈ shelved ps := by
    obtain ⟨k, hm⟩ := mem_shelved.1 hm
    rw [shelf_set] at hm
    split at hm
    · exact mem_shelved.2 ⟨kind, by rw [shelf_of_get? hp]; exact sub m hm⟩
    · exact mem_shelved.2 ⟨k, hm⟩
  refine (ends_take hp _).2 ?_
  cases free : p.free with
  | cons n rest =>
    refine (answers_take_shelf free _).2 ⟨fewer fun m hm => ?_, .inl ?_, fun _ => rfl⟩
    · rw [free]
      exact List.mem_cons_of_mem _ hm
    · exact mem_shelved.2 ⟨kind, by rw [shelf_of_get? hp, free]; exact List.mem_cons_self⟩
  | nil =>
    have nowhere : h.document.children (h.document.create kind).1 = [] := by
      simp [MemoryDocument.children, MemoryDocument.create, node?]
    refine (answers_take_made free make _).2 ⟨fewer fun m hm => ?_, .inr nowhere, fun m => ?_⟩
    · exact hm
    · unfold MemoryDocument.children
      rw [node?_create]
      by_cases new : m = (h.document.create kind).1
      · subst new
        simp [MemoryDocument.create, node?, MemoryNode.fresh]
      · rw [if_neg new]

/-- What comes back to a pool lies on top of its shelf, and the other shelves are as they were. -/
lemma put_shelves (stocked : Stocked true ps) (hn : h.document.issued n.id) (kind : NodeKind) :
    Yields (Pools.put kind n : Work NodePools Unit) ps h fun _ ps' h' =>
      (∀ k, shelf ps' k = if k = kind then n :: shelf ps k else shelf ps k) ∧
      (∀ k, made ps' k = made ps k) ∧
        h' = { h with document := h.document.reset n.id } := by
  obtain ⟨p, hp, keeps, _, reset⟩ := stocked kind
  refine (ends_put hp _ _).2 ((answers_put reset hn _).2 ?_)
  rw [if_pos keeps]
  refine ⟨fun k => ?_, fun k => ?_, rfl⟩
  · rw [shelf_set]
    by_cases same : k = kind
    · rw [if_pos same, if_pos same, same, shelf_of_get? hp]
    · rw [if_neg same, if_neg same]
  · rw [made_set]
    split
    · next same => rw [same, made_of_get? hp]
    · rfl

end Shelves

namespace Quartered

section Steps

variable {σ α : Type} {s : Stage} {hand : List OwnedNode} {h : MemoryHost Recorder} {n : OwnedNode}
  {p c : NodeId} {t : σ}
  {post : α → σ → MemoryHost Recorder → Prop}
  {refused : PatchError → σ → MemoryHost Recorder → Prop} {breach : Breach → Prop}
  {f : Unit → Work σ α}

/-- A node that is taken has nothing below it. -/
theorem take (quartered : Quartered s hand h.document) (kind : NodeKind) :
    Yields (Pools.take kind : Work NodePools OwnedNode) s.pools h fun n ps h' =>
      Quartered { s with pools := ps } (n :: hand) h'.document ∧ h'.document.children n.id = [] ∧
        (∀ m, h'.document.children m = h.document.children m) ∧ h'.core = h.core := by
  refine (Yields.and (quartered.toApart.take kind) (take_origin quartered.stocked kind)).ends ?_
  rintro n ps h' ⟨⟨apart, core, _⟩, fewer, origin, same⟩
  refine ⟨quartered.of_children (apart.perm List.perm_middle.symm) fewer same, ?_, same, core⟩
  rw [same]
  rcases origin with waiting | new
  · exact quartered.idle n waiting
  · exact new

/-- A node in hand is given back. -/
theorem put (quartered : Quartered s (n :: hand) h.document) (kind : NodeKind) :
    Yields (Pools.put kind n : Work NodePools Unit) s.pools h fun _ ps h' =>
      Quartered { s with pools := ps } hand h'.document ∧
        (∀ k, shelf ps k = if k = kind then n :: shelf s.pools k else shelf s.pools k) ∧
        (∀ k, made ps k = made s.pools k) ∧ h' = { h with document := h.document.reset n.id } := by
  have apart : Apart s.mount s.pools (n :: (stageNodes s ++ hand)) h.document :=
    quartered.toApart.perm List.perm_middle
  have issued := quartered.hand_issued (n := n.id) List.mem_cons_self
  refine (Yields.and (apart.put kind) (put_shelves quartered.stocked issued kind)).ends ?_
  rintro _ ps h' ⟨⟨apart', rfl⟩, shelves, made, _⟩
  refine ⟨quartered.reset apart' fun m hm => ?_, shelves, made, rfl⟩
  obtain ⟨k, hm⟩ := mem_shelved.1 hm
  rw [shelves] at hm
  split at hm
  · exact (List.mem_cons.1 hm).imp_right fun waiting => mem_shelved.2 ⟨k, waiting⟩
  · exact .inr (mem_shelved.2 ⟨k, hm⟩)

/-- A node in hand is written to. -/
lemma write (quartered : Quartered s hand h.document) (hc : c ∈ hand.map (·.id)) (w : NodeWrite)
    (hw : replaces w = false) (next : ∀ h' : MemoryHost Recorder, Quartered s hand h'.document →
      (∀ m, h'.document.children m = h.document.children m) → h'.core = h.core →
      Ends (f ()) t h' post refused breach) :
    Ends (liftM (w.apply c) >>= f) t h post refused breach := by
  have issued := quartered.hand_issued hc
  refine ends_write w issued fun h' doc core => ?_
  have same (m) : h'.document.children m = h.document.children m := by
    rw [doc, children_written quartered.tidy.linked, if_neg (by simp [hw])]
  refine next h' (quartered.of_children ?_ (fun _ hm => hm) same) same core
  rw [doc]
  exact quartered.toApart.change (quartered.tidy.written w issued) (size_written w).ge

/-- A node in hand is hung under the mount or on a layer. -/
lemma hang (quartered : Quartered s hand h.document)
    (hp : p = s.mount ∨ ∃ (i : Nat) (l : Layer), s.layers[i]? = some l ∧ p ∈ holders l)
    (hc : c ∈ hand.map (·.id)) (next : ∀ h' : MemoryHost Recorder, Quartered s hand h'.document →
      (∀ m, h'.document.children m = (h.document.children m).filter (· ≠ c) ++ if m =
        p then [c] else []) →
      h'.core = h.core → Ends (f ()) t h' post refused breach) :
    Ends (liftM (ask (.appendChild p c)) >>= f) t h post refused breach := by
  have parent_issued : h.document.issued p := by
    rcases hp with rfl | ⟨i, l, hl, hp⟩
    · exact quartered.toApart.mounted
    · exact quartered.staged_issued (staged_of_holder hl hp)
  refine ends_append parent_issued (quartered.hand_issued hc) fun h' doc core => ?_
  refine next h' ?_ (fun m => ?_) core
  · rw [doc]
    exact quartered.append hp hc
  · rw [doc]
    exact children_append quartered.tidy.linked parent_issued

end Steps

end Quartered

end LayeredPage.Proofs
