import Mathlib
import LayeredPage.Widgets.Scene

/-!
# What a scene holds

The nodes of layers and elements as lists. A change to one layer or to one element changes one block
of the list and leaves the others alone.
-/

namespace LayeredPage.Proofs

section Tables

variable {β : Type} {m : Std.ExtTreeMap UInt32 β} {k : UInt32} {v : β}

lemma nodup_toList (m : Std.ExtTreeMap UInt32 β) : m.toList.Nodup :=
  m.distinct_keys_toList.imp fun apart same => apart (by rw [same]; exact Std.ReflCmp.compare_self)

lemma toList_perm {m' : Std.ExtTreeMap UInt32 β} {es : List (UInt32 × β)} (distinct : es.Nodup)
    (same : ∀ k v, (k, v) ∈ es ↔ m'[k]? = some v) : m'.toList.Perm es := by
  refine (List.perm_ext_iff_of_nodup (nodup_toList m') distinct).2 fun ⟨k, v⟩ => ?_
  rw [Std.ExtTreeMap.mem_toList_iff_getElem?_eq_some, same]

lemma nodup_cons_erase : ((k, v) :: (m.erase k).toList).Nodup := by
  refine List.nodup_cons.2 ⟨?_, nodup_toList _⟩
  rw [Std.ExtTreeMap.mem_toList_iff_getElem?_eq_some]
  simp

lemma getElem?_erase_iff {j : UInt32} {w : β} :
    (m.erase k)[j]? = some w ↔ j ≠ k ∧ m[j]? = some w := by
  rw [Std.ExtTreeMap.getElem?_erase]
  by_cases same : k = j
  · simp [same]
  · simp [same, Ne.symm same]

lemma getElem?_insert_eq (m : Std.ExtTreeMap UInt32 β) (j : UInt32) :
    (m.insert k v)[j]? = if j = k then some v else m[j]? := by
  rw [Std.ExtTreeMap.getElem?_insert]
  by_cases same : j = k
  · simp [same]
  · simp [same, Ne.symm same]

lemma getElem?_insert_of_ne {j : UInt32} (other : j ≠ k) : (m.insert k v)[j]? = m[j]? := by
  rw [getElem?_insert_eq, if_neg other]

lemma getElem?_insert_of_new {j : UInt32} {w : β} (new : m[k]? = none) (found : m[j]? = some w) :
    (m.insert k v)[j]? = some w := by
  rw [getElem?_insert_of_ne, found]
  rintro rfl
  rw [new] at found
  cases found

lemma insert_erase_eq : (m.erase k).insert k v = m.insert k v := by
  refine Std.ExtTreeMap.ext_getElem? fun j => ?_
  by_cases same : j = k
  · rw [getElem?_insert_eq, getElem?_insert_eq, if_pos same, if_pos same]
  · rw [getElem?_insert_of_ne same, getElem?_insert_of_ne same,
      Std.ExtTreeMap.getElem?_erase, if_neg]
    exact fun eq => same (Std.LawfulEqCmp.eq_of_compare eq).symm

lemma erase_of_new (new : m[k]? = none) : m.erase k = m := by
  refine Std.ExtTreeMap.ext_getElem? fun j => ?_
  rw [Std.ExtTreeMap.getElem?_erase]
  split
  · next here => rw [← Std.LawfulEqCmp.eq_of_compare here, new]
  · rfl

lemma erase_erase_eq : (m.erase k).erase k = m.erase k := erase_of_new (by simp)

lemma toList_perm_erase (found : m[k]? = some v) :
    m.toList.Perm ((k, v) :: (m.erase k).toList) := by
  refine toList_perm nodup_cons_erase fun j w => ?_
  rw [List.mem_cons, Std.ExtTreeMap.mem_toList_iff_getElem?_eq_some, getElem?_erase_iff]
  by_cases same : j = k
  · subst same
    simp [found, eq_comm]
  · simp [same]

lemma toList_insert_perm : (m.insert k v).toList.Perm ((k, v) :: (m.erase k).toList) := by
  refine toList_perm nodup_cons_erase fun j w => ?_
  rw [List.mem_cons, Std.ExtTreeMap.mem_toList_iff_getElem?_eq_some, getElem?_erase_iff,
    Std.ExtTreeMap.getElem?_insert]
  by_cases same : j = k
  · subst same
    simp [eq_comm]
  · simp [same, Ne.symm same]

lemma toList_insert_perm_of_new (new : m[k]? = none) :
    (m.insert k v).toList.Perm ((k, v) :: m.toList) := by
  refine toList_insert_perm.trans ((toList_perm (nodup_toList m) fun j w => ?_).cons _)
  rw [Std.ExtTreeMap.mem_toList_iff_getElem?_eq_some, getElem?_erase_iff]
  by_cases same : j = k
  · subst same
    simp [new]
  · simp [same]

lemma values_eq (m : Std.ExtTreeMap UInt32 β) : m.values = m.toList.map (·.2) := by
  obtain ⟨⟨m⟩⟩ := m
  induction m using Quotient.inductionOn with
  | h m =>
    change m.inner.values = (Std.DTreeMap.Internal.Impl.Const.toList m.inner).map (·.2)
    rw [Std.DTreeMap.Internal.Impl.values_eq_map_snd,
      Std.DTreeMap.Internal.Impl.Const.toList_eq_toListModel_map,
      List.map_map]
    rfl

end Tables

/-- Canvas, overlay and container nodes of a layer. -/
def layerNodes (l : Layer) : List OwnedNode := l.canvas :: l.overlay :: l.frames.toList.map (·.2)

/-- The nodes of all layers. -/
def stageNodes (s : Stage) : List OwnedNode := s.layers.toList.flatMap layerNodes

/-- The nodes of all elements. -/
def elementNodes (elements : Std.ExtTreeMap UInt32 Element) : List OwnedNode :=
  elements.toList.flatMap (·.2.nodes)

section Blocks

variable {s : Stage} {l : Layer} {i : Nat} {n : OwnedNode} {id : UInt32} {e e' : Element}
  {elements : Std.ExtTreeMap UInt32 Element}

lemma mem_layerNodes :
    n ∈ layerNodes l ↔ n = l.canvas ∨ n = l.overlay ∨ ∃ id : UInt32, l.frames[id]? = some n := by
  simp only [layerNodes, List.mem_cons, List.mem_map, Prod.exists, exists_eq_right,
    Std.ExtTreeMap.mem_toList_iff_getElem?_eq_some]

lemma mem_stageNodes : n ∈ stageNodes s ↔ ∃ (i : Nat) (l : Layer), s.layers[i]? = some l ∧
    n ∈ layerNodes l := by
  simp only [stageNodes, List.mem_flatMap, Array.mem_toList_iff, Array.mem_iff_getElem?]
  exact ⟨fun ⟨l, ⟨i, hl⟩, hn⟩ => ⟨i, l, hl, hn⟩, fun ⟨i, l, hl, hn⟩ => ⟨l, ⟨i, hl⟩, hn⟩⟩

lemma mem_elementNodes :
    n ∈ elementNodes elements ↔ ∃ (id : UInt32) (e : Element),
    elements[id]? = some e ∧ n ∈ e.nodes := by
  simp only [elementNodes, List.mem_flatMap, Prod.exists,
    Std.ExtTreeMap.mem_toList_iff_getElem?_eq_some]

lemma exists_block {α : Type} (g : α → List OwnedNode) {ls : List α} {i : Nat} {l : α}
    (hl : ls[i]? = some l) :
    ∃ others, (ls.flatMap g).Perm (g l ++ others) ∧
      ∀ f, ((ls.modify i f).flatMap g).Perm (g (f l) ++ others) := by
  induction ls generalizing i with
  | nil => simp at hl
  | cons a ls ih =>
    cases i with
    | zero =>
      obtain rfl : a = l := by simpa using hl
      exact ⟨ls.flatMap g, .refl _, fun f => .refl _⟩
    | succ i =>
      obtain ⟨others, whole, part⟩ := ih (by simpa using hl)
      refine ⟨g a ++ others, ?_, fun f => ?_⟩
      · exact (whole.append_left (g a)).trans (List.perm_append_comm_assoc ..)
      · exact ((part f).append_left (g a)).trans (List.perm_append_comm_assoc ..)

/-- A change to one layer changes its own nodes only. -/
lemma exists_stageNodes_perm (hl : s.layers[i]? = some l) :
    ∃ others, (stageNodes s).Perm (layerNodes l ++ others) ∧
      ∀ f, (stageNodes { s with layers := s.layers.modify i f }).Perm
        (layerNodes (f l) ++ others) := by
  have listed : s.layers.toList[i]? = some l := by simpa using hl
  obtain ⟨others, whole, part⟩ := exists_block layerNodes listed
  refine ⟨others, whole, fun f => ?_⟩
  rw [stageNodes, Array.toList_modify]
  exact part f

lemma stageNodes_push :
    stageNodes { s with layers := s.layers.push l } = stageNodes s ++ layerNodes l := by
  simp [stageNodes]

lemma stageNodes_push_perm (empty : l.frames = ∅) :
    (stageNodes { s with layers := s.layers.push l }).Perm
      (l.canvas :: l.overlay :: stageNodes s) := by
  rw [stageNodes_push, layerNodes, empty]
  exact List.perm_append_comm

/-- A layer gains the node of a container. -/
lemma stageNodes_insert (hl : s.layers[i]? = some l) (new : l.frames[id]? = none) :
    (stageNodes { s with
      layers := s.layers.modify i fun l => { l with frames := l.frames.insert id n } }).Perm
      (n :: stageNodes s) := by
  obtain ⟨others, whole, part⟩ := exists_stageNodes_perm hl
  refine (part _).trans (List.Perm.trans ?_ (whole.symm.cons n))
  rw [← List.cons_append]
  refine List.Perm.append_right others ?_
  have grown := (toList_insert_perm_of_new (v := n) new).map (·.2)
  exact ((grown.cons _).cons _).trans (((List.Perm.swap ..).cons _).trans (.swap ..))

/-- A layer loses the node of a container. -/
lemma stageNodes_erase (hl : s.layers[i]? = some l) (found : l.frames[id]? = some n) :
    (stageNodes s).Perm
      (n :: stageNodes { s with
        layers := s.layers.modify i fun l => { l with frames := l.frames.erase id } }) := by
  obtain ⟨others, whole, part⟩ := exists_stageNodes_perm hl
  refine whole.trans (List.Perm.trans ?_ ((part _).symm.cons n))
  rw [← List.cons_append]
  refine List.Perm.append_right others ?_
  have shrunk := (toList_perm_erase found).map (·.2)
  exact ((shrunk.cons _).cons _).trans (((List.Perm.swap ..).cons _).trans (.swap ..))

lemma elementNodes_erase (found : elements[id]? = some e) :
    (elementNodes elements).Perm (e.nodes ++ elementNodes (elements.erase id)) :=
  (toList_perm_erase found).flatMap_right _

lemma elementNodes_insert :
    (elementNodes (elements.insert id e)).Perm (e.nodes ++ elementNodes (elements.erase id)) :=
  toList_insert_perm.flatMap_right _

end Blocks

end LayeredPage.Proofs
