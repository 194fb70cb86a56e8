import LayeredPage.Proofs.Holdings
import LayeredPage.Proofs.Ownership

/-!
# Other names for nodes

Two runs that make nodes at different times give them different names. Everything that holds nodes
can be read under other names, and stays what it is where the names of its nodes stay.
-/

namespace LayeredPage.Proofs

open MemoryDocument

def renamedNode (f : NodeId → NodeId) (n : OwnedNode) : OwnedNode := { n with id := f n.id }

def renamedRecord (f : NodeId → NodeId) (node : MemoryNode) : MemoryNode :=
  { node with parent := node.parent.map f, children := node.children.map f }

def renamedLayer (f : NodeId → NodeId) (l : Layer) : Layer where
  index := l.index
  canvas := renamedNode f l.canvas
  overlay := renamedNode f l.overlay
  frames := l.frames.map fun _ => renamedNode f

def renamedElement (f : NodeId → NodeId) (e : Element) : Element :=
  { e with
    leaf := renamedNode f e.leaf
    parts := e.parts.map (renamedNode f)
    options := e.options.map (renamedNode f) }

def renamedElements (f : NodeId → NodeId) (elements : Std.ExtTreeMap UInt32 Element) :
    Std.ExtTreeMap UInt32 Element :=
  elements.map fun _ => renamedElement f

section Tables

variable {β γ : Type} {m : Std.ExtTreeMap UInt32 β} {k : UInt32} {v : β} {g g' : β → γ}

lemma map_insert_eq : (m.insert k v).map (fun _ => g) = (m.map fun _ => g).insert k (g v) := by
  refine Std.ExtTreeMap.ext_getElem? fun j => ?_
  rw [Std.ExtTreeMap.getElem?_map, Std.ExtTreeMap.getElem?_insert, Std.ExtTreeMap.getElem?_insert,
    Std.ExtTreeMap.getElem?_map]
  split <;> rfl

lemma map_erase_eq : (m.erase k).map (fun _ => g) = (m.map fun _ => g).erase k := by
  refine Std.ExtTreeMap.ext_getElem? fun j => ?_
  rw [Std.ExtTreeMap.getElem?_map, Std.ExtTreeMap.getElem?_erase, Std.ExtTreeMap.getElem?_erase,
    Std.ExtTreeMap.getElem?_map]
  split <;> rfl

lemma map_eq_map (same : ∀ (k : UInt32) (v : β), m[k]? = some v → g v = g' v) :
    (m.map fun _ => g) = m.map fun _ => g' := by
  refine Std.ExtTreeMap.ext_getElem? fun j => ?_
  rw [Std.ExtTreeMap.getElem?_map, Std.ExtTreeMap.getElem?_map]
  cases found : m[j]? with
  | none => rfl
  | some v => exact congrArg some (same j v found)

end Tables

/-- Names that others know stay. -/
def Steady (base : Nat) (kept : List OwnedNode) (f f' : NodeId → NodeId) : Prop :=
  ∀ n, Known base kept n → f' n = f n

section Names

variable {base : Nat} {f f' f'' : NodeId → NodeId} {kept kept' : List OwnedNode} {n : OwnedNode}
  {l : Layer} {e : Element} {elements : Std.ExtTreeMap UInt32 Element}

lemma Steady.refl (f : NodeId → NodeId) : Steady base kept f f := fun _ _ => rfl

lemma Steady.trans (first : Steady base kept f f') (second : Steady base kept f' f'') :
    Steady base kept f f'' :=
  fun n hn => (second n hn).trans (first n hn)

lemma Steady.sub (steady : Steady base kept f f') (less : ∀ n ∈ kept', n ∈ kept) :
    Steady base kept' f f' := by
  refine fun n hn => steady n (hn.imp_right fun inside => ?_)
  obtain ⟨m, hm, rfl⟩ := List.mem_map.1 inside
  exact List.mem_map_of_mem (less m hm)

lemma Steady.node (steady : Steady base kept f f') (hn : n ∈ kept) :
    renamedNode f' n = renamedNode f n := by
  unfold renamedNode
  rw [steady n.id (.inr (List.mem_map_of_mem hn))]

lemma Steady.nodes (steady : Steady base kept f f') {nodes : List OwnedNode}
    (inside : ∀ n ∈ nodes, n ∈ kept) :
    nodes.map (renamedNode f') = nodes.map (renamedNode f) :=
  List.map_congr_left fun n hn => steady.node (inside n hn)

lemma Steady.layer (steady : Steady base kept f f') (inside : ∀ n ∈ layerNodes l, n ∈ kept) :
    renamedLayer f' l = renamedLayer f l := by
  unfold renamedLayer
  rw [steady.node (inside _ (mem_layerNodes.2 (.inl rfl))),
    steady.node (inside _ (mem_layerNodes.2 (.inr (.inl rfl)))),
    map_eq_map fun id n hn => steady.node (inside n (mem_layerNodes.2 (.inr (.inr ⟨id, hn⟩))))]

lemma Steady.layers (steady : Steady base kept f f') {s : Stage}
    (inside : ∀ n ∈ stageNodes s, n ∈ kept) :
    s.layers.map (renamedLayer f') = s.layers.map (renamedLayer f) := by
  refine Array.map_congr_left fun l hl => steady.layer fun n hn => inside n (mem_stageNodes.2 ?_)
  obtain ⟨i, hl⟩ := Array.mem_iff_getElem?.1 hl
  exact ⟨i, l, hl, hn⟩

lemma Steady.element (steady : Steady base kept f f') (inside : ∀ n ∈ e.nodes, n ∈ kept) :
    renamedElement f' e = renamedElement f e := by
  have fitting (n : OwnedNode) (hn : n ∈ e.fittings) : n ∈ kept :=
    inside n (List.mem_cons_of_mem _ hn)
  unfold renamedElement
  rw [steady.node (inside _ List.mem_cons_self), steady.nodes fun n hn =>
    fitting n (List.mem_append_left _ hn),
    steady.nodes fun n hn => fitting n (List.mem_append_right _ hn)]

lemma Steady.table (steady : Steady base kept f f')
    (inside : ∀ n ∈ elementNodes elements, n ∈ kept) :
    renamedElements f' elements = renamedElements f elements :=
  map_eq_map fun id _ he => steady.element fun n hn => inside n (mem_elementNodes.2 ⟨id, _, he, hn⟩)

lemma node_renamed (f : NodeId → NodeId) (e : Element) (spot : Spot) :
    (renamedElement f e).node spot = f (e.node spot) := by
  cases spot with
  | leaf => rfl
  | part i =>
    simp only [Element.node, Element.part?, renamedElement, List.getElem?_map]
    cases e.parts[i]? <;> rfl
  | option i =>
    simp only [Element.node, renamedElement, List.getElem?_map]
    cases e.options[i]? <;> rfl

lemma view_renamed (f : NodeId → NodeId) (e : Element) : (renamedElement f e).view = e.view := by
  simp [Element.view, renamedElement]

end Names

end LayeredPage.Proofs
