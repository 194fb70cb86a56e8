import Mathlib
import LayeredPage.Memory.Document

/-!
# The tree of a document in memory

A document is linked if parents and children tell the same. In a linked document each change to the
tree has a closed form, node by node, and the result is linked again. So is every document that was
made by asking about nodes it had issued.
-/

namespace LayeredPage.Proofs

open MemoryDocument

/-- Every child names its parent, and every parent lists the node. -/
def Linked (d : MemoryDocument) : Prop := ∀ n p, n ∈ d.children p ↔ d.parent? n = some p

/-- What is left of a record when node `n` is taken out of the tree. -/
def without (n : NodeId) (node : MemoryNode) : MemoryNode :=
  { node with
    parent := if node.parent = some n then none else node.parent
    children := node.children.filter (· ≠ n) }

section Views

variable {d : MemoryDocument} {n m p : NodeId}

lemma node?_modify (f : MemoryNode → MemoryNode) :
    (d.modify n f).node? m = if m = n then (d.node? m).map f else d.node? m := by
  unfold MemoryDocument.modify node?
  rw [Array.getElem?_modify]
  by_cases same : m = n
  · rw [if_pos same, if_pos (by rw [same])]
  · rw [if_neg same, if_neg fun h => same (by cases m; cases n; simp_all)]

lemma size_modify (f : MemoryNode → MemoryNode) : (d.modify n f).nodes.size = d.nodes.size := by
  simp [MemoryDocument.modify]

lemma issued_iff : d.issued n = true ↔ ∃ node, d.node? n = some node := by
  simp [issued, node?, Array.getElem?_eq_some_iff]

lemma issued_of_node? {node : MemoryNode} (h : d.node? n = some node) : d.issued n = true :=
  issued_iff.2 ⟨node, h⟩

lemma children_of_node? {node : MemoryNode} (h : d.node? n = some node) :
    d.children n = node.children := by
  simp [children, h]

lemma parent?_of_node? {node : MemoryNode} (h : d.node? n = some node) :
    d.parent? n = node.parent := by
  simp [parent?, h]

lemma issued_of_parent? (h : d.parent? n = some p) : d.issued n = true := by
  cases hn : d.node? n with
  | none => simp [parent?, hn] at h
  | some node => exact issued_of_node? hn

lemma issued_of_child (h : n ∈ d.children p) : d.issued p = true := by
  cases hp : d.node? p with
  | none => simp [children, hp] at h
  | some node => exact issued_of_node? hp

lemma Linked.issued_parent (linked : Linked d) (h : d.parent? n = some p) : d.issued p = true :=
  issued_of_child ((linked n p).2 h)

/-- A node has one parent. -/
lemma Linked.parent_unique {q : NodeId} (linked : Linked d) (hp : n ∈ d.children p)
    (hq : n ∈ d.children q) : p = q :=
  Option.some.inj (((linked n p).1 hp).symm.trans ((linked n q).1 hq))

lemma filter_ne_of_notMem {ns : List NodeId} (h : n ∉ ns) : ns.filter (· ≠ n) = ns :=
  List.filter_eq_self.2 fun a ha => by simpa using fun e : a = n => h (e ▸ ha)

lemma node?_of_nodes {d' : MemoryDocument} (same : d'.nodes = d.nodes) :
    d'.node? m = d.node? m := by
  rw [node?, same]
  rfl

lemma parent?_of_nodes {d' : MemoryDocument} (same : d'.nodes = d.nodes) :
    d'.parent? m = d.parent? m := by
  rw [parent?, node?_of_nodes same]
  rfl

lemma children_of_nodes {d' : MemoryDocument} (same : d'.nodes = d.nodes) :
    d'.children m = d.children m := by
  rw [children, node?_of_nodes same]
  rfl

lemma Linked.of_nodes {d' : MemoryDocument} (linked : Linked d) (same : d'.nodes = d.nodes) :
    Linked d' := by
  intro m p
  rw [parent?_of_nodes same, children_of_nodes same]
  exact linked m p

end Views

/-! ## Closed forms -/

section Forms

variable {d : MemoryDocument} {n m p c : NodeId}

lemma node?_detach (linked : Linked d) :
    (d.detach n).node? m = (d.node? m).map fun node =>
      { node with
        parent := if m = n then none else node.parent
        children := node.children.filter (· ≠ n) } := by
  cases hm : d.node? m with
  | none =>
    unfold detach
    split
    · rw [node?_modify, node?_modify, hm]
      simp
    · simp [hm]
  | some node =>
    have missed (hp : d.parent? n ≠ some m) : node.children.filter (· ≠ n) = node.children := by
      refine filter_ne_of_notMem fun hc => hp ?_
      rwa [← linked, children_of_node? hm]
    cases hp : d.parent? n with
    | none =>
      have hd : d.detach n = d := by simp only [detach, hp]
      have alone : (if m = n then none else node.parent) = node.parent := by
        split
        · next same => rw [← parent?_of_node? hm, same, hp]
        · rfl
      rw [hd, hm, Option.map_some, alone, missed (by simp [hp])]
    | some q =>
      simp only [detach, hp, node?_modify, hm, Option.map_some]
      by_cases parent : m = q
      · by_cases same : m = n
        · simp only [if_pos parent, if_pos same, Option.map_some]
        · simp only [if_pos parent, if_neg same, Option.map_some]
      · have kept := missed (by rw [hp]; simpa using Ne.symm parent)
        by_cases same : m = n
        · simp only [if_neg parent, if_pos same, kept]
        · simp only [if_neg parent, if_neg same, kept]

lemma node?_foldl_orphan (cs : List NodeId) (d : MemoryDocument) :
    (cs.foldl (fun d c => d.modify c fun node => { node with parent := none }) d).node? m =
      (d.node? m).map fun node => { node with parent := if m ∈ cs then none else node.parent } := by
  induction cs generalizing d with
  | nil => simp
  | cons c cs ih =>
    rw [List.foldl_cons, ih, node?_modify]
    cases d.node? m with
    | none => simp
    | some node =>
      by_cases same : m = c
      · simp [same]
      · simp [same]

lemma node?_clearChildren (linked : Linked d) :
    (d.clearChildren n).node? m = (d.node? m).map fun node =>
      { node with
        parent := if node.parent = some n then none else node.parent
        children := if m = n then [] else node.children } := by
  unfold clearChildren
  rw [node?_foldl_orphan, node?_modify]
  cases hm : d.node? m with
  | none => simp
  | some node =>
    have child : m ∈ d.children n ↔ node.parent = some n := by rw [linked m n, parent?_of_node? hm]
    by_cases same : m = n
    · simp only [if_pos same, Option.map_some, child]
    · simp only [if_neg same, Option.map_some, child]

lemma node?_setHtml (linked : Linked d) (html : String) :
    (d.setHtml n html).node? m = (d.node? m).map fun node =>
      { node with
        parent := if node.parent = some n then none else node.parent
        children := if m = n then [] else node.children
        html := if m = n then html else node.html } := by
  unfold setHtml
  rw [node?_modify, node?_clearChildren linked]
  cases d.node? m with
  | none => simp
  | some node =>
    by_cases same : m = n
    · simp only [if_pos same, Option.map_some]
    · simp only [if_neg same, Option.map_some]

lemma node?_append (linked : Linked d) :
    (d.append p c).node? m = (d.node? m).map fun node =>
      { node with
        parent := if m = c then some p else node.parent
        children := node.children.filter (· ≠ c) ++ if m = p then [c] else [] } := by
  unfold append
  rw [node?_modify, node?_modify, node?_detach linked]
  cases d.node? m with
  | none => simp
  | some node =>
    by_cases parent : m = p
    · by_cases child : m = c
      · simp only [if_pos parent, if_pos child, Option.map_some]
      · simp only [if_pos parent, if_neg child, Option.map_some]
    · by_cases child : m = c
      · simp only [if_neg parent, if_pos child, Option.map_some, List.append_nil]
      · simp only [if_neg parent, if_neg child, Option.map_some, List.append_nil]

lemma parent?_detach (linked : Linked d) :
    (d.detach n).parent? m = if m = n then none else d.parent? m := by
  unfold parent?
  rw [node?_detach linked]
  cases d.node? m <;> simp

lemma children_detach (linked : Linked d) :
    (d.detach n).children m = (d.children m).filter (· ≠ n) := by
  unfold children
  rw [node?_detach linked]
  cases d.node? m <;> simp

lemma Linked.of_detach (linked : Linked d) : Linked (d.detach n) := by
  intro m p
  rw [parent?_detach linked, children_detach linked, List.mem_filter, linked m p]
  by_cases same : m = n <;> simp [same]

lemma node?_reset (linked : Linked d) :
    (d.reset n).node? m =
      if m =
        n then (d.node? m).map fun node => .fresh node.kind else (d.node? m).map (without n) := by
  have hd := linked.of_detach (n := n)
  change (((d.detach n).clearChildren n).modify n fun node => .fresh node.kind).node? m = _
  rw [node?_modify, node?_clearChildren hd, node?_detach linked]
  cases d.node? m with
  | none => simp
  | some node =>
    by_cases same : m = n
    · simp only [if_pos same, Option.map_some]
    · simp only [if_neg same, Option.map_some, without]

end Forms

/-! ## Parents and children after a change -/

section Changes

variable {d : MemoryDocument} {n m p c : NodeId}

lemma parent?_append (linked : Linked d) (hc : d.issued c) :
    (d.append p c).parent? m = if m = c then some p else d.parent? m := by
  obtain ⟨node, hn⟩ := issued_iff.1 hc
  unfold parent?
  rw [node?_append linked]
  by_cases same : m = c
  · simp [same, hn]
  · cases d.node? m <;> simp [same]

lemma children_append (linked : Linked d) (hp : d.issued p) :
    (d.append p c).children m = (d.children m).filter (· ≠ c) ++ if m = p then [c] else [] := by
  obtain ⟨node, hn⟩ := issued_iff.1 hp
  unfold children
  rw [node?_append linked]
  by_cases same : m = p
  · simp [same, hn]
  · cases d.node? m <;> simp [same]

lemma parent?_setHtml (linked : Linked d) (html : String) :
    (d.setHtml n html).parent? m = if d.parent? m = some n then none else d.parent? m := by
  unfold parent?
  rw [node?_setHtml linked]
  cases d.node? m <;> simp

lemma children_setHtml (linked : Linked d) (html : String) :
    (d.setHtml n html).children m = if m = n then [] else d.children m := by
  unfold children
  rw [node?_setHtml linked]
  cases d.node? m <;> simp

lemma parent?_reset (linked : Linked d) :
    (d.reset n).parent? m = if m = n ∨ d.parent? m = some n then none else d.parent? m := by
  unfold parent?
  rw [node?_reset linked]
  by_cases same : m = n
  · cases d.node? m <;> simp [same, MemoryNode.fresh]
  · cases d.node? m <;> simp [same, without]

/-- A reset cuts the node off from its parent and from its children, and nothing else. -/
lemma parent?_reset_eq_some (linked : Linked d) :
    (d.reset n).parent? m = some p ↔ d.parent? m = some p ∧ m ≠ n ∧ p ≠ n := by
  rw [parent?_reset linked]
  by_cases same : m = n
  · simp [same]
  · by_cases child : d.parent? m = some n
    · simp [same, child, Ne.symm]
      exact fun h => h.symm
    · simp [same, child]
      rintro parent rfl
      exact child parent

lemma children_reset (linked : Linked d) :
    (d.reset n).children m = if m = n then [] else (d.children m).filter (· ≠ n) := by
  unfold children
  rw [node?_reset linked]
  by_cases same : m = n
  · cases d.node? m <;> simp [same, MemoryNode.fresh]
  · cases d.node? m <;> simp [same, without]

lemma node?_create (kind : NodeKind) :
    (d.create kind).2.node? m =
      if m = (d.create kind).1 then some (.fresh kind) else d.node? m := by
  unfold create node?
  rw [Array.getElem?_push]
  by_cases same : m = ⟨d.nodes.size⟩
  · rw [if_pos same, if_pos (by rw [same])]
  · rw [if_neg same, if_neg fun h => same (by cases m; simp_all)]

lemma node?_create_of_issued (kind : NodeKind) (hm : d.issued m) :
    (d.create kind).2.node? m = d.node? m := by
  rw [node?_create, if_neg]
  rintro rfl
  simp [issued, MemoryDocument.create] at hm

lemma parent?_create (kind : NodeKind) : (d.create kind).2.parent? m = d.parent? m := by
  unfold parent?
  rw [node?_create]
  by_cases new : m = (d.create kind).1
  · have nowhere : d.node? m = none := by simp [new, MemoryDocument.create, node?]
    rw [if_pos new, nowhere]
    rfl
  · rw [if_neg new]

lemma children_create (kind : NodeKind) : (d.create kind).2.children m = d.children m := by
  unfold children
  rw [node?_create]
  by_cases new : m = (d.create kind).1
  · have nowhere : d.node? m = none := by simp [new, MemoryDocument.create, node?]
    rw [if_pos new, nowhere]
    rfl
  · rw [if_neg new]

/-- The changes that leave the tree alone. -/
lemma parent?_modify {f : MemoryNode → MemoryNode} (hf : ∀ node, (f node).parent = node.parent) :
    (d.modify n f).parent? m = d.parent? m := by
  unfold parent?
  rw [node?_modify]
  by_cases same : m = n
  · cases d.node? m <;> simp [same, hf]
  · simp [same]

lemma children_modify {f : MemoryNode → MemoryNode}
    (hf : ∀ node, (f node).children = node.children) :
    (d.modify n f).children m = d.children m := by
  unfold children
  rw [node?_modify]
  by_cases same : m = n
  · cases d.node? m <;> simp [same, hf]
  · simp [same]

end Changes

/-! ## What stays besides the nodes -/

section Besides

variable {d : MemoryDocument} {n p c : NodeId}

lemma exists_detach : ∃ nodes, d.detach n = { d with nodes } ∧ nodes.size = d.nodes.size := by
  unfold detach
  split
  · exact ⟨_, rfl, by rw [Array.size_modify, size_modify]⟩
  · exact ⟨d.nodes, rfl, rfl⟩

lemma exists_foldl_orphan (cs : List NodeId) (d : MemoryDocument) :
    ∃ nodes, cs.foldl (fun d c => d.modify c fun node => { node with parent := none }) d =
      { d with nodes } ∧ nodes.size = d.nodes.size := by
  induction cs generalizing d with
  | nil => exact ⟨d.nodes, rfl, rfl⟩
  | cons c cs ih =>
    obtain ⟨nodes, eq, size⟩ := ih (d.modify c fun node => { node with parent := none })
    refine ⟨nodes, ?_, ?_⟩
    · rw [List.foldl_cons, eq]
      rfl
    · rw [size, size_modify]

lemma exists_clearChildren :
    ∃ nodes, d.clearChildren n = { d with nodes } ∧ nodes.size = d.nodes.size := by
  obtain ⟨nodes, eq, size⟩ :=
    exists_foldl_orphan (d.children n) (d.modify n fun node => { node with children := [] })
  refine ⟨nodes, ?_, ?_⟩
  · unfold clearChildren
    rw [eq]
    rfl
  · rw [size, size_modify]

lemma exists_append : ∃ nodes, d.append p c = { d with nodes } ∧ nodes.size = d.nodes.size := by
  obtain ⟨nodes, eq, size⟩ := exists_detach (d := d) (n := c)
  unfold append
  rw [eq]
  exact ⟨_, rfl, by rw [Array.size_modify, size_modify, size]⟩

lemma exists_setHtml (html : String) :
    ∃ nodes, d.setHtml n html = { d with nodes } ∧ nodes.size = d.nodes.size := by
  obtain ⟨nodes, eq, size⟩ := exists_clearChildren (d := d) (n := n)
  unfold setHtml
  rw [eq]
  exact ⟨_, rfl, by rw [Array.size_modify, size]⟩

lemma exists_reset :
    ∃ nodes, d.reset n =
      { d with
        nodes
        observed := d.observed.erase n.index
        focused := if d.focused = some n then none else d.focused } ∧
        nodes.size = d.nodes.size := by
  obtain ⟨nodes, eq, size⟩ := exists_detach (d := d) (n := n)
  obtain ⟨nodes', eq', size'⟩ := exists_clearChildren (d := { d with nodes }) (n := n)
  have emptied : (d.detach n).clearChildren n = { d with nodes := nodes' } := by rw [eq, eq']
  refine ⟨(MemoryDocument.modify { d with nodes := nodes' } n fun node =>
    .fresh node.kind).nodes, ?_, ?_⟩
  · unfold MemoryDocument.reset
    simp only [emptied]
    rfl
  · rw [size_modify, size', size]

lemma size_detach : (d.detach n).nodes.size = d.nodes.size := by
  obtain ⟨nodes, eq, size⟩ := exists_detach (d := d) (n := n)
  rw [eq, size]

lemma size_append : (d.append p c).nodes.size = d.nodes.size := by
  obtain ⟨nodes, eq, size⟩ := exists_append (d := d) (p := p) (c := c)
  rw [eq, size]

lemma size_setHtml (html : String) : (d.setHtml n html).nodes.size = d.nodes.size := by
  obtain ⟨nodes, eq, size⟩ := exists_setHtml (d := d) (n := n) html
  rw [eq, size]

lemma size_reset : (d.reset n).nodes.size = d.nodes.size := by
  obtain ⟨nodes, eq, size⟩ := exists_reset (d := d) (n := n)
  rw [eq, size]

end Besides

/-! ## Linked documents stay linked -/

section Kept

variable {d : MemoryDocument} {n m p c : NodeId}

lemma Linked.append (linked : Linked d) (hp : d.issued p) (hc : d.issued c) :
    Linked (d.append p c) := by
  intro m q
  rw [parent?_append linked hc, children_append linked hp, List.mem_append,
    List.mem_filter, linked m q]
  by_cases child : m = c <;> by_cases parent : q = p <;> simp [child, parent, Ne.symm]

lemma Linked.setHtml (linked : Linked d) (html : String) : Linked (d.setHtml n html) := by
  intro m q
  rw [parent?_setHtml linked, children_setHtml linked]
  by_cases parent : q = n
  · subst parent
    by_cases child : d.parent? m = some q <;> simp [child]
  · rw [if_neg parent, linked m q]
    by_cases child : d.parent? m = some n
    · simpa [child] using Ne.symm parent
    · simp [child]

lemma Linked.reset (linked : Linked d) : Linked (d.reset n) := by
  intro m q
  rw [parent?_reset linked, children_reset linked]
  by_cases parent : q = n
  · subst parent
    by_cases child : d.parent? m = some q <;> simp [child]
  · rw [if_neg parent, List.mem_filter, linked m q]
    by_cases same : m = n
    · simp [same]
    · by_cases child : d.parent? m = some n
      · simpa [same, child] using Ne.symm parent
      · simp [same, child]

lemma Linked.create (linked : Linked d) (kind : NodeKind) : Linked (d.create kind).2 := by
  intro m q
  rw [parent?_create, children_create]
  exact linked m q

lemma Linked.modify (linked : Linked d) {f : MemoryNode → MemoryNode}
    (hp : ∀ node, (f node).parent = node.parent) (hc : ∀ node, (f node).children = node.children) :
    Linked (d.modify n f) := by
  intro m q
  rw [parent?_modify hp, children_modify hc]
  exact linked m q

end Kept

end LayeredPage.Proofs
