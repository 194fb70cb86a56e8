import LayeredPage.Proofs.Ownership

/-!
# What becomes of the records of others

A record is all that a document keeps of a node. `Kept` says that some nodes keep theirs, `Gained`
and `Lost` that at most children came or went, and those that stay keep their order. Each step with
nodes that one holds is of one of these kinds for everybody else.
-/

namespace LayeredPage.Proofs

open MemoryDocument

/-- These nodes are recorded as before. -/
def Kept (K : NodeId → Prop) (d d' : MemoryDocument) : Prop := ∀ m, K m → d'.node? m = d.node? m

/-- A record with its children regrouped. -/
def regrouped (f : List NodeId → List NodeId) (node : MemoryNode) : MemoryNode :=
  { node with children := f node.children }

/-- These nodes are recorded as before, but for strangers among them that joined their children. -/
def Gained (K : NodeId → Prop) (d d' : MemoryDocument) : Prop :=
  ∀ m, K m → ∃ new, d'.node? m = (d.node? m).map (regrouped (· ++ new)) ∧ ∀ c ∈ new, ¬ K c

/-- These nodes are recorded as before, but for children among `gone` that left. -/
def Lost (gone : List NodeId) (K : NodeId → Prop) (d d' : MemoryDocument) : Prop :=
  ∀ m, K m → d'.node? m = (d.node? m).map (regrouped fun cs => cs.filter (· ∉ gone))

section Documents

variable {K K' : NodeId → Prop} {d d' d'' : MemoryDocument} {n m p c : NodeId}
  {gone gone' : List NodeId}

lemma regrouped_regrouped (f g : List NodeId → List NodeId) (r : Option MemoryNode) :
    (r.map (regrouped f)).map (regrouped g) = r.map (regrouped fun cs => g (f cs)) := by
  cases r <;> rfl

lemma map_regrouped_id (r : Option MemoryNode) : r.map (regrouped fun cs => cs) = r := by
  cases r <;> rfl

/-- Regrouping matters only for the children that are there. -/
lemma map_regrouped_congr {f g : List NodeId → List NodeId}
    (same : f (d.children m) = g (d.children m)) :
    (d.node? m).map (regrouped f) = (d.node? m).map (regrouped g) := by
  cases found : d.node? m with
  | none => rfl
  | some node =>
    rw [children_of_node? found] at same
    simp only [Option.map_some, regrouped, same]

lemma Kept.refl : Kept K d d := fun _ _ => rfl

lemma Kept.trans (first : Kept K d d') (second : Kept K d' d'') : Kept K d d'' :=
  fun m hm => (second m hm).trans (first m hm)

lemma Kept.mono (kept : Kept K d d') (fewer : ∀ m, K' m → K m) : Kept K' d d' :=
  fun m hm => kept m (fewer m hm)

lemma Kept.of_nodes (same : d'.nodes = d.nodes) : Kept K d d' := fun _ _ => node?_of_nodes same

lemma Kept.gained (kept : Kept K d d') : Gained K d d' := fun m hm =>
  ⟨[], by rw [kept m hm]; simp only [List.append_nil, map_regrouped_id], fun _ hc =>
    absurd hc List.not_mem_nil⟩

lemma Kept.create (kind : NodeKind) (issued : ∀ m, K m → d.issued m) : Kept K d (d.create kind).2 :=
  fun m hm => node?_create_of_issued kind (issued m hm)

/-- A write reaches nobody but its node and what is right below. -/
lemma Kept.written (linked : Linked d) (w : NodeWrite) (other : ¬ K n)
    (apart : replaces w = true → ∀ m, K m → d.parent? m ≠ some n) : Kept K d (written w n d) := by
  intro m hm
  have distinct : m ≠ n := by
    rintro rfl
    exact other hm
  cases hw : replaces w with
  | true => exact node?_written_of_ne linked w distinct (apart hw m hm)
  | false => rw [node?_written_of_replaces hw, if_neg distinct]

lemma node?_written_self {w : NodeWrite} (hw : replaces w = false) {node : MemoryNode}
    (found : d.node? n = some node) :
    (written w n d).node? n = some (recorded w node) := by
  rw [node?_written_of_replaces hw, if_pos rfl, found, Option.map_some]

lemma Gained.trans (first : Gained K d d') (second : Gained K' d' d'') (more : ∀ m, K m → K' m) :
    Gained K d d'' := by
  intro m hm
  obtain ⟨new, eq, strange⟩ := first m hm
  obtain ⟨new', eq', strange'⟩ := second m (more m hm)
  refine ⟨new ++ new', ?_, fun c hc => ?_⟩
  · rw [eq', eq, regrouped_regrouped]
    simp only [List.append_assoc]
  · exact (List.mem_append.1 hc).elim (strange c) fun hc known => strange' c hc (more c known)

/-- Who had not the child before notices at most that it comes. -/
lemma node?_append_of_absent (linked : Linked d) (absent : c ∉ d.children m) (other : m ≠ c) :
    (d.append p c).node? m = (d.node? m).map (regrouped (· ++ if m = p then [c] else [])) := by
  rw [node?_append linked]
  cases found : d.node? m with
  | none => rfl
  | some node =>
    rw [children_of_node? found] at absent
    simp only [Option.map_some, if_neg other, filter_ne_of_notMem absent, regrouped]

lemma notMem_children_of_alone (linked : Linked d) (alone : d.parent? c = none) :
    c ∉ d.children m := by
  rw [linked, alone]
  exact fun no => by cases no

lemma Kept.append (linked : Linked d) (hc : ¬ K c) (hp : ¬ K p) (alone : d.parent? c = none) :
    Kept K d (d.append p c) := by
  intro m hm
  rw [node?_append_of_absent linked (notMem_children_of_alone linked alone)
    (ne_of_mem_of_not_mem (s := {m | K m}) hm hc),
    if_neg (ne_of_mem_of_not_mem (s := {m | K m}) hm hp)]
  simp only [List.append_nil, map_regrouped_id]

lemma Gained.append (linked : Linked d) (hc : ¬ K c) (alone : d.parent? c = none) :
    Gained K d (d.append p c) := by
  intro m hm
  have other : m ≠ c := ne_of_mem_of_not_mem (s := {m | K m}) hm hc
  refine ⟨_, node?_append_of_absent linked (notMem_children_of_alone linked alone) other,
    fun x hx known => ?_⟩
  split at hx
  · obtain rfl := List.mem_singleton.1 hx
    exact hc known
  · cases hx

lemma Lost.refl (K : NodeId → Prop) (d : MemoryDocument) : Lost [] K d d := fun m _ => by
  simp only [List.not_mem_nil, not_false_eq_true, decide_true, List.filter_true, map_regrouped_id]

lemma Lost.trans (first : Lost gone K d d') (second : Lost gone' K d' d'') :
    Lost (gone ++ gone') K d d'' := by
  intro m hm
  rw [second m hm, first m hm, regrouped_regrouped]
  simp only [List.filter_filter, List.mem_append, not_or, Bool.decide_and, Bool.and_comm]

lemma Lost.congr (lost : Lost gone K d d') (same : ∀ c, c ∈ gone ↔ c ∈ gone') :
    Lost gone' K d d' := by
  simpa only [Lost, same] using lost

lemma Lost.parent? (lost : Lost gone K d d') (hm : K m) : d'.parent? m = d.parent? m := by
  unfold MemoryDocument.parent?
  rw [lost m hm]
  cases d.node? m <;> rfl

/-- Nodes that had none of those children keep their records. -/
lemma Lost.kept (lost : Lost gone K d d') (linked : Linked d)
    (none_below : ∀ m, K' m → K m ∧ ∀ c ∈ gone, d.parent? c ≠ some m) :
    Kept K' d d' := by
  intro m hm
  obtain ⟨known, strange⟩ := none_below m hm
  rw [lost m known, map_regrouped_congr (g := fun cs => cs), map_regrouped_id]
  refine List.filter_eq_self.2 fun c hc => decide_eq_true fun left => ?_
  exact strange c left ((linked c m).1 hc)

/-- Of those that went, only one may have been a child of these nodes. -/
lemma Lost.single (lost : Lost gone K d d') (linked : Linked d) (there : n ∈ gone)
    (own : ∀ c ∈ gone, c ≠ n → ∀ m, K m → d.parent? c ≠ some m) : Lost [n] K d d' := by
  intro m hm
  rw [lost m hm]
  refine map_regrouped_congr (List.filter_congr fun c hc => ?_)
  have parent := (linked c m).1 hc
  have alike : c ∈ gone ↔ c = n := by
    refine ⟨fun left => by_contra fun other => own c left other m hm parent, ?_⟩
    rintro rfl
    exact there
  simp only [alike, List.mem_singleton]

/-- A node without these children is reset. -/
lemma Lost.reset (linked : Linked d) (apart : ∀ m, K m → m ≠ n ∧ d.parent? m ≠ some n) :
    Lost [n] K d (d.reset n) := by
  intro m hm
  obtain ⟨other, above⟩ := apart m hm
  rw [node?_reset linked, if_neg other]
  cases found : d.node? m with
  | none => rfl
  | some node =>
    rw [parent?_of_node? found] at above
    simp only [Option.map_some, without, regrouped, if_neg above, List.mem_singleton]

end Documents

/-! ## Steps with held nodes -/

/-- Only the nodes differ, which of them are observed, and which has the focus. -/
def Nodewise (d d' : MemoryDocument) : Prop :=
  ∃ nodes observed focused, d' = { d with nodes, observed, focused }

lemma Nodewise.refl (d : MemoryDocument) : Nodewise d d := ⟨_, _, _, rfl⟩

lemma Nodewise.trans {d d' d'' : MemoryDocument} (first : Nodewise d d')
    (second : Nodewise d' d'') : Nodewise d d'' := by
  obtain ⟨nodes, observed, focused, rfl⟩ := first
  obtain ⟨nodes', observed', focused', rfl⟩ := second
  exact ⟨nodes', observed', focused', rfl⟩

/-- Nodes that came back took their own ties with them, and nothing else. -/
structure Returned {κ : Type} (K : NodeId → Prop) (gone : List NodeId) (h h' : MemoryHost κ) :
    Prop where
  records : Lost gone K h.document h'.document
  observed : ∀ m, K m → (m.index ∈ h'.document.observed ↔ m.index ∈ h.document.observed)
  nodewise : Nodewise h.document h'.document
  core : h'.core = h.core

section Steps

variable {κ : Type} {K : NodeId → Prop} {gone gone' : List NodeId} {h h' h'' : MemoryHost κ}

lemma Returned.refl (h : MemoryHost κ) : Returned K [] h h :=
  ⟨.refl _ _, fun _ _ => Iff.rfl, .refl _, rfl⟩

lemma Returned.trans (first : Returned K gone h h') (second : Returned K gone' h' h'') :
    Returned K (gone ++ gone') h h'' where
  records := first.records.trans second.records
  observed m hm := (second.observed m hm).trans (first.observed m hm)
  nodewise := first.nodewise.trans second.nodewise
  core := second.core.trans first.core

lemma nodewise_written (w : NodeWrite) (n : NodeId) (d : MemoryDocument) :
    Nodewise d (written w n d) := by
  cases w with
  | html markup =>
    obtain ⟨nodes, eq, _⟩ := exists_setHtml (d := d) (n := n) markup
    exact ⟨_, _, _, eq⟩
  | text content =>
    obtain ⟨nodes, eq, _⟩ := exists_setHtml (d := d) (n := n) (Text.escapeData content)
    exact ⟨_, _, _, eq⟩
  | attr | style | noStyle | linkStyle | form | bind | focus | observe => exact ⟨_, _, _, rfl⟩

variable [Core κ] {base : Nat} {mine mine' : List OwnedNode} {ps : NodePools}

lemma Known.behind {m : NodeId} (hm : Known base mine' m) (mine : List OwnedNode) :
    Known base (mine ++ mine') m :=
  hm.imp_right fun held => by
    rw [List.map_append]
    exact List.mem_append_right _ held

/-- What is held is not known to the others. -/
lemma Owned.strange {n m : NodeId} {d : MemoryDocument} (o : Owned base ps (mine ++ mine') d)
    (hn : n ∈ mine.map (·.id)) (hm : Known base mine' m) : m ≠ n := by
  rintro rfl
  rcases hm with foreign | held
  · obtain ⟨k, hk, rfl⟩ := List.mem_map.1 hn
    have := o.base_le_of_mem (List.mem_append_left _ hk)
    omega
  · have distinct := o.nodup
    rw [List.map_append, List.nodup_append, List.map_append, List.nodup_append] at distinct
    exact distinct.2.1.2.2 _ hn _ held rfl

/-- Taking a node concerns nobody else. -/
lemma Owned.take_kept (o : Owned base ps mine h.document) (kind : NodeKind) :
    Yields (Pools.take kind : Work NodePools OwnedNode) ps h fun n ps' h' =>
      (Owned base ps' (n :: mine) h'.document ∧ n.kind = kind ∧
        h'.document.node? n.id = some (.fresh kind) ∧
        ∀ m, h'.document.parent? m = h.document.parent? m) ∧
      Kept (Known base mine) h.document h'.document ∧ h'.core = h.core ∧ ∃ nodes,
      h'.document = { h.document with nodes } := by
  refine ((o.take kind).and (take_effect o.stocked kind)).ends ?_
  rintro n ps' h' ⟨taken, rfl | rfl⟩
  · exact ⟨taken, .refl, rfl, _, rfl⟩
  · exact ⟨taken, .create kind fun m hm => o.issued_of_known hm, rfl, _, rfl⟩

lemma Owned.put_returns {n : OwnedNode} (o : Owned base ps (n :: mine) h.document)
    (apart : ∀ m, K m → m ≠ n.id ∧ h.document.parent? m ≠ some n.id) :
    Yields (Pools.put n.kind n : Work NodePools Unit) ps h fun _ ps' h' =>
      Owned base ps' mine h'.document ∧ Returned K [n.id] h h' := by
  refine (o.put.and (put_effect o.stocked (o.issued List.mem_cons_self))).ends ?_
  rintro _ ps' h' ⟨⟨o', _⟩, rfl⟩
  obtain ⟨nodes, eq, _⟩ := exists_reset (d := h.document) (n := n.id)
  refine ⟨o', .reset o.linked apart, fun m hm => ?_, ⟨_, _, _, eq⟩, rfl⟩
  have index : n.id.index ≠ m.index := fun same => (apart m hm).1 (congrArg NodeId.mk same.symm)
  dsimp only
  rw [eq, Std.ExtTreeSet.mem_erase, compare_eq_iff_eq.ne]
  exact and_iff_right index

lemma Owned.putAll_returns (nodes : List OwnedNode) {ps : NodePools} {h : MemoryHost κ}
    (o : Owned base ps (nodes ++ mine) h.document)
    (apart : ∀ m, K m → ∀ n ∈ nodes, m ≠ n.id ∧ h.document.parent? m ≠ some n.id) :
    Yields (nodes.forM fun node => Pools.put node.kind node : Work NodePools Unit)
      ps h fun _ ps' h' =>
      Owned base ps' mine h'.document ∧ Returned K (nodes.map (·.id)) h h' := by
  induction nodes generalizing ps h with
  | nil => exact ⟨o, .refl h⟩
  | cons n nodes ih =>
    refine (ends_bind _ _ _).2 ((o.put_returns fun m hm => apart m hm n List.mem_cons_self).ends ?_)
    rintro _ ps₁ h₁ ⟨o₁, back⟩
    refine (ih o₁ fun m hm k hk => ?_).ends ?_
    · rw [back.records.parent? hm]
      exact apart m hm k (List.mem_cons_of_mem _ hk)
    · exact fun _ ps₂ h₂ ⟨o₂, back₂⟩ => ⟨o₂, back.trans back₂⟩

theorem Owned.giveBack_returns {nodes : List OwnedNode}
    (o : Owned base ps (nodes ++ mine) h.document)
    (apart : ∀ m, K m → ∀ n ∈ nodes, m ≠ n.id ∧ h.document.parent? m ≠ some n.id) :
    Yields (Bench.giveBack nodes) ps h fun _ ps' h' =>
      Owned base ps' mine h'.document ∧ Returned K (nodes.map (·.id)) h h' := by
  have turned := o.perm ((List.reverse_perm nodes).symm.append_right mine)
  have others (m) (hm : K m) (n) (hn : n ∈ nodes.reverse) := apart m hm n (List.mem_reverse.1 hn)
  refine (Owned.putAll_returns nodes.reverse turned others).ends ?_
  rintro _ ps' h' ⟨o', back⟩
  refine ⟨o', back.records.congr fun c => ?_, back.observed, back.nodewise, back.core⟩
  rw [List.map_reverse, List.mem_reverse]

end Steps

end LayeredPage.Proofs
