import LayeredPage.Proofs.Asking
import LayeredPage.Proofs.Lending

/-!
# Who holds a node

Every node that the pools made since the document had `base` nodes is either on the shelf of its
kind or held by somebody. `Owned` says that nothing is missing and nothing is there twice; taking a
node moves it from the shelves to its holder, giving it back moves it to the shelves again.
-/

namespace LayeredPage.Proofs

open MemoryDocument

/-- The nodes that wait in the pool of a kind. -/
def shelf (ps : NodePools) (kind : NodeKind) : List OwnedNode :=
  match ps.get? kind with
  | some p => p.free
  | none => []

/-- How many nodes the pool of a kind has made. -/
def made (ps : NodePools) (kind : NodeKind) : Nat :=
  match ps.get? kind with
  | some p => p.created
  | none => 0

/-- All nodes that wait in a pool. -/
def shelved (ps : NodePools) : List OwnedNode := NodeKind.all.flatMap (shelf ps)

/-- Every kind has its pool, and all pools keep what comes back, or none does. -/
def Stocked (keeps : Bool) (ps : NodePools) : Prop :=
  ∀ kind, ∃ p, ps.get? kind = some p ∧ p.keeps = keeps ∧ p.make = NodePools.make kind ∧
    p.reset = NodePools.renew

section Pools

variable {κ : Type} [Core κ] {h : MemoryHost κ} {ps : NodePools} {kind k : NodeKind}
  {p : Pool (Script Patching) OwnedNode} {refused : PatchError → NodePools → MemoryHost κ → Prop}
  {breach : Breach → Prop}

lemma shelf_set : shelf (ps.set kind p) k = if k = kind then p.free else shelf ps k := by
  unfold shelf
  rw [get?_set]
  by_cases same : k = kind <;> simp [same]

lemma made_set : made (ps.set kind p) k = if k = kind then p.created else made ps k := by
  unfold made
  rw [get?_set]
  by_cases same : k = kind <;> simp [same]

lemma shelf_of_get? (hp : ps.get? kind = some p) : shelf ps kind = p.free := by simp [shelf, hp]

lemma made_of_get? (hp : ps.get? kind = some p) : made ps kind = p.created := by simp [made, hp]

/-- Setting one pool leaves the other shelves alone. -/
lemma exists_shelved_perm (ps : NodePools) (kind : NodeKind) :
    ∃ others, (shelved ps).Perm (shelf ps kind ++ others) ∧
      ∀ p, (shelved (ps.set kind p)).Perm (p.free ++ others) := by
  have all (f : NodeKind → List OwnedNode) :
      (NodeKind.all.flatMap f).Perm (f kind ++ (NodeKind.all.erase kind).flatMap f) := by
    rw [← List.flatMap_cons]
    exact (List.perm_cons_erase (by cases kind <;> simp [NodeKind.all])).flatMap_right f
  refine ⟨(NodeKind.all.erase kind).flatMap (shelf ps), all _, fun p => ?_⟩
  have others : (NodeKind.all.erase kind).flatMap (shelf (ps.set kind p)) =
      (NodeKind.all.erase kind).flatMap (shelf ps) := by
    refine List.flatMap_congr fun k hk => ?_
    have other : k ≠ kind := fun same => by
      subst same
      revert hk
      cases k <;> decide
    rw [shelf_set, if_neg other]
  have whole := all (shelf (ps.set kind p))
  rwa [others, shelf_set, if_pos rfl] at whole

lemma Stocked.set {keeps : Bool} (stocked : Stocked keeps ps)
    {p' : Pool (Script Patching) OwnedNode}
    (hp : ps.get? kind = some p) (hk : p'.keeps = p.keeps) (hm : p'.make = p.make)
    (hr : p'.reset = p.reset) : Stocked keeps (ps.set kind p') := by
  intro k
  rw [get?_set]
  by_cases same : k = kind
  · subst same
    obtain ⟨q, hq, facts⟩ := stocked k
    rw [hp] at hq
    cases hq
    exact ⟨p', by simp, by rwa [hk, hm, hr]⟩
  · rw [if_neg same]
    exact stocked k

lemma ends_pool (hp : ps.get? kind = some p)
    (post : Pool (Script Patching) OwnedNode → NodePools → MemoryHost κ → Prop) :
    Ends (Pools.pool kind : Work NodePools _) ps h post refused breach ↔ post p ps h := by
  unfold Pools.pool
  rw [ends_bind, ends_get, hp]
  exact Iff.rfl

lemma ends_take (hp : ps.get? kind = some p) (post : OwnedNode → NodePools → MemoryHost κ → Prop) :
    Ends (Pools.take kind : Work NodePools OwnedNode) ps h post refused breach ↔
      Answers p.take h (fun r h => post r.1 (ps.set kind r.2) h) breach := by
  unfold Pools.take
  rw [ends_bind, ends_pool hp, ends_bind, ends_script]
  exact Iff.rfl

lemma ends_put (hp : ps.get? kind = some p) (n : OwnedNode)
    (post : Unit → NodePools → MemoryHost κ → Prop) :
    Ends (Pools.put kind n : Work NodePools Unit) ps h post refused breach ↔
      Answers (p.put n) h (fun q h => post () (ps.set kind q) h) breach := by
  unfold Pools.put
  rw [ends_bind, ends_pool hp, ends_bind, ends_script]
  exact Iff.rfl

/-- A pool with something on its shelf hands out what came back last. -/
lemma answers_take_shelf {n : OwnedNode} {rest : List OwnedNode} (free : p.free = n :: rest)
    (post : OwnedNode × Pool (Script Patching) OwnedNode → MemoryHost κ → Prop) :
    Answers p.take h post breach ↔ post (n, { p with free := rest }) h := by
  unfold Pool.take
  rw [free]
  exact Iff.rfl

/-- A pool with an empty shelf makes a node. -/
lemma answers_take_made (free : p.free = []) (make : p.make = NodePools.make kind)
    (post : OwnedNode × Pool (Script Patching) OwnedNode → MemoryHost κ → Prop) :
    Answers p.take h post breach ↔
      post (⟨(h.document.create kind).1, kind⟩, { p with created := p.created + 1 })
        { h with document := (h.document.create kind).2 } := by
  unfold Pool.take
  rw [free]
  simp only [answers_bind, answers_pure, make, NodePools.make]
  exact Iff.rfl

/-- What comes back is reset, and kept or not. -/
lemma answers_put (reset : p.reset = NodePools.renew) {n : OwnedNode} (hn : h.document.issued n.id)
    (post : Pool (Script Patching) OwnedNode → MemoryHost κ → Prop) :
    Answers (p.put n) h post breach ↔
      post (if p.keeps then { p with free := n :: p.free } else p)
        { h with document := h.document.reset n.id } := by
  unfold Pool.put
  simp only [answers_bind, answers_pure, reset, NodePools.renew]
  rw [answers_ask, answer_reset hn]

/-- Taking a node makes one, or changes the shelf only. -/
lemma take_effect {keeps : Bool} (stocked : Stocked keeps ps) (kind : NodeKind) :
    Yields (Pools.take kind : Work NodePools OwnedNode) ps h fun _ _ h₁ =>
      h₁ = h ∨ h₁ = { h with document := (h.document.create kind).2 } := by
  obtain ⟨p, hp, _, make, _⟩ := stocked kind
  refine (ends_take hp _).2 ?_
  cases free : p.free with
  | cons n rest => exact (answers_take_shelf free _).2 (.inl rfl)
  | nil => exact (answers_take_made free make _).2 (.inr rfl)

/-- What comes back is reset, whether or not its pool keeps it. -/
lemma put_effect {keeps : Bool} {n : OwnedNode} (stocked : Stocked keeps ps)
    (hn : h.document.issued n.id) :
    Yields (Pools.put n.kind n : Work NodePools Unit) ps h fun _ _ h₁ =>
      h₁ = { h with document := h.document.reset n.id } := by
  obtain ⟨p, hp, _, _, reset⟩ := stocked n.kind
  exact (ends_put hp _ _).2 ((answers_put reset hn _).2 rfl)

end Pools

/-! ## The ledger -/

/-- Nodes that were there before, or that somebody holds. -/
abbrev Known (base : Nat) (mine : List OwnedNode) (m : NodeId) : Prop :=
  m.index < base ∨ m ∈ mine.map (·.id)

lemma Known.beside {base : Nat} {mine : List OwnedNode} {m : NodeId} (hm : Known base mine m)
    (others : List OwnedNode) :
    Known base (mine ++ others) m :=
  hm.imp_right fun held => by
    rw [List.map_append]
    exact List.mem_append_left _ held

lemma Known.cons {base : Nat} {mine : List OwnedNode} {m : NodeId}
    (hm : Known base mine m) (n : OwnedNode) :
    Known base (n :: mine) m :=
  hm.imp_right (List.mem_cons_of_mem _)

/-- The shelves and `mine` hold each node from `base` on exactly once, each under its kind. Nodes on
the shelves are in their empty state. -/
structure Owned (base : Nat) (ps : NodePools) (mine : List OwnedNode) (d : MemoryDocument) :
    Prop where
  stocked : Stocked true ps
  linked : Linked d
  base_le : base ≤ d.nodes.size
  ledger :
    ((shelved ps ++ mine).map (·.id)).Perm ((List.range' base (d.nodes.size - base)).map NodeId.mk)
  kinds : ∀ n ∈ mine, ∃ node, d.node? n.id = some node ∧ node.kind = n.kind
  fresh : ∀ n ∈ shelved ps, d.node? n.id = some (.fresh n.kind)
  sorted : ∀ kind, ∀ n ∈ shelf ps kind, n.kind = kind
  counted : ∀ kind, made ps kind = (shelf ps kind).length + mine.countP (·.kind = kind)

namespace Owned

variable {κ : Type} [Core κ] {h : MemoryHost κ} {ps : NodePools} {mine mine' : List OwnedNode}
  {base : Nat} {d d' : MemoryDocument} {n m : OwnedNode} {kind : NodeKind}

lemma perm (o : Owned base ps mine d) (perm : mine.Perm mine') : Owned base ps mine' d where
  stocked := o.stocked
  linked := o.linked
  base_le := o.base_le
  ledger := ((perm.append_left _).map _).symm.trans o.ledger
  kinds n hn := o.kinds n (perm.mem_iff.2 hn)
  fresh := o.fresh
  sorted := o.sorted
  counted kind := by rw [o.counted kind, perm.countP_eq]

lemma issued (o : Owned base ps mine d) (hn : n ∈ mine) : d.issued n.id := by
  obtain ⟨node, hn, _⟩ := o.kinds n hn
  exact issued_of_node? hn

lemma nodup (o : Owned base ps mine d) : ((shelved ps ++ mine).map (·.id)).Nodup :=
  o.ledger.nodup_iff.2 (List.Nodup.map (fun _ _ same => by cases same; rfl) List.nodup_range')

lemma mem_iff (o : Owned base ps mine d) {i : NodeId} :
    i ∈ (shelved ps ++ mine).map (·.id) ↔ base ≤ i.index ∧ d.issued i := by
  have inside := o.base_le
  rw [o.ledger.mem_iff, List.mem_map, MemoryDocument.issued, decide_eq_true_iff]
  constructor
  · rintro ⟨j, hj, rfl⟩
    rw [List.mem_range'_1] at hj
    exact ⟨hj.1, by dsimp only; omega⟩
  · rintro ⟨lower, upper⟩
    exact ⟨i.index, List.mem_range'_1.2 ⟨lower, by omega⟩, rfl⟩

lemma base_le_of_mem (o : Owned base ps mine d) (hn : n ∈ mine) : base ≤ n.id.index :=
  (o.mem_iff.1 (List.mem_map_of_mem (List.mem_append_right _ hn))).1

/-- No held node waits on a shelf. -/
lemma ne_of_shelved (o : Owned base ps mine d) (hn : n ∈ mine) (hm : m ∈ shelved ps) :
    n.id ≠ m.id := by
  have distinct := o.nodup
  rw [List.map_append, List.nodup_append] at distinct
  exact (distinct.2.2 _ (List.mem_map_of_mem hm) _ (List.mem_map_of_mem hn)).symm

/-- The document may change wherever the shelves are not concerned. -/
lemma of_kept (o : Owned base ps mine d) (linked : Linked d') (size : d'.nodes.size = d.nodes.size)
    (hk : ∀ n ∈ mine, (d'.node? n.id).map (·.kind) = (d.node? n.id).map (·.kind))
    (hs : ∀ n ∈ shelved ps, d'.node? n.id = d.node? n.id) : Owned base ps mine d' where
  stocked := o.stocked
  linked := linked
  base_le := by rw [size]; exact o.base_le
  ledger := by rw [size]; exact o.ledger
  kinds n hn := by
    obtain ⟨node, found, kind⟩ := o.kinds n hn
    have kept := hk n hn
    rw [found, Option.map_some, kind] at kept
    simpa using kept
  fresh n hn := (hs n hn).trans (o.fresh n hn)
  sorted := o.sorted
  counted := o.counted

lemma of_nodes (o : Owned base ps mine d) (same : d'.nodes = d.nodes) : Owned base ps mine d' :=
  o.of_kept (o.linked.of_nodes same) (by rw [same]) (fun _ _ => by rw [node?_of_nodes same])
    (fun _ _ => node?_of_nodes same)

lemma issued_of_known (o : Owned base ps mine d) {p : NodeId} (hp : Known base mine p) :
    d.issued p := by
  rcases hp with foreign | held
  · simpa [MemoryDocument.issued] using foreign.trans_le o.base_le
  · obtain ⟨n, hn, rfl⟩ := List.mem_map.1 held
    exact o.issued hn

/-- What waits on a shelf is nowhere else. -/
lemma known_ne_of_shelved (o : Owned base ps mine d) {p : NodeId} (hp : Known base mine p)
    (hm : m ∈ shelved ps) : p ≠ m.id := by
  rintro rfl
  rcases hp with foreign | held
  · have waiting := (o.mem_iff.1 (List.mem_map_of_mem (List.mem_append_left _ hm))).1
    omega
  · obtain ⟨n, hn, same⟩ := List.mem_map.1 held
    exact o.ne_of_shelved hn hm same

/-- A node may be hung under another. -/
lemma append (o : Owned base ps mine d) {p c : NodeId} (hp : Known base mine p)
    (hc : c ∈ mine.map (·.id)) : Owned base ps mine (d.append p c) := by
  refine o.of_kept
    (o.linked.append (o.issued_of_known hp) (o.issued_of_known (.inr hc))) size_append ?_ ?_
  · intro n _
    rw [node?_append o.linked]
    cases d.node? n.id <;> rfl
  · intro n hn
    have not_parent := (o.known_ne_of_shelved hp hn).symm
    have not_child := (o.known_ne_of_shelved (.inr hc) hn).symm
    rw [node?_append o.linked, o.fresh n hn, Option.map_some, if_neg not_child, if_neg not_parent]
    rfl

/-- A held node may be written to. -/
lemma written (o : Owned base ps mine d) {c : NodeId} (hc : Known base mine c)
    (w : NodeWrite) : Owned base ps mine (written w c d) := by
  refine o.of_kept (o.linked.written w) (size_written w)
    (fun _ _ => kind_written o.linked w) fun n hn => ?_
  have alone : d.parent? n.id = none := parent?_of_node? (o.fresh n hn)
  exact node?_written_of_ne o.linked w (o.known_ne_of_shelved hc hn).symm (by simp [alone])

/-- A node that leaves its holder for a shelf changes the ledger's order only. -/
lemma ledger_move {ps' : NodePools} (moved : (shelved ps').Perm (n :: shelved ps)) :
    (shelved ps' ++ mine).Perm (shelved ps ++ n :: mine) :=
  (moved.append_right mine).trans List.perm_middle.symm

/-- The names from `base` on, with the next one that a document gives. -/
lemma range_create (base_le : base ≤ d.nodes.size) :
    (List.range' base ((d.create kind).2.nodes.size - base)).map NodeId.mk =
      (List.range' base (d.nodes.size - base)).map NodeId.mk ++ [(d.create kind).1] := by
  have size : (d.create kind).2.nodes.size - base = (d.nodes.size - base) + 1 := by
    simp only [MemoryDocument.create, Array.size_push]
    omega
  have last : base + (d.nodes.size - base) = d.nodes.size := by omega
  rw [size, List.range'_1_concat, last, List.map_append]
  rfl

/-- One shelf may change as long as it holds its kind, and holders and shelf account for what its
pool made. -/
lemma of_set {p p' : Pool (Script Patching) OwnedNode} (o : Owned base ps mine d)
    (hp : ps.get? kind = some p)
    (same : p'.keeps = p.keeps ∧ p'.make = p.make ∧ p'.reset = p.reset) (linked : Linked d')
    (base_le : base ≤ d'.nodes.size) (ledger : ((shelved (ps.set kind p') ++ mine').map (·.id)).Perm
      ((List.range' base (d'.nodes.size - base)).map NodeId.mk))
    (kinds : ∀ n ∈ mine', ∃ node, d'.node? n.id = some node ∧ node.kind = n.kind)
    (fresh : ∀ n ∈ shelved (ps.set kind p'), d'.node? n.id = some (.fresh n.kind))
    (sorted : ∀ n ∈ p'.free, n.kind = kind)
    (counted : p'.created = p'.free.length + mine'.countP (·.kind = kind))
    (others : ∀ k ≠ kind, mine'.countP (·.kind = k) = mine.countP (·.kind = k)) :
    Owned base (ps.set kind p') mine' d' where
  stocked := o.stocked.set hp same.1 same.2.1 same.2.2
  linked := linked
  base_le := base_le
  ledger := ledger
  kinds := kinds
  fresh := fresh
  sorted k n hn := by
    rw [shelf_set] at hn
    split at hn
    · next here => rw [here]; exact sorted n hn
    · exact o.sorted k n hn
  counted k := by
    rw [made_set, shelf_set]
    by_cases here : k = kind
    · rw [if_pos here, if_pos here, here, counted]
    · rw [if_neg here, if_neg here, others k here, o.counted k]

/-- Giving a node out moves it from the shelves, or from nowhere, to its holder. -/
theorem take (o : Owned base ps mine h.document) (kind : NodeKind) :
    Yields (Pools.take kind : Work NodePools OwnedNode) ps h fun n ps' h' =>
      Owned base ps' (n :: mine) h'.document ∧ n.kind = kind ∧
        h'.document.node? n.id = some (.fresh kind) ∧
        ∀ m, h'.document.parent? m = h.document.parent? m := by
  obtain ⟨p, hp, _, make, _⟩ := o.stocked kind
  obtain ⟨others, whole, part⟩ := exists_shelved_perm ps kind
  have before := o.counted kind
  rw [shelf_of_get? hp] at whole
  rw [shelf_of_get? hp, made_of_get? hp] at before
  refine (ends_take hp _).2 ?_
  cases free : p.free with
  | cons n rest =>
    rw [free] at whole before
    refine (answers_take_shelf free _).2 ?_
    have moved : (shelved ps).Perm (n :: shelved (ps.set kind { p with free := rest })) :=
      whole.trans ((part { p with free := rest }).symm.cons n)
    have sorted (m) (hm : m ∈ n :: rest) : m.kind = kind :=
      o.sorted kind m (by rwa [shelf_of_get? hp, free])
    have right_kind := sorted n List.mem_cons_self
    have blank := o.fresh n (moved.mem_iff.2 List.mem_cons_self)
    refine ⟨o.of_set hp ⟨rfl, rfl, rfl⟩ o.linked o.base_le ?_ ?_ ?_ ?_ ?_ ?_,
      right_kind, ?_, fun _ => rfl⟩
    · exact ((ledger_move moved).map _).symm.trans o.ledger
    · intro m hm
      rcases List.mem_cons.1 hm with rfl | hm
      · exact ⟨_, blank, rfl⟩
      · exact o.kinds m hm
    · exact fun m hm => o.fresh m (moved.mem_iff.2 (List.mem_cons_of_mem _ hm))
    · exact fun m hm => sorted m (List.mem_cons_of_mem _ hm)
    · rw [List.length_cons] at before
      simp only [List.countP_cons, right_kind, decide_true, if_true]
      omega
    · intro k other
      simp [right_kind, Ne.symm other]
    · rw [blank, right_kind]
  | nil =>
    rw [free] at whole before
    refine (answers_take_made free make _).2 ?_
    have kept : (shelved (ps.set kind { p with created := p.created + 1 })).Perm (shelved ps) :=
      (part { p with created := p.created + 1 }).trans (by rw [free]; exact whole.symm)
    have blank := node?_create (d := h.document) (m := (h.document.create kind).1) kind
    rw [if_pos rfl] at blank
    refine ⟨o.of_set hp ⟨rfl, rfl, rfl⟩ (o.linked.create kind) ?_ ?_ ?_ ?_ ?_ ?_ ?_, rfl, blank,
      fun _ => parent?_create kind⟩
    · exact o.base_le.trans (by simp [MemoryDocument.create])
    · rw [range_create o.base_le]
      refine ((List.perm_middle.trans ((kept.append_right mine).cons _)).map _).trans ?_
      exact (o.ledger.cons _).trans (List.perm_append_singleton _ _).symm
    · intro m hm
      rcases List.mem_cons.1 hm with rfl | hm
      · exact ⟨_, blank, rfl⟩
      · rw [node?_create_of_issued kind (o.issued hm)]
        exact o.kinds m hm
    · intro m hm
      have fresh := o.fresh m (kept.mem_iff.1 hm)
      rwa [node?_create_of_issued kind (issued_of_node? fresh)]
    · simp [free]
    · simp only [free, List.length_nil, List.countP_cons, decide_true, if_true] at before ⊢
      omega
    · intro k other
      simp [Ne.symm other]

/-- Giving a node back moves it to its shelf, in its empty state. -/
theorem put (o : Owned base ps (n :: mine) h.document) :
    Yields (Pools.put n.kind n : Work NodePools Unit) ps h fun _ ps' h' =>
      Owned base ps' mine h'.document ∧ ∀ m p, h'.document.parent? m = some p ↔
        h.document.parent? m = some p ∧ m ≠ n.id ∧ p ≠ n.id := by
  obtain ⟨p, hp, keeps, _, reset⟩ := o.stocked n.kind
  obtain ⟨others, whole, part⟩ := exists_shelved_perm ps n.kind
  have before := o.counted n.kind
  rw [shelf_of_get? hp] at whole
  rw [shelf_of_get? hp, made_of_get? hp] at before
  refine (ends_put hp _ _).2 ((answers_put reset (o.issued List.mem_cons_self) _).2 ?_)
  rw [if_pos keeps]
  have moved : (shelved (ps.set n.kind { p with free := n :: p.free })).Perm (n :: shelved ps) :=
    (part { p with free := n :: p.free }).trans (whole.symm.cons n)
  obtain ⟨record, found, right_kind⟩ := o.kinds n List.mem_cons_self
  refine ⟨o.of_set hp ⟨rfl, rfl, rfl⟩ o.linked.reset ?_ ?_ ?_ ?_ ?_ ?_ ?_,
    fun _ _ => parent?_reset_eq_some o.linked⟩
  · rw [size_reset]
    exact o.base_le
  · rw [size_reset]
    exact ((ledger_move moved).map _).trans o.ledger
  · intro m hm
    obtain ⟨node, there, kind⟩ := o.kinds m (List.mem_cons_of_mem _ hm)
    rw [node?_reset o.linked, there]
    split
    · exact ⟨_, rfl, kind⟩
    · exact ⟨_, rfl, kind⟩
  · intro m hm
    rw [node?_reset o.linked]
    rcases List.mem_cons.1 (moved.mem_iff.1 hm) with rfl | hm
    · rw [if_pos rfl, found, Option.map_some, right_kind]
    · rw [if_neg (o.ne_of_shelved List.mem_cons_self hm).symm, o.fresh m hm]
      rfl
  · intro m hm
    rcases List.mem_cons.1 hm with rfl | hm
    · rfl
    · exact o.sorted n.kind m (by rwa [shelf_of_get? hp])
  · simp only [List.countP_cons, decide_true, if_true, List.length_cons] at before ⊢
    omega
  · intro k other
    simp [Ne.symm other]

/-- Nodes are given back one by one; each takes its ties with it. -/
theorem putAll (nodes : List OwnedNode) {ps : NodePools} {h : MemoryHost κ}
    (o : Owned base ps (nodes ++ mine) h.document) :
    Yields (nodes.forM fun node => Pools.put node.kind node : Work NodePools Unit)
      ps h fun _ ps' h' =>
      Owned base ps' mine h'.document ∧ ∀ m p, h'.document.parent? m = some p ↔
        h.document.parent? m = some p ∧ m ∉ nodes.map (·.id) ∧ p ∉ nodes.map (·.id) := by
  induction nodes generalizing ps h with
  | nil => exact ⟨o, fun m p => by simp⟩
  | cons n nodes ih =>
    refine (ends_bind _ _ _).2 (o.put.ends ?_)
    rintro _ ps' h' ⟨o', parents⟩
    refine (ih o').ends ?_
    rintro _ ps'' h'' ⟨o'', parents'⟩
    refine ⟨o'', fun m p => ?_⟩
    rw [parents' m p, parents m p, List.map_cons, List.mem_cons, List.mem_cons]
    tauto

theorem giveBack {nodes : List OwnedNode} (o : Owned base ps (nodes ++ mine) h.document) :
    Yields (Bench.giveBack nodes) ps h fun _ ps' h' =>
      Owned base ps' mine h'.document ∧ ∀ m p, h'.document.parent? m = some p ↔
        h.document.parent? m = some p ∧ m ∉ nodes.map (·.id) ∧ p ∉ nodes.map (·.id) := by
  refine (putAll nodes.reverse (o.perm ((List.reverse_perm nodes).symm.append_right mine))).ends ?_
  rintro _ ps' h' ⟨o', parents⟩
  exact ⟨o', fun m p => by simpa using parents m p⟩

end Owned

/-- What is known is no node that joins. -/
lemma ne_of_joined {base : Nat} {mine : List OwnedNode} {ps : NodePools}
    {n : OwnedNode} {m : NodeId}
    {d : MemoryDocument} (o : Owned base ps (n :: mine) d) (hm : Known base mine m) : m ≠ n.id := by
  rintro rfl
  rcases hm with foreign | held
  · have := o.base_le_of_mem List.mem_cons_self
    omega
  · have distinct := o.nodup
    rw [List.map_append, List.nodup_append, List.map_cons, List.nodup_cons] at distinct
    exact distinct.2.1.1 held

/-! ## Steps with held nodes -/

/-- The nodes may have been written to, but the tree is as it was in `d₀`. -/
structure Dressed (base : Nat) (ps : NodePools) (mine : List OwnedNode) (d₀ d : MemoryDocument) :
    Prop where
  owned : Owned base ps mine d
  parents : ∀ m, d.parent? m = d₀.parent? m

section Steps

variable {κ σ α : Type} [Core κ] {base : Nat} {ps : NodePools} {mine : List OwnedNode}
  {d₀ : MemoryDocument} {h : MemoryHost κ} {s : σ} {post : α → σ → MemoryHost κ → Prop}
  {refused : PatchError → σ → MemoryHost κ → Prop} {breach : Breach → Prop}
  {f : Unit → Work σ α} {p c : NodeId}

lemma Dressed.written {d : MemoryDocument} (dressed : Dressed base ps mine d₀ d)
    (hc : Known base mine c) (w : NodeWrite)
    (hw : replaces w = false) : Dressed base ps mine d₀ (written w c d) := by
  refine ⟨dressed.owned.written hc w, fun m => ?_⟩
  rw [parent?_written dressed.owned.linked, if_neg (by simp [hw])]
  exact dressed.parents m

lemma Dressed.write (dressed : Dressed base ps mine d₀ h.document)
    (hc : Known base mine c) (w : NodeWrite) (hw : replaces w = false)
    (next : ∀ h : MemoryHost κ, Dressed base ps mine d₀ h.document →
      Ends (f ()) s h post refused breach) :
    Ends (liftM (w.apply c) >>= f) s h post refused breach := by
  refine ends_write w (dressed.owned.issued_of_known hc) fun h' doc _ => next h' ?_
  rw [doc]
  exact dressed.written hc w hw

lemma Dressed.writeAll (w : NodeWrite) (hw : replaces w = false)
    (nodes : List OwnedNode) {h : MemoryHost κ}
    (dressed : Dressed base ps mine d₀ h.document) (own : ∀ n ∈ nodes, n ∈ mine) :
    Yields (nodes.forM fun n => (w.apply n.id : Script Patching Unit) : Work σ Unit) s h
      fun _ s' h' =>
      s' = s ∧ Dressed base ps mine d₀ h'.document := by
  induction nodes generalizing h with
  | nil => exact ⟨rfl, dressed⟩
  | cons n nodes ih =>
    have held : n.id ∈ mine.map (·.id) := List.mem_map_of_mem (own n List.mem_cons_self)
    refine dressed.write (.inr held) w hw fun h' dressed => ?_
    exact ih dressed fun m hm => own m (List.mem_cons_of_mem _ hm)

lemma Owned.hang (o : Owned base ps mine h.document) (hp : Known base mine p)
    (hc : c ∈ mine.map (·.id)) (next : ∀ h' : MemoryHost κ, Owned base ps mine h'.document →
      (∀ m, h'.document.parent? m = if m = c then some p else h.document.parent? m) →
      Ends (f ()) s h' post refused breach) :
    Ends (liftM (ask (.appendChild p c)) >>= f) s h post refused breach := by
  have issued := o.issued_of_known (.inr hc)
  refine ends_append (o.issued_of_known hp) issued fun h' doc _ => next h' ?_ fun m => ?_
  · rw [doc]
    exact o.append hp hc
  · rw [doc, parent?_append o.linked issued]

end Steps

end LayeredPage.Proofs
