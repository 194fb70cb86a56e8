import LayeredPage.Proofs.Ownership
import LayeredPage.Proofs.Reaching

/-!
# A stage and its neighbours

Whoever uses a stage has nodes of its own, in the same document and perhaps from the same pools.
`Apart` says that the nodes on the shelves and those in use are issued, none of them twice and none
the mount; it says nothing about what else there is. `Undisturbed` is a change that happens beside
some nodes under the mount: it may take others from there, but leaves these in order and looking as
they did.
-/

namespace LayeredPage.Proofs

open MemoryDocument

/-- The nodes on the shelves and those in use, all issued, with the mount no two the same. -/
structure Apart (mount : NodeId) (ps : NodePools) (mine : List OwnedNode) (d : MemoryDocument) :
    Prop where
  stocked : Stocked true ps
  tidy : Tidy d
  mounted : d.issued mount
  distinct : (mount :: (shelved ps ++ mine).map (·.id)).Nodup
  issued : ∀ n ∈ shelved ps ++ mine, d.issued n.id

namespace Apart

variable {κ : Type} [Core κ] {mount m : NodeId} {ps : NodePools}
  {mine mine' : List OwnedNode} {n : OwnedNode} {d d' : MemoryDocument} {h : MemoryHost κ}

lemma perm (a : Apart mount ps mine d) (perm : mine.Perm mine') : Apart mount ps mine' d where
  stocked := a.stocked
  tidy := a.tidy
  mounted := a.mounted
  distinct := (((perm.append_left _).map _).cons _).nodup_iff.1 a.distinct
  issued n hn := a.issued n ((perm.append_left _).mem_iff.2 hn)

lemma fewer (a : Apart mount ps mine d) (sub : mine'.Sublist mine) : Apart mount ps mine' d := by
  have inside : (shelved ps ++ mine').Sublist (shelved ps ++ mine) := sub.append_left _
  exact ⟨a.stocked, a.tidy, a.mounted, a.distinct.sublist ((inside.map _).cons_cons _), fun n hn =>
    a.issued n (inside.subset hn)⟩

/-- The document may change as long as it stays tidy and issues what it issued. -/
lemma change (a : Apart mount ps mine d) (tidy : Tidy d') (size : d.nodes.size ≤ d'.nodes.size) :
    Apart mount ps mine d' :=
  ⟨a.stocked, tidy, issued_of_size_le size a.mounted, a.distinct, fun n hn =>
    issued_of_size_le size (a.issued n hn)⟩

lemma issued_of_mem (a : Apart mount ps mine d) (hm : m ∈ mine.map (·.id)) : d.issued m := by
  obtain ⟨n, hn, rfl⟩ := List.mem_map.1 hm
  exact a.issued n (List.mem_append_right _ hn)

lemma ne_mount (a : Apart mount ps mine d) (hm : m ∈ mine.map (·.id)) : m ≠ mount := by
  rintro rfl
  refine (List.nodup_cons.1 a.distinct).1 ?_
  rw [List.map_append]
  exact List.mem_append_right _ hm

lemma nodup (a : Apart mount ps mine d) : (mine.map (·.id)).Nodup := by
  have distinct := (List.nodup_cons.1 a.distinct).2
  rw [List.map_append] at distinct
  exact distinct.of_append_right

lemma notMem (a : Apart mount ps (n :: mine) d) : n.id ∉ mine.map (·.id) := by
  have distinct := a.nodup
  rw [List.map_cons, List.nodup_cons] at distinct
  exact distinct.1

/-- A node comes from a shelf, or is new in the document. -/
theorem take (a : Apart mount ps mine h.document) (kind : NodeKind) :
    Yields (Pools.take kind : Work NodePools OwnedNode) ps h fun n ps' h' =>
      Apart mount ps' (n :: mine) h'.document ∧ h'.core = h.core ∧
        ∀ m, h.document.issued m → h'.document.node? m = h.document.node? m := by
  obtain ⟨p, hp, _, make, _⟩ := a.stocked kind
  obtain ⟨others, whole, part⟩ := exists_shelved_perm ps kind
  rw [shelf_of_get? hp] at whole
  refine (ends_take hp _).2 ?_
  cases free : p.free with
  | cons n rest =>
    rw [free, List.cons_append] at whole
    have moved :
        (shelved (ps.set kind { p with free := rest }) ++ n :: mine).Perm (shelved ps ++ mine) := by
      refine List.perm_middle.trans ?_
      rw [← List.cons_append]
      exact (((part _).cons n).trans whole.symm).append_right mine
    refine (answers_take_shelf free _).2 ⟨⟨a.stocked.set hp rfl rfl rfl, a.tidy, a.mounted, ?_, ?_⟩,
      rfl, fun _ _ => rfl⟩
    · exact ((moved.map _).cons _).nodup_iff.2 a.distinct
    · exact fun m hm => a.issued m (moved.mem_iff.1 hm)
  | nil =>
    rw [free, List.nil_append] at whole
    let made : Pool (Script Patching) OwnedNode := { p with created := p.created + 1 }
    have same : (shelved (ps.set kind made)).Perm (shelved ps) := by
      have rest := part made
      rw [free, List.nil_append] at rest
      exact rest.trans whole.symm
    let n : OwnedNode := ⟨(h.document.create kind).1, kind⟩
    have size : h.document.nodes.size ≤ (h.document.create kind).2.nodes.size := by
      simp [MemoryDocument.create]
    have joined : (shelved (ps.set kind made) ++ n :: mine).Perm (n :: (shelved ps ++ mine)) :=
      List.perm_middle.trans ((same.append_right mine).cons n)
    have new (m : NodeId) (hm : h.document.issued m) : m ≠ n.id := by
      rintro rfl
      simp [n, MemoryDocument.issued, MemoryDocument.create] at hm
    refine (answers_take_made free make _).2
      ⟨⟨a.stocked.set hp rfl rfl rfl, a.tidy.create kind,
        issued_of_size_le size a.mounted, ?_, ?_⟩, rfl, ?_⟩
    · refine (((joined.map _).cons mount).trans (List.Perm.swap ..)).nodup_iff.2
        (List.nodup_cons.2 ⟨fun again => ?_, a.distinct⟩)
      rcases List.mem_cons.1 again with same | again
      · exact new mount a.mounted same.symm
      · obtain ⟨m, hm, same⟩ := List.mem_map.1 again
        exact new m.id (a.issued m hm) same
    · intro m hm
      rcases List.mem_cons.1 (joined.mem_iff.1 hm) with rfl | hm
      · simp [n, MemoryDocument.issued, MemoryDocument.create]
      · exact issued_of_size_le size (a.issued m hm)
    · exact fun m hm => node?_create_of_issued kind hm

/-- A node that gets out of use is reset, and waits on a shelf. -/
theorem put (a : Apart mount ps (n :: mine) h.document) (kind : NodeKind) :
    Yields (Pools.put kind n : Work NodePools Unit) ps h fun _ ps' h' =>
      Apart mount ps' mine h'.document ∧ h' = { h with document := h.document.reset n.id } := by
  obtain ⟨p, hp, keeps, _, reset⟩ := a.stocked kind
  obtain ⟨others, whole, part⟩ := exists_shelved_perm ps kind
  rw [shelf_of_get? hp] at whole
  have there : h.document.issued n.id := a.issued n (List.mem_append_right _ List.mem_cons_self)
  let filled : Pool (Script Patching) OwnedNode := { p with free := n :: p.free }
  have moved : (shelved (ps.set kind filled) ++ mine).Perm (shelved ps ++ n :: mine) := by
    refine List.Perm.trans ?_ List.perm_middle.symm
    rw [← List.cons_append]
    exact ((part filled).trans (whole.symm.cons n)).append_right mine
  refine (ends_put hp _ _).2 ((answers_put reset there _).2 ?_)
  rw [if_pos keeps]
  refine ⟨⟨a.stocked.set hp rfl rfl rfl, a.tidy.reset, ?_, ?_, fun m hm => ?_⟩, rfl⟩
  · exact issued_of_size_le size_reset.ge a.mounted
  · exact ((moved.map _).cons _).nodup_iff.2 a.distinct
  · exact issued_of_size_le size_reset.ge (a.issued m (moved.mem_iff.1 hm))

end Apart

/-! ## Changes beside some nodes -/

/-- Attributes and style of a node. -/
def looks (d : MemoryDocument) (n : NodeId) : Option (Names × Names) :=
  (d.node? n).map fun node => (node.attributes, node.style)

lemma looks_append {d : MemoryDocument} {n p c : NodeId} (linked : Linked d) :
    looks (d.append p c) n = looks d n := by
  unfold looks
  rw [node?_append linked]
  cases d.node? n <;> rfl

/-- The mount may lose children, but none of `kept`, and these look as before. -/
structure Undisturbed (mount : NodeId) (kept : List NodeId) (d d' : MemoryDocument) : Prop where
  children : ∃ q : NodeId → Bool, d'.children mount = (d.children mount).filter q ∧
    ∀ n ∈ kept, q n = true
  looks : ∀ n ∈ kept, looks d' n = looks d n

namespace Undisturbed

variable {mount n p c : NodeId} {kept kept' : List NodeId} {d d' d'' : MemoryDocument}

lemma trans (first : Undisturbed mount kept d d') (second : Undisturbed mount kept d' d'') :
    Undisturbed mount kept d d'' := by
  obtain ⟨q, children, all⟩ := first.children
  obtain ⟨q', children', all'⟩ := second.children
  refine ⟨⟨fun n => q n && q' n, ?_, fun n hn => ?_⟩, fun n hn =>
    (second.looks n hn).trans (first.looks n hn)⟩
  · rw [children', children, List.filter_filter]
    simp only [Bool.and_comm]
  · simp only [all n hn, all' n hn, Bool.and_self]

lemma of_children (children : d'.children mount = d.children mount)
    (same : ∀ n ∈ kept, Proofs.looks d' n = Proofs.looks d n) :
    Undisturbed mount kept d d' :=
  ⟨⟨fun _ => true, by rw [children, List.filter_true], fun _ _ => rfl⟩, same⟩

lemma notMem_children (u : Undisturbed mount kept d d') (hn : n ∉ d.children mount) :
    n ∉ d'.children mount := by
  obtain ⟨q, children, _⟩ := u.children
  rw [children]
  exact fun inside => hn (List.mem_of_mem_filter inside)

lemma refl : Undisturbed mount kept d d := of_children rfl fun _ _ => rfl

/-- What was issued may stay as it is. -/
lemma of_issued (there : ∀ n ∈ mount :: kept, d.issued n)
    (same : ∀ n, d.issued n → d'.node? n = d.node? n) :
    Undisturbed mount kept d d' := by
  refine of_children ?_ fun n hn => ?_
  · rw [MemoryDocument.children, same _ (there _ List.mem_cons_self)]
    rfl
  · rw [Proofs.looks, same n (there n (List.mem_cons_of_mem _ hn))]
    rfl

lemma modify {f : MemoryNode → MemoryNode} (hf : ∀ node, (f node).children = node.children)
    (other : n ∉ kept) :
    Undisturbed mount kept d (d.modify n f) := by
  refine of_children (children_modify hf) fun m hm => ?_
  have apart : m ≠ n := ne_of_mem_of_not_mem hm other
  rw [Proofs.looks, node?_modify, if_neg apart]
  rfl

lemma setHtml (linked : Linked d) (html : String) (other : mount ≠ n) :
    Undisturbed mount kept d (d.setHtml n html) := by
  refine of_children ?_ fun m _ => ?_
  · rw [children_setHtml linked, if_neg other]
  · unfold Proofs.looks
    rw [node?_setHtml linked]
    cases d.node? m <;> rfl

lemma detach (linked : Linked d) (other : n ∉ kept) : Undisturbed mount kept d (d.detach n) := by
  refine ⟨⟨(· ≠ n), children_detach linked, fun m hm => ?_⟩, fun m _ => ?_⟩
  · simpa using ne_of_mem_of_not_mem hm other
  · unfold Proofs.looks
    rw [node?_detach linked]
    cases d.node? m <;> rfl

lemma append (linked : Linked d) (hp : d.issued p) (parent : mount ≠ p) (child : c ∉ kept) :
    Undisturbed mount kept d (d.append p c) := by
  refine ⟨⟨(· ≠ c), ?_, fun m hm => ?_⟩, fun m _ => ?_⟩
  · rw [children_append linked hp, if_neg parent, List.append_nil]
  · simpa using ne_of_mem_of_not_mem hm child
  · exact looks_append linked

lemma reset (linked : Linked d) (parent : mount ≠ n) (other : n ∉ kept) :
    Undisturbed mount kept d (d.reset n) := by
  refine ⟨⟨(· ≠ n), ?_, fun m hm => ?_⟩, fun m hm => ?_⟩
  · rw [children_reset linked, if_neg parent]
  · simpa using ne_of_mem_of_not_mem hm other
  · unfold Proofs.looks
    rw [node?_reset linked, if_neg (ne_of_mem_of_not_mem hm other)]
    cases d.node? m <;> rfl

/-- A request that names strangers only happens beside the mount and the nodes that are kept, and
takes no node away. -/
theorem answered (linked : Linked d) (there : ∀ n ∈ mount :: kept, d.issued n)
    {r : DocumentRequest} {reply : r.Reply}
    (strange : ∀ n ∈ named r, d.issued n ∧ n ∉ mount :: kept) (run : answer r d = .ok (reply, d')) :
    Undisturbed mount kept d d' ∧ d.nodes.size ≤ d'.nodes.size := by
  have stranger (n) (hn : named r = [n]) : d.issued n ∧ mount ≠ n ∧ n ∉ kept := by
    obtain ⟨issued, apart⟩ := strange n (by simp [hn])
    rw [List.mem_cons, not_or] at apart
    exact ⟨issued, Ne.symm apart.1, apart.2⟩
  have changed {n : NodeId} {f : MemoryNode → MemoryNode} (hn : named r = [n])
    (run : change n f d = .ok ((), d')) (hf : ∀ node, (f node).children = node.children) :
      Undisturbed mount kept d d' ∧ d.nodes.size ≤ d'.nodes.size := by
    obtain ⟨issued, _, apart⟩ := stranger n hn
    rw [change_issued issued] at run
    cases run
    exact ⟨modify hf apart, (size_modify f).ge⟩
  have looked {α : Type} {n : NodeId} {f : MemoryNode → α} {a : α} (hn : named r = [n])
      (run : (do return f (← MemoryDocument.read n) : Checked α) d = .ok (a, d')) :
      Undisturbed mount kept d d' ∧ d.nodes.size ≤ d'.nodes.size := by
    obtain ⟨node, found⟩ := issued_iff.1 (stranger n hn).1
    simp only [bind, StateT.bind, read_node? found] at run
    cases run
    exact ⟨refl, le_rfl⟩
  cases r with
  | createElement kind =>
    cases run
    have size : d.nodes.size ≤ (d.create kind).2.nodes.size := by simp [MemoryDocument.create]
    exact ⟨of_issued there fun n hn => node?_create_of_issued kind hn, size⟩
  | appendChild p c =>
    obtain ⟨hp, parent⟩ := strange p (by simp [named])
    obtain ⟨hc, child⟩ := strange c (by simp [named])
    rw [List.mem_cons, not_or] at parent child
    rw [answer_appendChild hp hc] at run
    cases run
    exact ⟨append linked hp (Ne.symm parent.1) child.2, size_append.ge⟩
  | detach n =>
    obtain ⟨issued, _, apart⟩ := stranger n rfl
    simp only [answer, bind, StateT.bind, require_issued issued] at run
    cases run
    obtain ⟨nodes, eq, size⟩ := exists_detach (d := d) (n := n)
    refine ⟨detach linked apart, ?_⟩
    rw [eq, size]
  | reset n =>
    obtain ⟨issued, away, apart⟩ := stranger n rfl
    rw [answer_reset issued] at run
    cases run
    exact ⟨reset linked away apart, size_reset.ge⟩
  | setInnerHtml n html | setText n text =>
    obtain ⟨issued, away, _⟩ := stranger n rfl
    simp only [answer, bind, StateT.bind, require_issued issued] at run
    cases run
    exact ⟨setHtml linked _ away, (size_setHtml _).ge⟩
  | parent n | childCount n | innerHtml n | surfaceMetrics n => exact looked rfl run
  | setAttribute n | removeAttribute n | setStyle n | removeStyle n | setLinkStyle n
    | setForm n | bindInput n
  | clearSurface n | resizeSurface n => exact changed rfl run fun _ => rfl
  | setRootProperty | removeRootProperty | loadFace | loadImage | focus | observeSize
    | unobserveSize | sampleScroll
  | cancelSampler =>
    cases run
    exact ⟨of_children rfl fun _ _ => rfl, le_rfl⟩
  | scrollDelta sampler now =>
    obtain rfl : _ = d' := congrArg Prod.snd (Except.ok.inj run)
    dsimp only
    split
    · exact ⟨of_children rfl fun _ _ => rfl, le_rfl⟩
    · exact ⟨refl, le_rfl⟩

lemma written (w : NodeWrite) (linked : Linked d) (away : mount ≠ n) (other : n ∉ kept) :
    Undisturbed mount kept d (written w n d) := by
  cases w with
  | html | text => exact setHtml linked _ away
  | focus | observe => exact of_children rfl fun _ _ => rfl
  | attr | style | noStyle | linkStyle | form | bind => exact modify (fun _ => rfl) other

end Undisturbed

/-! ## Steps beside some nodes -/

/-- What a stage does with `mine` while it leaves `kept` alone and tells the core nothing. -/
structure Beside {κ : Type} (mount : NodeId) (ps : NodePools) (mine : List OwnedNode)
    (kept : List NodeId) (h₀ h : MemoryHost κ) :
    Prop where
  apart : Apart mount ps mine h.document
  quiet : Undisturbed mount kept h₀.document h.document
  core : h.core = h₀.core

namespace Beside

variable {κ σ α : Type} {mount p c : NodeId} {ps : NodePools}
  {mine : List OwnedNode} {n : OwnedNode}
  {kept : List NodeId} {h₀ h : MemoryHost κ} {s : σ} {post : α → σ → MemoryHost κ → Prop}
  {refused : PatchError → σ → MemoryHost κ → Prop} {breach : Breach → Prop} {f : Unit → Work σ α}

lemma start (apart : Apart mount ps mine h.document) : Beside mount ps mine kept h h :=
  ⟨apart, .refl, rfl⟩

variable [Core κ]

theorem take (b : Beside mount ps mine kept h₀ h)
    (there : ∀ n ∈ kept, n ∈ mine.map (·.id)) (kind : NodeKind) :
    Yields (Pools.take kind : Work NodePools OwnedNode) ps h fun n ps' h' =>
      Beside mount ps' (n :: mine) kept h₀ h' := by
  refine (b.apart.take kind).ends ?_
  rintro n ps' h' ⟨apart, core, same⟩
  refine ⟨apart, b.quiet.trans (.of_issued ?_ same), core.trans b.core⟩
  intro m hm
  rcases List.mem_cons.1 hm with rfl | hm
  · exact b.apart.mounted
  · exact b.apart.issued_of_mem (there m hm)

theorem put (b : Beside mount ps (n :: mine) kept h₀ h) (strange : n.id ∉ kept) (kind : NodeKind) :
    Yields (Pools.put kind n : Work NodePools Unit) ps h fun _ ps' h' =>
      Beside mount ps' mine kept h₀ h' ∧ n.id ∉ h'.document.children mount := by
  have away : mount ≠ n.id := (b.apart.ne_mount (by simp)).symm
  refine (b.apart.put kind).ends ?_
  rintro _ ps' h' ⟨apart, rfl⟩
  refine ⟨⟨apart, b.quiet.trans (.reset b.apart.tidy.linked away strange), b.core⟩, ?_⟩
  rw [children_reset b.apart.tidy.linked, if_neg away]
  simp

lemma write (b : Beside mount ps mine kept h₀ h) (hc : c ∈ mine.map (·.id))
    (strange : c ∉ kept) (w : NodeWrite)
    (next : ∀ h' : MemoryHost κ, Beside mount ps mine kept h₀ h' →
      Ends (f ()) s h' post refused breach) :
    Ends (liftM (w.apply c) >>= f) s h post refused breach := by
  have issued := b.apart.issued_of_mem hc
  have away : mount ≠ c := (b.apart.ne_mount hc).symm
  refine ends_write w issued fun h' doc core => next h' ⟨?_, ?_, core.trans b.core⟩
  · rw [doc]
    exact b.apart.change (b.apart.tidy.written w issued) (size_written w).ge
  · rw [doc]
    exact b.quiet.trans (.written w b.apart.tidy.linked away strange)

lemma append (b : Beside mount ps mine kept h₀ h) (hp : p ∈ mine.map (·.id))
    (hc : c ∈ mine.map (·.id)) (strange : c ∉ kept)
    (next : ∀ h' : MemoryHost κ, Beside mount ps mine kept h₀ h' →
      Ends (f ()) s h' post refused breach) :
    Ends (liftM (ask (.appendChild p c)) >>= f) s h post refused breach := by
  have parent := b.apart.issued_of_mem hp
  have child := b.apart.issued_of_mem hc
  have away : mount ≠ p := (b.apart.ne_mount hp).symm
  refine ends_append parent child fun h' doc core => next h' ⟨?_, ?_, core.trans b.core⟩
  · rw [doc]
    exact b.apart.change (b.apart.tidy.append parent child) size_append.ge
  · rw [doc]
    exact b.quiet.trans (.append b.apart.tidy.linked parent away strange)

end Beside

end LayeredPage.Proofs
