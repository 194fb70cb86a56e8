import LayeredPage.Proofs.Asking

/-!
# Documents that requests lead to

`Reached` collects the documents that requests about issued nodes, and a user's doings, can lead to.
All of them are tidy: the tree is linked, and no unissued node is observed, focused or sampled.
-/

namespace LayeredPage.Proofs

open MemoryDocument

variable {d d' : MemoryDocument} {n m p c : NodeId}

/-- The nodes that a request names. -/
def named : DocumentRequest → List NodeId
  | .appendChild parent child => [parent, child]
  | .detach n | .parent n | .childCount n | .reset n | .setAttribute n .. | .removeAttribute n _
  | .setStyle n .. | .removeStyle n _ | .setLinkStyle n .. | .setInnerHtml n _ | .innerHtml n
  | .setText n _ | .setForm n _ | .focus n | .bindInput n .. | .observeSize n | .unobserveSize n
  | .sampleScroll n .. | .surfaceMetrics n | .clearSurface n | .resizeSurface n .. => [n]
  | .createElement _ | .setRootProperty .. | .removeRootProperty _
    | .cancelSampler _ | .scrollDelta ..
  | .loadFace _ | .loadImage _ => []

/-- Documents that come from the empty one by requests about nodes that were issued, by events, by
layout, and by what a sampler feeds to its tracker. -/
inductive Reached : MemoryDocument → Prop where
  | empty : Reached .empty
  | asked {d d' : MemoryDocument} {r : DocumentRequest} {reply : r.Reply} : Reached d →
      (∀ n ∈ named r, d.issued n) → answer r d = .ok (reply, d') → Reached d'
  | fired {d d' : MemoryDocument} {n : NodeId} {event : String} {value : InputValue Float}
      {sent : List (Interrupt Float)} :
      Reached d → fire n event value d = .ok (sent, d') → Reached d'
  | laidOut {d : MemoryDocument} (n : NodeId) (width height : Float) : Reached d →
      Reached (d.setClientSize n width height)
  | tracked {d : MemoryDocument} (sampler : SamplerId)
      (f : ScrollTracker Float → ScrollTracker Float) :
      Reached d → Reached (d.modifyTracker sampler f)

/-- The tree is linked, and whatever the document says about a node, it says about one it issued. -/
structure Tidy (d : MemoryDocument) : Prop where
  linked : Linked d
  observed : ∀ i ∈ d.observed, i < d.nodes.size
  focused : ∀ n, d.focused = some n → d.issued n
  sampled : ∀ (i : Nat) (s : MemorySampler), d.samplers[i]? = some s → s.live → d.issued s.node

lemma issued_of_size_le (hs : d.nodes.size ≤ d'.nodes.size) (hn : d.issued n) : d'.issued n := by
  simp only [issued, decide_eq_true_eq] at hn ⊢
  omega

/-- Changes to the tree that start no sampler, observe nothing new and move no focus. -/
lemma Tidy.of_tree (tidy : Tidy d) (linked : Linked d') (hs : d.nodes.size ≤ d'.nodes.size)
    (ho : ∀ i ∈ d'.observed, i ∈ d.observed) (hf : ∀ n, d'.focused = some n → d.focused = some n)
    (samplers : d'.samplers = d.samplers) : Tidy d' where
  linked := linked
  observed i hi := (tidy.observed i (ho i hi)).trans_le hs
  focused n hn := issued_of_size_le hs (tidy.focused n (hf n hn))
  sampled i s hi live := by
    rw [samplers] at hi
    exact issued_of_size_le hs (tidy.sampled i s hi live)

lemma Tidy.modify (tidy : Tidy d) {f : MemoryNode → MemoryNode}
    (hp : ∀ node, (f node).parent = node.parent) (hc : ∀ node, (f node).children = node.children) :
    Tidy (d.modify n f) :=
  tidy.of_tree (tidy.linked.modify hp hc) (by rw [size_modify]) (fun _ => id) (fun _ => id) rfl

lemma Tidy.change (tidy : Tidy d) {f : MemoryNode → MemoryNode} {reply : Unit}
    (run : change n f d = .ok (reply, d')) (hn : d.issued n)
    (hp : ∀ node, (f node).parent = node.parent) (hc : ∀ node, (f node).children = node.children) :
    Tidy d' := by
  rw [change_issued hn] at run
  cases run
  exact tidy.modify hp hc

lemma Tidy.detach (tidy : Tidy d) : Tidy (d.detach n) := by
  have linked := tidy.linked.of_detach (n := n)
  obtain ⟨nodes, eq, size⟩ := exists_detach (d := d) (n := n)
  rw [eq] at linked ⊢
  exact tidy.of_tree linked size.ge (fun _ => id) (fun _ => id) rfl

lemma Tidy.append (tidy : Tidy d) (hp : d.issued p) (hc : d.issued c) : Tidy (d.append p c) := by
  have linked := tidy.linked.append hp hc
  obtain ⟨nodes, eq, size⟩ := exists_append (d := d) (p := p) (c := c)
  rw [eq] at linked ⊢
  exact tidy.of_tree linked size.ge (fun _ => id) (fun _ => id) rfl

lemma Tidy.setHtml (tidy : Tidy d) (html : String) : Tidy (d.setHtml n html) := by
  have linked := tidy.linked.setHtml (n := n) html
  obtain ⟨nodes, eq, size⟩ := exists_setHtml (d := d) (n := n) html
  rw [eq] at linked ⊢
  exact tidy.of_tree linked size.ge (fun _ => id) (fun _ => id) rfl

lemma Tidy.reset (tidy : Tidy d) : Tidy (d.reset n) := by
  have linked := tidy.linked.reset (n := n)
  obtain ⟨nodes, eq, size⟩ := exists_reset (d := d) (n := n)
  rw [eq] at linked ⊢
  refine tidy.of_tree linked size.ge ?_ ?_ rfl
  · exact fun i hi => Std.ExtTreeSet.mem_of_mem_erase hi
  · intro m hm
    dsimp only at hm
    split at hm
    · cases hm
    · exact hm

lemma Tidy.create (tidy : Tidy d) (kind : NodeKind) : Tidy (d.create kind).2 :=
  tidy.of_tree (tidy.linked.create kind) (by simp [MemoryDocument.create])
    (fun _ => id) (fun _ => id) rfl

lemma Tidy.modifySampler (tidy : Tidy d) {sampler : SamplerId} {f : MemorySampler → MemorySampler}
    (hn : ∀ s, (f s).node = s.node) (hl : ∀ s, (f s).live → s.live) :
    Tidy (d.modifySampler sampler f) where
  linked := tidy.linked
  observed := tidy.observed
  focused := tidy.focused
  sampled i s hi live := by
    unfold MemoryDocument.modifySampler at hi
    rw [Array.getElem?_modify] at hi
    split at hi
    · obtain ⟨t, ht, rfl⟩ := Option.map_eq_some_iff.1 hi
      rw [hn]
      exact tidy.sampled i t ht (hl t live)
    · exact tidy.sampled i s hi live

lemma Tidy.read {α : Type} (tidy : Tidy d) (hn : d.issued n) {f : MemoryNode → α} {reply : α}
    (run : (do return f (← MemoryDocument.read n) : Checked α) d = .ok (reply, d')) : Tidy d' := by
  obtain ⟨_, same⟩ := read_issued hn f
  rw [same] at run
  cases run
  exact tidy

/-- A request about issued nodes keeps a document tidy. -/
lemma Tidy.answered (tidy : Tidy d) {r : DocumentRequest} {reply : r.Reply}
    (known : ∀ n ∈ named r, d.issued n) (run : answer r d = .ok (reply, d')) : Tidy d' := by
  have known_of_eq (n) (hn : named r = [n]) : d.issued n := known n (by simp [hn])
  cases r with
  | createElement kind =>
    cases run
    exact tidy.create kind
  | appendChild p c =>
    have hp := known p (by simp [named])
    have hc := known c (by simp [named])
    rw [answer_appendChild hp hc] at run
    cases run
    exact tidy.append hp hc
  | detach n =>
    simp only [answer, bind, StateT.bind, require_issued (known_of_eq n rfl)] at run
    cases run
    exact tidy.detach
  | reset n =>
    rw [answer_reset (known_of_eq n rfl)] at run
    cases run
    exact tidy.reset
  | setInnerHtml n html | setText n text =>
    simp only [answer, bind, StateT.bind, require_issued (known_of_eq n rfl)] at run
    cases run
    exact tidy.setHtml _
  | parent n | childCount n | innerHtml n | surfaceMetrics n =>
    exact tidy.read (known_of_eq n rfl) run
  | setAttribute n | removeAttribute n | setStyle n | removeStyle n | setLinkStyle n
    | setForm n | bindInput n
  | clearSurface n | resizeSurface n =>
    exact tidy.change run (known_of_eq n rfl) (fun _ => rfl) (fun _ => rfl)
  | setRootProperty | removeRootProperty | loadFace | loadImage =>
    cases run
    exact ⟨tidy.linked, tidy.observed, tidy.focused, tidy.sampled⟩
  | focus n =>
    cases run
    exact { tidy with focused := fun m hm => by cases hm; exact known_of_eq n rfl }
  | observeSize n =>
    cases run
    refine { tidy with observed := fun i hi => ?_ }
    have hn := known_of_eq n rfl
    rw [Std.ExtTreeSet.mem_insert] at hi
    rcases hi with same | hi
    · simpa [issued, compare_eq_iff_eq.1 same] using hn
    · exact tidy.observed i hi
  | unobserveSize n =>
    cases run
    exact { tidy with observed := fun i hi => tidy.observed i (Std.ExtTreeSet.mem_of_mem_erase hi) }
  | sampleScroll n =>
    cases run
    refine { tidy with sampled := fun i s hi live => ?_ }
    rw [Array.getElem?_push] at hi
    split at hi
    · cases hi
      exact known_of_eq n rfl
    · exact tidy.sampled i s hi live
  | cancelSampler sampler =>
    cases run
    exact tidy.modifySampler (fun _ => rfl) (fun _ hl => by simp at hl)
  | scrollDelta sampler now =>
    obtain rfl : _ = d' := congrArg Prod.snd (Except.ok.inj run)
    dsimp only
    split
    · exact tidy.modifySampler (fun _ => rfl) (fun _ => id)
    · exact tidy

lemma Tidy.written (tidy : Tidy d) (w : NodeWrite) (hn : d.issued n) : Tidy (written w n d) := by
  cases w with
  | html | text => exact tidy.setHtml _
  | focus => exact tidy.answered (r := .focus n) (by simpa [named] using hn) rfl
  | observe => exact tidy.answered (r := .observeSize n) (by simpa [named] using hn) rfl
  | attr | style | noStyle | linkStyle | form | bind =>
    exact tidy.modify (fun _ => rfl) fun _ => rfl

/-- At most a checkbox is checked or unchecked by an event. -/
lemma fire_inv {event : String} {value : InputValue Float} {sent : List (Interrupt Float)}
    (run : fire n event value d = .ok (sent, d')) :
    d' = d ∨ ∃ state, d' = d.modify n fun node => { node with form.checked := state } := by
  cases hn : d.node? n with
  | none => simp [fire, unread_node? hn, bind, StateT.bind, Except.bind] at run
  | some node =>
    simp only [fire, bind, StateT.bind, read_node? hn, Except.bind] at run
    split at run
    · split at run
      · simp only [StateT.bind, change_issued (issued_of_node? hn)] at run
        cases run
        exact .inr ⟨_, rfl⟩
      · cases run
        exact .inl rfl
    · cases run
      exact .inl rfl

lemma Tidy.fired (tidy : Tidy d) {event : String} {value : InputValue Float}
    {sent : List (Interrupt Float)} (run : fire n event value d = .ok (sent, d')) : Tidy d' := by
  rcases fire_inv run with rfl | ⟨state, rfl⟩
  · exact tidy
  · exact tidy.modify (fun _ => rfl) fun _ => rfl

theorem Reached.tidy (reached : Reached d) : Tidy d := by
  induction reached with
  | empty =>
    exact ⟨by simp [Linked, children, parent?, node?, MemoryDocument.empty],
      by simp [MemoryDocument.empty],
      by simp [MemoryDocument.empty], by simp [MemoryDocument.empty]⟩
  | asked _ known run tidy => exact tidy.answered known run
  | fired _ run tidy => exact tidy.fired run
  | laidOut n width height _ tidy => exact tidy.modify (fun _ => rfl) (fun _ => rfl)
  | tracked sampler f _ tidy => exact tidy.modifySampler (fun _ => rfl) (fun _ => id)

end LayeredPage.Proofs
