import LayeredPage.Proofs.Manners
import LayeredPage.Proofs.Ownership

/-!
# Changes that nobody hears of

What a document reports to the core comes from the input bound on its nodes, from the nodes whose
size it observes, and from its samplers; a size is reported under the id that its node carries.
`Hushes` says that a change adds nothing to these and that some nodes keep their ids. All that a
stage does is of this kind, but for the ids of the nodes that it gives back.
-/

namespace LayeredPage.Proofs

open MemoryDocument

/-- The input bound on a node. -/
def heard (d : MemoryDocument) (n : NodeId) : List (UInt32 × InputBinding) :=
  ((d.node? n).map (·.bindings)).getD []

/-- The element id that a node carries, as text. -/
def label? (d : MemoryDocument) (n : NodeId) : Option String := d.attributeOf? n nativeIdAttribute

/-- Nothing new is heard, and the nodes that are spared keep their labels. -/
structure Hushes (spared : NodeId → Prop) (d d' : MemoryDocument) : Prop where
  heard : ∀ n, ∀ b ∈ heard d' n, b ∈ heard d n
  labels : ∀ n, spared n → label? d' n = label? d n
  observed : ∀ i ∈ d'.observed, i ∈ d.observed
  samplers : d'.samplers = d.samplers

/-- Nothing is heard of a node. -/
def Silent (d : MemoryDocument) (n : NodeId) : Prop := heard d n = [] ∧ n.index ∉ d.observed

section Documents

variable {spared spared' : NodeId → Prop} {d d' d'' : MemoryDocument} {n m p c : NodeId}

lemma heard_of_node? {node : MemoryNode} (hn : d.node? n = some node) :
    heard d n = node.bindings := by
  simp [heard, hn]

/-- A node that is labelled carries its label. -/
lemma label?_written {label : String} (hn : d.issued n) :
    label? (written (.attr nativeIdAttribute label) n d) n = some label := by
  obtain ⟨node, found⟩ := issued_iff.1 hn
  unfold label? attributeOf?
  change ((d.modify n (recorded (.attr nativeIdAttribute label))).node? n).bind _ = _
  rw [node?_modify, if_pos rfl, found]
  exact Std.ExtTreeMap.getElem?_insert_self

lemma Silent.hushed (silent : Silent d n) (hush : Hushes spared d d') : Silent d' n := by
  refine ⟨List.eq_nil_iff_forall_not_mem.2 fun b hb => ?_, fun observed =>
    silent.2 (hush.observed _ observed)⟩
  have before := hush.heard n b hb
  rw [silent.1] at before
  exact List.not_mem_nil before

namespace Hushes

lemma refl : Hushes spared d d := ⟨fun _ _ => id, fun _ _ => rfl, fun _ => id, rfl⟩

lemma trans (first : Hushes spared d d') (second : Hushes spared d' d'') : Hushes spared d d'' where
  heard n b hb := first.heard n b (second.heard n b hb)
  labels n hn := (second.labels n hn).trans (first.labels n hn)
  observed i hi := first.observed i (second.observed i hi)
  samplers := second.samplers.trans first.samplers

lemma mono (hush : Hushes spared d d') (fewer : ∀ n, spared' n → spared n) : Hushes spared' d d' :=
  ⟨hush.heard, fun n hn => hush.labels n (fewer n hn), hush.observed, hush.samplers⟩

lemma of_nodes (nodes : d'.nodes = d.nodes) (observed : ∀ i ∈ d'.observed, i ∈ d.observed)
    (samplers : d'.samplers = d.samplers) : Hushes spared d d' := by
  have same (n) : d'.node? n = d.node? n := node?_of_nodes nodes
  refine ⟨fun n b hb => ?_, fun n _ => ?_, observed, samplers⟩
  · rwa [Proofs.heard, same] at hb
  · rw [label?, attributeOf?, same]
    rfl

lemma modify {f : MemoryNode → MemoryNode}
    (bindings : ∀ node, ∀ b ∈ (f node).bindings, b ∈ node.bindings)
    (labels : spared n → ∀ node, (f node).attributes[nativeIdAttribute]? =
      node.attributes[nativeIdAttribute]?) :
    Hushes spared d (d.modify n f) := by
  refine ⟨fun m b hb => ?_, fun m hm => ?_, fun _ => id, rfl⟩
  · unfold Proofs.heard at hb ⊢
    rw [node?_modify] at hb
    by_cases same : m = n
    · rw [if_pos same] at hb
      cases hd : d.node? m with
      | none => simp [hd] at hb
      | some node =>
        rw [hd] at hb
        exact bindings node b hb
    · rwa [if_neg same] at hb
  · unfold label? attributeOf?
    rw [node?_modify]
    by_cases same : m = n
    · rw [if_pos same]
      cases d.node? m with
      | none => rfl
      | some node => exact labels (same ▸ hm) node
    · rw [if_neg same]

/-- One more change, to a record whose bindings and attributes stay. -/
lemma settled {f : MemoryNode → MemoryNode} (hush : Hushes spared d d')
    (bindings : ∀ node, (f node).bindings = node.bindings)
    (attributes : ∀ node, (f node).attributes = node.attributes) :
    Hushes spared d (d'.modify n f) :=
  hush.trans (modify (fun node b hb => bindings node ▸ hb) fun _ node => by rw [attributes])

lemma detach : Hushes spared d (d.detach n) := by
  unfold MemoryDocument.detach
  split
  · exact settled (settled refl (fun _ => rfl) fun _ => rfl) (fun _ => rfl) fun _ => rfl
  · exact refl

lemma append : Hushes spared d (d.append p c) :=
  settled (settled detach (fun _ => rfl) fun _ => rfl) (fun _ => rfl) fun _ => rfl

lemma clearChildren : Hushes spared d (d.clearChildren n) := by
  have orphans (cs : List NodeId) (d' : MemoryDocument) (hush : Hushes spared d d') :
      Hushes spared d
        (cs.foldl (fun d c => d.modify c fun node => { node with parent := none }) d') := by
    induction cs generalizing d' with
    | nil => exact hush
    | cons c cs ih => exact ih _ (settled hush (fun _ => rfl) fun _ => rfl)
  exact orphans _ _ (settled refl (fun _ => rfl) fun _ => rfl)

lemma setHtml (html : String) : Hushes spared d (d.setHtml n html) :=
  settled clearChildren (fun _ => rfl) fun _ => rfl

lemma create (kind : NodeKind) : Hushes spared d (d.create kind).2 := by
  have nowhere : d.node? (d.create kind).1 = none := by simp [MemoryDocument.create, node?]
  refine ⟨fun m b hb => ?_, fun m _ => ?_, fun _ => id, rfl⟩
  · unfold Proofs.heard at hb ⊢
    rw [node?_create] at hb
    by_cases new : m = (d.create kind).1
    · simp [new, MemoryNode.fresh] at hb
    · rwa [if_neg new] at hb
  · unfold label? attributeOf?
    rw [node?_create]
    by_cases new : m = (d.create kind).1
    · rw [if_pos new, new, nowhere]
      simp [MemoryNode.fresh]
    · rw [if_neg new]

lemma reset (strange : ¬ spared n) : Hushes spared d (d.reset n) := by
  have emptied :
      Hushes spared d (((d.detach n).clearChildren n).modify n fun node => .fresh node.kind) := by
    refine (detach.trans clearChildren).trans
      (modify (fun node b hb => ?_) fun hn => absurd hn strange)
    exact absurd hb List.not_mem_nil
  refine emptied.trans (of_nodes rfl (fun i hi => Std.ExtTreeSet.mem_of_mem_erase hi) rfl)

end Hushes

/-- A node that was reset is silent. -/
lemma silent_reset : Silent (d.reset n) n := by
  refine ⟨?_, fun observed => ?_⟩
  · have same : (d.reset n).node? n =
        (((d.detach n).clearChildren n).modify n fun node => .fresh node.kind).node? n := rfl
    rw [heard, same, node?_modify, if_pos rfl]
    cases ((d.detach n).clearChildren n).node? n <;> rfl
  · simp [MemoryDocument.reset] at observed

/-- Requests that hush a document, and spare the labels of some nodes. -/
def Harmless (spared : NodeId → Prop) : DocumentRequest → Prop
  | .reset n => ¬ spared n
  | .setAttribute n name _ | .removeAttribute n name => spared n → name ≠ nativeIdAttribute
  | .bindInput .. | .observeSize _ | .sampleScroll .. | .cancelSampler _ | .scrollDelta .. => False
  | _ => True

lemma require_inv {α : Type} {rest : Checked α} {reply : α}
    (run : (do require n; rest) d = .ok (reply, d')) :
    d.issued n ∧ rest d = .ok (reply, d') := by
  by_cases hn : d.issued n
  · simp only [bind, StateT.bind, require_issued hn] at run
    exact ⟨hn, run⟩
  · simp [require, hn, bind, StateT.bind, get, getThe, MonadStateOf.get,
      StateT.get, Except.bind, pure,
      Except.pure, throw, throwThe, MonadExceptOf.throw] at run
    cases run

lemma change_inv {f : MemoryNode → MemoryNode} {reply : Unit}
    (run : change n f d = .ok (reply, d')) : d' = d.modify n f := by
  cases (require_inv run).2
  rfl

lemma read_inv {α : Type} {f : MemoryNode → α} {reply : α}
    (run : (do return f (← MemoryDocument.read n) : Checked α) d = .ok (reply, d')) : d' = d := by
  cases hn : d.node? n with
  | none =>
    simp only [bind, StateT.bind, unread_node? hn] at run
    cases run
  | some node =>
    simp only [bind, StateT.bind, read_node? hn] at run
    cases run
    rfl

lemma Hushes.answered {r : DocumentRequest} {reply : r.Reply} (harmless : Harmless spared r)
    (run : answer r d = .ok (reply, d')) : Hushes spared d d' := by
  cases r with
  | createElement kind =>
    cases run
    exact create kind
  | appendChild p c =>
    cases (require_inv (require_inv run).2).2
    exact append
  | detach n =>
    cases (require_inv run).2
    exact detach
  | reset n =>
    cases (require_inv run).2
    exact reset harmless
  | setInnerHtml n html | setText n text =>
    cases (require_inv run).2
    exact setHtml _
  | parent n | childCount n | innerHtml n | surfaceMetrics n =>
    rw [read_inv run]
    exact refl
  | setAttribute n name value =>
    rw [change_inv run]
    refine modify (fun _ _ => id) fun hn node => ?_
    rw [Std.ExtTreeMap.getElem?_insert, if_neg]
    simpa using harmless hn
  | removeAttribute n name =>
    rw [change_inv run]
    refine modify (fun _ _ => id) fun hn node => ?_
    rw [Std.ExtTreeMap.getElem?_erase, if_neg]
    simpa using harmless hn
  | setStyle n | removeStyle n | setLinkStyle n | setForm n | clearSurface n | resizeSurface n =>
    rw [change_inv run]
    exact settled refl (fun _ => rfl) fun _ => rfl
  | setRootProperty | removeRootProperty | loadFace | loadImage | focus =>
    cases run
    exact of_nodes rfl (fun _ => id) rfl
  | unobserveSize n =>
    cases run
    exact of_nodes rfl (fun i hi => Std.ExtTreeSet.mem_of_mem_erase hi) rfl
  | bindInput | observeSize | sampleScroll | cancelSampler | scrollDelta => exact harmless.elim

end Documents

/-! ## Steps that nobody hears of -/

/-- Requests to the surroundings that hush the document; the core may be told anything. -/
def Quiet (spared : NodeId → Prop) : PatchRequest → Prop
  | .document r => Harmless spared r
  | _ => True

/-- From complete pools, the steps hush the document and leave the pools complete, however they
end. -/
def Hushed {σ α : Type} (pools : σ → NodePools) (spared : NodeId → Prop) (act : Work σ α) : Prop :=
  ∀ (κ : Type) [Core κ] (s : σ) (h : MemoryHost κ), Stocked true (pools s) →
    Ends act s h (fun _ s' h' => Stocked true (pools s') ∧ Hushes spared h.document h'.document)
      (fun _ s' h' => Stocked true (pools s') ∧ Hushes spared h.document h'.document) fun _ => True

section Steps

variable {κ σ τ α β : Type} [Core κ] {pools : σ → NodePools} {spared : NodeId → Prop}
  {act : Work σ α} {h : MemoryHost κ}

lemma answers_quiet {script : Script Patching α} (quiet : Uses (Quiet spared) script) :
    Answers script h (fun _ h' => Hushes spared h.document h'.document) fun _ => True := by
  induction script generalizing h with
  | done a => exact .refl
  | ask r next ih =>
    have step : MemoryHost.serve (.ask r next) h =
        (MemoryHost.answerPatch r h).bind fun p => MemoryHost.serve (next p.1) p.2 := rfl
    have later {reply : Patching.Reply r} {h₁ : MemoryHost κ}
      (run : MemoryHost.answerPatch r h = .ok (reply, h₁))
      (hush : Hushes spared h.document h₁.document) :
        Answers (.ask r next) h (fun _ h' => Hushes spared h.document h'.document) fun _ =>
          True := by
      have rest := ih reply (quiet.2 reply) (h := h₁)
      have onward : MemoryHost.serve (.ask r next) h = MemoryHost.serve (next reply) h₁ := by
        rw [step, run]
        rfl
      unfold Answers at rest ⊢
      rw [onward]
      revert rest
      rcases MemoryHost.serve (next reply) h₁ with b | ⟨a, h₂⟩
      · exact id
      · exact hush.trans
    cases r with
    | document r =>
      cases run : answer r h.document with
      | error b =>
        have failed : MemoryHost.answerPatch (.document r) h = .error b := by
          change (answer r h.document).bind _ = _
          rw [run]
          rfl
        unfold Answers
        rw [step, failed]
        trivial
      | ok p =>
        have answered :
            MemoryHost.answerPatch (.document r) h = .ok (p.1, { h with document := p.2 }) := by
          change (answer r h.document).bind _ = _
          rw [run]
          rfl
        exact later answered (Hushes.answered quiet.1 run)
    | addContext | removeContext | imageLoaded => exact later rfl .refl
  | broken why => trivial

lemma hushed_pure (a : α) : Hushed pools spared (pure a : Work σ α) :=
  fun _ _ _ _ stocked => ⟨stocked, .refl⟩

lemma hushed_throw (e : PatchError) : Hushed pools spared (throw e : Work σ α) :=
  fun _ _ _ _ stocked => ⟨stocked, .refl⟩

lemma hushed_get : Hushed pools spared (get : Work σ σ) := fun _ _ _ _ stocked => ⟨stocked, .refl⟩

lemma hushed_modify {f : σ → σ} (kept : ∀ s, pools (f s) = pools s) :
    Hushed pools spared (modify f : Work σ PUnit) :=
  fun _ _ s _ stocked => ⟨by rwa [kept s], .refl⟩

lemma Hushed.bind {f : α → Work σ β} (first : Hushed pools spared act)
    (next : ∀ a, Hushed pools spared (f a)) :
    Hushed pools spared (act >>= f) := by
  intro κ _ s h stocked
  refine (ends_bind _ _ _).2
    ((first κ s h stocked).mono ?_ (fun _ _ _ done => done) fun _ _ => trivial)
  rintro a s₁ h₁ ⟨stocked₁, hush⟩
  refine (next a κ s₁ h₁ stocked₁).mono ?_ ?_ fun _ _ => trivial
  · exact fun _ _ _ done => ⟨done.1, hush.trans done.2⟩
  · exact fun _ _ _ done => ⟨done.1, hush.trans done.2⟩

lemma hushed_script {script : Script Patching α} (quiet : Uses (Quiet spared) script) :
    Hushed pools spared (liftM script : Work σ α) := by
  intro κ _ s h stocked
  refine (ends_script _ _).2 ((answers_quiet quiet).mono ?_ fun _ _ => trivial)
  exact fun _ _ hush => ⟨stocked, hush⟩

lemma hushed_broken (why : Breach) :
    Hushed pools spared (liftM (Script.broken why : Script Patching α) : Work σ α) :=
  fun _ _ _ _ _ => (ends_script _ _).2 trivial

lemma hushed_ask {r : DocumentRequest} (harmless : Harmless spared r) :
    Hushed pools spared (liftM (ask r) : Work σ r.Reply) :=
  hushed_script ⟨harmless, fun _ => trivial⟩

lemma Hushed.focus {get : σ → τ} {set : τ → σ → σ} {inner : τ → NodePools} {act : Work τ α}
    (hushed : Hushed inner spared act) (shows : ∀ s, inner (get s) = pools s)
    (kept : ∀ t s, pools (set t s) = inner t) :
    Hushed pools spared (Action.focus get set act) := by
  intro κ _ s h stocked
  rw [← shows] at stocked
  refine (ends_focus _ _).2 ((hushed κ (get s) h stocked).mono ?_ ?_ fun _ _ => trivial)
  · exact fun _ t _ done => ⟨by rw [kept]; exact done.1, done.2⟩
  · exact fun _ t _ done => ⟨by rw [kept]; exact done.1, done.2⟩

lemma hushed_forM {xs : List β} {f : β → Work σ PUnit}
    (hushed : ∀ x ∈ xs, Hushed pools spared (f x)) :
    Hushed pools spared (xs.forM f) := by
  induction xs with
  | nil => exact hushed_pure _
  | cons x xs ih =>
    exact (hushed x List.mem_cons_self).bind fun _ => ih fun y hy =>
      hushed y (List.mem_cons_of_mem _ hy)

lemma hushed_foldlM {xs : List β} {f : α → β → Work σ α}
    (hushed : ∀ a x, Hushed pools spared (f a x)) (a : α) :
    Hushed pools spared (xs.foldlM f a) := by
  induction xs generalizing a with
  | nil => exact hushed_pure _
  | cons x xs ih => exact (hushed a x).bind ih

lemma hushed_mapM {xs : List β} {f : β → Work σ α} (hushed : ∀ x, Hushed pools spared (f x)) :
    Hushed pools spared (xs.mapM f) := by
  induction xs with
  | nil => exact hushed_pure _
  | cons x xs ih =>
    rw [List.mapM_cons]
    refine (hushed x).bind fun _ => ?_
    refine ih.bind fun _ => ?_
    exact hushed_pure _

end Steps

section Pools

variable {κ : Type} [Core κ] {ps : NodePools} {spared : NodeId → Prop} {h : MemoryHost κ}

lemma hushed_take (kind : NodeKind) :
    Hushed id spared (Pools.take kind : Work NodePools OwnedNode) := by
  intro κ _ ps h stocked
  obtain ⟨p, hp, keeps, make, reset⟩ := stocked kind
  refine (ends_take hp _).2 ?_
  cases free : p.free with
  | cons n rest => exact (answers_take_shelf free _).2 ⟨stocked.set hp rfl rfl rfl, .refl⟩
  | nil => exact (answers_take_made free make _).2 ⟨stocked.set hp rfl rfl rfl, .create kind⟩

/-- A node that is put back is silent, and nobody else is heard. -/
lemma ends_put_silent (stocked : Stocked true ps) (kind : NodeKind) {n : OwnedNode}
    (strange : ¬ spared n.id) :
    Ends (Pools.put kind n : Work NodePools Unit) ps h
      (fun _ ps' h' => (Stocked true ps' ∧ Hushes spared h.document h'.document) ∧
        Silent h'.document n.id)
      (fun _ ps' h' => Stocked true ps' ∧ Hushes spared h.document h'.document) fun _ => True := by
  obtain ⟨p, hp, keeps, make, reset⟩ := stocked kind
  refine (ends_put hp n _).2 ?_
  by_cases there : h.document.issued n.id
  · refine (answers_put reset there _).2 ?_
    rw [if_pos keeps]
    exact ⟨⟨stocked.set hp rfl rfl rfl, .reset strange⟩, silent_reset⟩
  · unfold Answers Pool.put
    rw [serve_bind, reset]
    unfold NodePools.renew
    rw [serve_bind, serve_ask]
    have lost : answer (.reset n.id) h.document = .error (.unissuedNode n.id.index) := by
      simp [answer, require, there, bind, StateT.bind, get, getThe, MonadStateOf.get,
        StateT.get, Except.bind, pure,
        Except.pure, throw, throwThe, MonadExceptOf.throw]
      rfl
    rw [lost]
    trivial

lemma hushed_put (kind : NodeKind) {n : OwnedNode} (strange : ¬ spared n.id) :
    Hushed id spared (Pools.put kind n : Work NodePools Unit) := fun _ _ _ _ stocked =>
  (ends_put_silent stocked kind strange).mono (fun _ _ _ done => done.1)
  (fun _ _ _ done => done) fun _ _ => trivial

/-- The same for several nodes. -/
lemma ends_giveBack_silent (stocked : Stocked true ps) {nodes : List OwnedNode}
    (strange : ∀ n ∈ nodes, ¬ spared n.id) :
    Ends (Bench.giveBack nodes) ps h
      (fun _ ps' h' => (Stocked true ps' ∧ Hushes spared h.document h'.document) ∧
        ∀ n ∈ nodes, Silent h'.document n.id)
      (fun _ ps' h' => Stocked true ps' ∧ Hushes spared h.document h'.document) fun _ => True := by
  unfold Bench.giveBack
  suffices goal : ∀ nodes : List OwnedNode, (∀ n ∈ nodes, ¬ spared n.id) →
    ∀ (ps : NodePools) (h : MemoryHost κ),
      Stocked true ps → Ends (nodes.forM fun node => Pools.put node.kind node) ps h
        (fun _ ps' h' => (Stocked true ps' ∧ Hushes spared h.document h'.document) ∧
          ∀ n ∈ nodes, Silent h'.document n.id)
        (fun _ ps' h' => Stocked true ps' ∧ Hushes spared h.document h'.document) fun _ => True by
    refine (goal nodes.reverse (fun n hn => strange n (List.mem_reverse.1 hn)) ps h stocked).mono ?_
      (fun _ _ _ done => done) fun _ _ => trivial
    exact fun _ _ _ done => ⟨done.1, fun n hn => done.2 n (List.mem_reverse.2 hn)⟩
  intro nodes strange
  induction nodes with
  | nil => exact fun ps h stocked => ⟨⟨stocked, .refl⟩, fun n hn => absurd hn List.not_mem_nil⟩
  | cons n nodes ih =>
    intro ps h stocked
    refine (ends_bind _ _ _).2
      ((ends_put_silent stocked n.kind (strange n List.mem_cons_self)).mono ?_
        (fun _ _ _ done => done) fun _ _ => trivial)
    rintro _ ps₁ h₁ ⟨⟨stocked₁, hush⟩, silent⟩
    refine (ih (fun m hm => strange m (List.mem_cons_of_mem _ hm)) ps₁ h₁ stocked₁).mono ?_
      ?_ fun _ _ => trivial
    · rintro _ ps₂ h₂ ⟨⟨stocked₂, hush₂⟩, silents⟩
      refine ⟨⟨stocked₂, hush.trans hush₂⟩, fun m hm => ?_⟩
      rcases List.mem_cons.1 hm with rfl | hm
      · exact silent.hushed hush₂
      · exact silents m hm
    · exact fun _ _ _ done => ⟨done.1, hush.trans done.2⟩

end Pools

section Stages

open Stage

variable {α : Type} {spared : NodeId → Prop}

/-- The pools of a stage. -/
abbrev stocks (s : Stage) : NodePools := s.pools

lemma Hushed.onWorkshop {act : Work Workshop α} (hushed : Hushed Workshop.pools spared act) :
    Hushed stocks spared (onWorkshop act) := hushed.focus (fun _ => rfl) fun _ _ => rfl

lemma Hushed.inWorkshop {act : Work NodePools α} (hushed : Hushed id spared act) :
    Hushed Workshop.pools spared (Workshop.onPools act) :=
  hushed.focus (fun _ => rfl) fun _ _ => rfl

lemma Hushed.onPools {act : Work NodePools α} (hushed : Hushed id spared act) :
    Hushed stocks spared (Stage.onPools act) := hushed.inWorkshop.onWorkshop

lemma hushed_register (index : Nat) (canvas : NodeId) :
    Hushed Workshop.pools spared (Workshop.register index canvas) := by
  refine hushed_get.bind fun w => ?_
  split
  · exact (hushed_broken _).bind fun _ => hushed_modify fun _ => rfl
  · exact hushed_modify fun _ => rfl

lemma hushed_buildLayer (mount : NodeId) (index : Nat) :
    Hushed Workshop.pools spared (Layer.build mount index) := by
  have class_other : "class" ≠ nativeIdAttribute := by decide
  have id_other : "id" ≠ nativeIdAttribute := by decide
  refine (hushed_take .canvas).inWorkshop.bind fun canvas => ?_
  refine (hushed_take .div).inWorkshop.bind fun overlay => ?_
  refine Hushed.bind (hushed_ask fun _ => class_other) fun _ =>
    Hushed.bind (hushed_ask fun _ => id_other) fun _ => ?_
  refine Hushed.bind (hushed_ask trivial) fun _ =>
    Hushed.bind (hushed_ask fun _ => class_other) fun _ => ?_
  refine Hushed.bind (hushed_ask trivial) fun _ => Hushed.bind (hushed_ask trivial) fun _ => ?_
  refine Hushed.bind (hushed_ask trivial) fun _ => (hushed_register _ _).bind fun _ => ?_
  exact Hushed.bind (hushed_script ⟨trivial, fun _ => trivial⟩) fun _ => hushed_pure _

lemma hushed_addLayer : Hushed stocks spared addLayer := by
  refine hushed_get.bind fun s => ?_
  refine (hushed_buildLayer _ _).onWorkshop.bind fun layer => ?_
  exact hushed_modify fun _ => rfl

lemma hushed_addLayers (count : Nat) : Hushed stocks spared (addLayers count) := by
  induction count with
  | zero => exact hushed_pure _
  | succ count ih => exact hushed_addLayer.bind fun _ => ih

lemma hushed_instantiate (layer : Nat) (parent : NodeId) (id : UInt32) :
    Hushed stocks spared (instantiate layer parent id) := by
  have class_other : "class" ≠ nativeIdAttribute := by decide
  have id_other : containerIdAttribute ≠ nativeIdAttribute := by decide
  refine (hushed_take .div).onPools.bind fun node => ?_
  refine Hushed.bind (hushed_ask fun _ => class_other) fun _ =>
    Hushed.bind (hushed_ask fun _ => id_other) fun _ => ?_
  refine Hushed.bind (hushed_ask trivial) fun _ => Hushed.bind (hushed_ask trivial) fun _ => ?_
  refine Hushed.bind (hushed_ask trivial) fun _ => ?_
  exact Hushed.bind (hushed_modify fun _ => rfl) fun _ => hushed_pure _

lemma hushed_attachPoint (x : Option UInt32) (layer : Nat) :
    Hushed stocks spared (attachPoint x layer) := by
  refine hushed_get.bind fun s => ?_
  split
  · exact hushed_broken _
  · split
    · exact hushed_pure _
    · split
      · exact hushed_foldlM (hushed_instantiate layer) _
      · exact hushed_throw _
      · exact hushed_broken _

/-- Whatever is hung on a stage, nobody hears of it. -/
theorem hushed_addElement (node : NodeId) (x : Option UInt32) (layer : UInt32) :
    Hushed stocks spared (Stage.addElement node x layer) := by
  refine Hushed.bind (hushed_get.bind fun s => hushed_addLayers _) fun _ => ?_
  exact (hushed_attachPoint x layer.toNat).bind fun _ => hushed_ask trivial

lemma hushed_addContainer (id : UInt32) (parent : Option UInt32) :
    Hushed stocks spared (addContainer id parent) := by
  unfold addContainer
  refine hushed_get.bind fun s => ?_
  have listing : Hushed stocks spared (do
      modify fun s => { s with containers := s.containers.insert id (.start parent) } :
        Work Stage Unit) :=
    hushed_modify fun _ => rfl
  dsimp only
  split
  · exact hushed_throw _
  · split
    · split
      · exact hushed_throw _
      · exact listing
    · exact listing

lemma hushed_updateContainer (id : UInt32) (g : Geometry) :
    Hushed stocks spared (updateContainer id g) := by
  refine hushed_get.bind fun s => ?_
  split
  · exact hushed_throw _
  · exact Hushed.bind (hushed_modify fun _ => rfl) fun _ => hushed_ask trivial

/-- Removing a container takes labels from its own nodes at most. -/
theorem hushed_removeContainer {κ : Type} [Core κ] {s : Stage} {h : MemoryHost κ}
    (stocked : Stocked true s.pools)
    (id : UInt32) (strange : ∀ p ∈ s.instances id, ¬ spared p.2.id) :
    Ends (Stage.removeContainer id) s h (fun _ s' h' => Stocked true s'.pools ∧
      Hushes spared h.document h'.document)
      (fun _ s' h' => Stocked true s'.pools ∧ Hushes spared h.document h'.document) fun _ =>
        True := by
  have counting : Hushed stocks spared ((s.instances id).mapM fun p => ask (.childCount p.2.id) :
      Work Stage (List Nat)) := hushed_mapM fun _ => hushed_ask trivial
  have giving : Hushed stocks spared ((s.instances id).forM fun p => withdraw id p.1 p.2) := by
    refine hushed_forM fun p hp => ?_
    exact Hushed.bind (hushed_modify fun _ => rfl) fun _ => (hushed_put .div (strange p hp)).onPools
  have removing : Hushed stocks spared (do
      let counts ← (s.instances id).mapM fun p => ask (.childCount p.2.id)
      let count := total counts
      if 0 < count then throw (.containerInUse id count)
      (s.instances id).forM fun p => withdraw id p.1 p.2
      modify fun s => { s with containers := s.containers.erase id }
      ask (.removeRootProperty (Container.clipProperty id)) : Work Stage Unit) := by
    refine counting.bind fun counts => ?_
    dsimp only
    split
    · exact hushed_throw _
    · exact giving.bind fun _ =>
        Hushed.bind (hushed_modify fun _ => rfl) fun _ => hushed_ask trivial
  unfold Stage.removeContainer
  refine (ends_bind _ _ _).2 ((ends_get _).2 ?_)
  dsimp only
  split
  · exact ⟨stocked, .refl⟩
  · exact removing κ s h stocked

end Stages

end LayeredPage.Proofs
