import LayeredPage.Proofs.Order
import LayeredPage.Proofs.Reaching

/-!
# The conduct of patching steps

Steps conduct themselves properly if each of their requests names nodes that the document issued,
works on none of the nodes that were there before, hangs no node below itself, and binds, resets and
cancels only what it has licence for. So a page can serve each request just as a document in memory
does.
-/

namespace LayeredPage.Proofs

open MemoryDocument

/-- Which nodes may get input or a sampler, which may be reset, and which samplers may be cancelled.
What the layout or a finger decides is never asked for. -/
structure Licence where
  binds : NodeId → Prop
  resets : NodeId → Prop
  cancels : SamplerId → Prop

/-- Everything that patches do is allowed. -/
def Licence.free : Licence := ⟨fun _ => True, fun _ => True, fun _ => True⟩

def Licence.grants (l : Licence) : DocumentRequest → Prop
  | .bindInput n .. | .sampleScroll n .. => l.binds n
  | .reset n => l.resets n
  | .cancelSampler sampler => l.cancels sampler
  | .scrollDelta .. | .surfaceMetrics _ => False
  | _ => True

/-- Climbing from a node leads to `top`. -/
abbrev Under (d : MemoryDocument) (n top : NodeId) : Prop :=
  Relation.ReflTransGen (fun m p => d.parent? m = some p) n top

/-- The nodes that a request works on. -/
def subjects : DocumentRequest → List NodeId
  | .appendChild _ child => [child]
  | r => named r

/-- A request that a page serves as a document in memory does. -/
structure Servable (base : Nat) (l : Licence) (d : MemoryDocument) (r : DocumentRequest) :
    Prop where
  known : ∀ n ∈ named r, d.issued n
  own : ∀ n ∈ subjects r, base ≤ n.index
  upright : ∀ p c, r = .appendChild p c → ¬ Under d p c
  granted : l.grants r

/-- Requests to the core are always proper. -/
def Becoming (base : Nat) (l : Licence) (d : MemoryDocument) : PatchRequest → Prop
  | .document r => Servable base l d r
  | .addContext _ | .removeContext _ | .imageLoaded _ => True

/-- Every request of a script is proper when it is put. -/
def Behaves {κ α : Type} [Core κ] (base : Nat) (l : Licence) (script : Script Patching α)
    (h : MemoryHost κ) : Prop :=
  match script with
  | .done _ => True
  | .ask r next => Becoming base l h.document r ∧
      ∀ reply h', MemoryHost.answerPatch r h = .ok (reply, h') → Behaves base l (next reply) h'
  | .broken _ => True

/-- The same for steps. -/
abbrev Minds {κ σ α : Type} [Core κ] (base : Nat) (l : Licence) (act : Work σ α) (s : σ)
    (h : MemoryHost κ) : Prop :=
  Behaves base l (act s) h

section Trees

variable {d : MemoryDocument} {n m p c : NodeId}

/-- Climbing does not leave what is closed upwards. -/
lemma not_under {inside : NodeId → Prop}
    (closed : ∀ m q, inside m → d.parent? m = some q → inside q) (hp : inside p)
    (hc : ¬ inside c) : ¬ Under d p c := by
  intro under
  have stays (q) (climb : Under d p q) : inside q := by
    induction climb with
    | refl => exact hp
    | tail _ step ih => exact closed _ _ ih step
  exact hc (stays c under)

/-- Nothing climbs to a node without children. -/
lemma not_under_of_childless (childless : ∀ m, d.parent? m ≠ some c) (other : p ≠ c) :
    ¬ Under d p c :=
  have closed (m q : NodeId) (_ : m ≠ c) (step : d.parent? m = some q) : q ≠ c :=
    fun same => childless m (same ▸ step)
  not_under closed other fun same => same rfl

end Trees

section Rules

variable {κ σ τ α β : Type} [Core κ] {base : Nat} {l l' : Licence} {h : MemoryHost κ} {s : σ}

theorem Behaves.bind {script : Script Patching α} {f : α → Script Patching β}
    (first : Behaves base l script h)
    (next : Answers script h (fun a h => Behaves base l (f a) h) fun _ => True) :
    Behaves base l (script >>= f) h := by
  induction script generalizing h with
  | done a => exact next
  | broken why => trivial
  | ask r rest ih =>
    refine ⟨first.1, fun reply h' run => ih reply (first.2 reply h' run) ?_⟩
    have step : MemoryHost.serve (.ask r rest) h = MemoryHost.serve (rest reply) h' := by
      change (MemoryHost.answerPatch r h).bind _ = _
      rw [run]
      rfl
    unfold Answers at next ⊢
    rwa [step] at next

lemma behaves_ask {r : DocumentRequest} (proper : Servable base l h.document r) :
    Behaves base l (ask r) h :=
  ⟨proper, fun _ _ _ => trivial⟩

lemma minds_pure (a : α) : Minds base l (pure a : Work σ α) s h := trivial

lemma minds_throw (e : PatchError) : Minds base l (throw e : Work σ α) s h := trivial

lemma minds_get : Minds base l (get : Work σ σ) s h := trivial

lemma minds_modify (f : σ → σ) : Minds base l (modify f : Work σ PUnit) s h := trivial

lemma minds_broken (why : Breach) :
    Minds base l (liftM (Script.broken why : Script Patching α) : Work σ α) s h := trivial

theorem minds_bind {act : Work σ α} {f : α → Work σ β} (first : Minds base l act s h)
    (next : Ends act s h (fun a s h => Minds base l (f a) s h) (fun _ _ _ => True) fun _ => True) :
    Minds base l (act >>= f) s h := by
  refine Behaves.bind first
    ((answers_work act _).2 (next.mono (fun _ _ _ done => done) ?_ fun _ _ => trivial))
  exact fun _ _ _ _ => trivial

/-- Steps that only look at the state. -/
lemma minds_get_bind {f : σ → Work σ β} (next : Minds base l (f s) s h) :
    Minds base l (get >>= f) s h :=
  minds_bind minds_get ((ends_get _).2 next)

lemma minds_modify_bind {f : σ → σ} {g : PUnit → Work σ β} (next : Minds base l (g ⟨⟩) (f s) h) :
    Minds base l (modify f >>= g) s h :=
  minds_bind (minds_modify f) ((ends_modify _ _).2 next)

lemma minds_script {script : Script Patching α} (behaves : Behaves base l script h) :
    Minds base l (liftM script : Work σ α) s h := by
  unfold Minds
  rw [Action.liftM_apply]
  refine behaves.bind ?_
  unfold Answers
  rcases MemoryHost.serve script h with b | ⟨a, h⟩ <;> trivial

lemma minds_ask {r : DocumentRequest} (proper : Servable base l h.document r) :
    Minds base l (liftM (ask r) : Work σ r.Reply) s h := minds_script (behaves_ask proper)

lemma minds_ask_bind {r : DocumentRequest} {f : r.Reply → Work σ β}
    (proper : Servable base l h.document r)
    (next : ∀ reply d, answer r h.document = .ok (reply, d) →
      Minds base l (f reply) s { h with document := d }) :
    Minds base l (liftM (ask r) >>= f) s h := by
  refine minds_bind (minds_ask proper) ((ends_ask _ _).2 ?_)
  split
  · next run => exact next _ _ run
  · trivial

lemma minds_focus {get : σ → τ} {set : τ → σ → σ} {act : Work τ α}
    (minds : Minds base l act (get s) h) :
    Minds base l (Action.focus get set act) s h := by
  refine Behaves.bind minds ?_
  unfold Answers
  rcases MemoryHost.serve (act (get s)) h with b | ⟨⟨r, t⟩, h⟩ <;> trivial

lemma minds_outcome {act : Work σ α} (minds : Minds base l act s h) :
    Minds base l (Action.outcome act) s h := by
  refine Behaves.bind minds ?_
  unfold Answers
  rcases MemoryHost.serve (act s) h with b | ⟨⟨r, t⟩, h⟩ <;> trivial

lemma minds_onPools {s : Stage} {act : Work NodePools α} (minds : Minds base l act s.pools h) :
    Minds base l (Stage.onPools act) s h := by
  unfold Stage.onPools Stage.onWorkshop Workshop.onPools
  refine minds_focus ?_
  exact minds_focus minds

lemma minds_atBench {s : Scene} {e : Element} {craft : Craft Unit}
    (minds : Minds base l (Bench.carryOut craft) ⟨s.pools, s.fonts, e⟩ h) :
    Minds base l (Scene.atBench e craft) s h := by
  refine Behaves.bind minds ?_
  unfold Answers
  rcases MemoryHost.serve (Bench.carryOut craft ⟨s.pools, s.fonts, e⟩) h
    with b | ⟨⟨r, t⟩, h⟩ <;> trivial

end Rules

section Pools

variable {κ σ α : Type} [Core κ] {base : Nat} {l : Licence} {h : MemoryHost κ} {ps : NodePools}
  {mine : List OwnedNode}
  {keeps : Bool} {d : MemoryDocument} {p c : NodeId} {s : σ} {f : Unit → Work σ α}

/-- Requests about nodes that were made since need a licence at most. -/
lemma proper_of_named {r : DocumentRequest} (known : ∀ n ∈ named r, d.issued n ∧ base ≤ n.index)
    (plain : ∀ p c, r ≠ .appendChild p c) (granted : l.grants r) : Servable base l d r where
  known n hn := (known n hn).1
  own n hn := by
    cases r with
    | appendChild p c => exact absurd rfl (plain p c)
    | _ => exact (known n hn).2
  upright p c same := absurd same (plain p c)
  granted := granted

lemma Owned.ours (o : Owned base ps mine d) {n : NodeId} (hn : n ∈ mine.map (·.id)) :
    d.issued n ∧ base ≤ n.index := by
  obtain ⟨m, hm, rfl⟩ := List.mem_map.1 hn
  exact ⟨o.issued hm, o.base_le_of_mem hm⟩

lemma Owned.nodup_held (o : Owned base ps mine d) : (mine.map (·.id)).Nodup := by
  have distinct := o.nodup
  rw [List.map_append] at distinct
  exact (List.nodup_append.1 distinct).2.1

lemma Owned.nodup_front {others : List OwnedNode} (o : Owned base ps (mine ++ others) d) :
    (mine.map (·.id)).Nodup := by
  have all := o.nodup_held
  rw [List.map_append] at all
  exact (List.nodup_append.1 all).1

lemma proper_append (o : Owned base ps mine d) (hp : Known base mine p) (hc : c ∈ mine.map (·.id))
    (apart : ¬ Under d p c) :
    Servable base l d (.appendChild p c) where
  known n hn := by
    have which : n = p ∨ n = c := by simpa [named] using hn
    rcases which with rfl | rfl
    · exact o.issued_of_known hp
    · exact (o.ours hc).1
  own n hn := by
    obtain rfl : n = c := by simpa [subjects] using hn
    exact (o.ours hc).2
  upright p' c' same := by
    cases same
    exact apart
  granted := trivial

/-- Taking a node creates one at most. -/
lemma minds_take (stocked : Stocked keeps ps) (kind : NodeKind) :
    Minds base l (Pools.take kind : Work NodePools OwnedNode) ps h := by
  obtain ⟨p, hp, _, make, _⟩ := stocked kind
  have found : Minds base l (Pools.pool kind : Work NodePools _) ps h := by
    refine minds_get_bind ?_
    rw [hp]
    trivial
  have taken : Behaves base l p.take h := by
    unfold Pool.take
    cases p.free with
    | cons n rest => trivial
    | nil =>
      have created : Servable base l h.document (.createElement kind) :=
        proper_of_named (fun n hn => absurd hn List.not_mem_nil)
          (fun _ _ same => by cases same) trivial
      rw [make]
      exact ⟨created, fun _ _ _ => trivial⟩
  refine minds_bind found
    ((ends_pool hp _).2 (minds_bind (minds_script taken) ((ends_script _ _).2 ?_)))
  unfold Answers
  rcases MemoryHost.serve p.take h with b | ⟨a, h⟩ <;> trivial

/-- Giving a node back resets it. -/
lemma minds_put (stocked : Stocked keeps ps) (kind : NodeKind) {n : OwnedNode}
    (proper : Servable base l h.document (.reset n.id)) :
    Minds base l (Pools.put kind n : Work NodePools Unit) ps h := by
  obtain ⟨p, hp, _, _, reset⟩ := stocked kind
  have found : Minds base l (Pools.pool kind : Work NodePools _) ps h := by
    refine minds_get_bind ?_
    rw [hp]
    trivial
  have given : Behaves base l (p.put n) h := by
    unfold Pool.put
    rw [reset]
    exact ⟨proper, fun _ _ _ => trivial⟩
  refine minds_bind found
    ((ends_pool hp _).2 (minds_bind (minds_script given) ((ends_script _ _).2 ?_)))
  unfold Answers
  rcases MemoryHost.serve (p.put n) h with b | ⟨a, h⟩ <;> trivial

lemma proper_reset (o : Owned base ps mine d) {n : NodeId} (hn : n ∈ mine.map (·.id))
    (granted : l.resets n) :
    Servable base l d (.reset n) := by
  refine proper_of_named (fun m hm => ?_) (fun _ _ same => by cases same) granted
  obtain rfl : m = n := by simpa [named] using hm
  exact o.ours hn

lemma Owned.minds_putAll (nodes : List OwnedNode) {ps : NodePools} {h : MemoryHost κ}
    (o : Owned base ps (nodes ++ mine) h.document) (granted : ∀ n ∈ nodes, l.resets n.id) :
    Minds base l (nodes.forM fun node => Pools.put node.kind node : Work NodePools Unit) ps h := by
  induction nodes generalizing ps h with
  | nil => trivial
  | cons n nodes ih =>
    have reset :=
      proper_reset (l := l) o (List.mem_map_of_mem (List.mem_cons_self ..))
        (granted n List.mem_cons_self)
    refine minds_bind (minds_put o.stocked n.kind reset) (o.put.ends ?_)
    exact fun _ _ _ done => ih done.1 fun m hm => granted m (List.mem_cons_of_mem _ hm)

lemma Owned.minds_giveBack {nodes : List OwnedNode} (o : Owned base ps (nodes ++ mine) h.document)
    (granted : ∀ n ∈ nodes, l.resets n.id) : Minds base l (Bench.giveBack nodes) ps h :=
  Owned.minds_putAll nodes.reverse (o.perm ((List.reverse_perm nodes).symm.append_right mine))
    fun n hn => granted n (List.mem_reverse.1 hn)

/-- A write that is licensed for any node. -/
def idle : NodeWrite → Bool
  | .bind .. => false
  | _ => true

lemma proper_write (o : Owned base ps mine d) (hc : c ∈ mine.map (·.id)) {r : DocumentRequest}
    (about : named r = [c])
    (plain : ∀ p c, r ≠ .appendChild p c) (granted : l.grants r) : Servable base l d r := by
  refine proper_of_named (fun n hn => ?_) plain granted
  rw [about] at hn
  cases List.mem_singleton.1 hn
  exact o.ours hc

lemma behaves_write (o : Owned base ps mine h.document) (hc : c ∈ mine.map (·.id)) (w : NodeWrite)
    (granted : idle w = false → l.binds c) : Behaves base l (w.apply c) h := by
  cases w with
  | bind id binding =>
    exact behaves_ask (proper_write o hc rfl (fun _ _ same => by cases same) (granted rfl))
  | attr | style | noStyle | linkStyle | html | text | form | focus | observe =>
    exact behaves_ask (proper_write o hc rfl (fun _ _ same => by cases same) trivial)

lemma Dressed.minds_write {d₀ : MemoryDocument} (dressed : Dressed base ps mine d₀ h.document)
    (hc : c ∈ mine.map (·.id)) (w : NodeWrite) (hw : replaces w = false) (quiet : idle w = true)
    (next : ∀ h : MemoryHost κ, Dressed base ps mine d₀ h.document → Minds base l (f ()) s h) :
    Minds base l (liftM (w.apply c) >>= f) s h := by
  have behaves : Behaves base l (w.apply c) h := behaves_write dressed.owned hc w fun loud => by
    simp [quiet] at loud
  refine minds_bind (minds_script behaves)
    ((ends_script _ _).2 ((answers_write w (dressed.owned.ours hc).1).2 (next _ ?_)))
  exact dressed.written (.inr hc) w hw

lemma Owned.minds_hang (o : Owned base ps mine h.document) (hp : Known base mine p)
    (hc : c ∈ mine.map (·.id))
    (apart : ¬ Under h.document p c) (next : ∀ h' : MemoryHost κ, Owned base ps mine h'.document →
      (∀ m, h'.document.parent? m = if m = c then some p else h.document.parent? m) →
      Minds base l (f ()) s h') :
    Minds base l (liftM (ask (.appendChild p c)) >>= f) s h := by
  have issued := o.issued_of_known (.inr hc)
  refine minds_ask_bind (proper_append o hp hc apart) fun reply d run => next _ ?_ fun m => ?_
  · rw [answer_appendChild (o.issued_of_known hp) issued] at run
    cases run
    exact o.append hp hc
  · rw [answer_appendChild (o.issued_of_known hp) issued] at run
    cases run
    exact parent?_append o.linked issued

end Pools

end LayeredPage.Proofs
