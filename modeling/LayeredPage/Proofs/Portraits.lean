import LayeredPage.Proofs.Rollback

/-!
# What updates leave of an element

An element remembers something of the updates that reached it, and its leaf is styled by them.
Nothing else that happens on a scene changes that: it is a matter of the updates that the log has
for the element since it was created.
-/

namespace LayeredPage.Proofs

open MemoryDocument

/-- The changes that accepted updates brought to an element since it was created, latest first. -/
def changes : Log → UInt32 → List Change
  | [], _ => []
  | (.create _ c, .ok _) :: past, id => if id = c.id then [] else changes past id
  | (.update target change, .ok _) :: past, id =>
    if id = target then change :: changes past id else changes past id
  | _ :: past, id => changes past id

/-! ## What a craft makes of an element -/

/-- What shows of an element: its notes, how it scrolls, and the styles of its leaf. -/
structure Sketch where
  notes : Notes
  scroll : Option ScrollRegion
  style : String → Option String

def sketch (e : Element) (d : MemoryDocument) : Sketch :=
  ⟨e.toNotes, e.scroll, fun p => (d.node? e.leaf.id).bind (·.style[p]?)⟩

/-- Requests that add no node to an element and take none away. -/
def Settled : BenchRequest → Prop
  | .addPart .. | .addOption .. | .clearOptions | .sample .. => False
  | _ => True

/-- What a settled request with this reply makes of a sketch. A style of another node might be one
of the leaf, which stands in for nodes that are not there. -/
def Redraws (t : Sketch) : (r : BenchRequest) → r.Reply → Sketch → Prop
  | .look, view, t' => t' = t ∧ view.toNotes = t.notes ∧ view.scroll = t.scroll
  | .note notes, _, t' => t' = { t with notes }
  | .resizeRegion width height, _, t' =>
    t' = { t with scroll := t.scroll.map (·.resize width height) }
  | .write .leaf (.style p v), _, t' => t' = { t with style := Function.update t.style p (some v) }
  | .write _ (.style p _), _, t' | .write _ (.noStyle p), _, t' =>
    t'.notes = t.notes ∧ t'.scroll = t.scroll ∧ ∀ q ≠ p, t'.style q = t.style q
  | _, _, t' => t' = t

/-- Whatever the replies, a craft ends with such a sketch. -/
def Sketches {α : Type} (t : Sketch) (craft : Craft α) (post : α → Sketch → Prop) : Prop :=
  match craft with
  | .done a => post a t
  | .ask r next => Settled r ∧ ∀ reply t', Redraws t r reply t' → Sketches t' (next reply) post
  | .broken _ => False

/-- Requests that write no style but these, and note nothing. -/
def Faint (colours : String → Prop) : BenchRequest → Prop
  | .look | .html _ | .useFont _ => True
  | .write _ (.style p _) | .write _ (.noStyle p) => colours p
  | .write .. => True
  | _ => False

section Crafts

open Craft Styling

variable {α β : Type} {t : Sketch} {craft : Craft α} {f : α → Craft β}
  {post mid : α → Sketch → Prop} {colours : String → Prop}

lemma Sketches.bind {post : β → Sketch → Prop} (first : Sketches t craft mid)
    (next : ∀ a t', mid a t' → Sketches t' (f a) post) :
    Sketches t (craft >>= f) post := by
  induction craft generalizing t with
  | done a => exact next a t first
  | ask r rest ih => exact ⟨first.1, fun reply t' drawn => ih reply (first.2 reply t' drawn)⟩
  | broken why => exact first.elim

lemma Sketches.mono {post' : α → Sketch → Prop} (drawn : Sketches t craft post)
    (more : ∀ a t', post a t' → post' a t') :
    Sketches t craft post' := by
  induction craft generalizing t with
  | done a => exact more a t drawn
  | ask r rest ih => exact ⟨drawn.1, fun reply t' step => ih reply (drawn.2 reply t' step)⟩
  | broken why => exact drawn.elim

lemma sketches_look {f : ElementView → Craft β} {post : β → Sketch → Prop}
    (next : ∀ view : ElementView, view.toNotes = t.notes → view.scroll = t.scroll →
      Sketches t (f view) post) :
    Sketches t (Craft.call .look >>= f) post := by
  refine ⟨trivial, ?_⟩
  rintro view _ ⟨rfl, notes, scroll⟩
  exact next view notes scroll

lemma sketches_resize {width height : Option Float} {f : Unit → Craft β} {post : β → Sketch → Prop}
    (next : Sketches { t with scroll := t.scroll.map (·.resize width height) } (f ()) post) :
    Sketches t (Craft.call (.resizeRegion width height) >>= f) post := by
  refine ⟨trivial, ?_⟩
  rintro _ _ rfl
  exact next

/-- A style of the leaf. -/
lemma sketches_style {p v : String} {post : Unit → Sketch → Prop}
    (done : post () { t with style := Function.update t.style p (some v) }) :
    Sketches t (style .leaf p v) post := by
  refine ⟨trivial, ?_⟩
  rintro _ _ rfl
  exact done

lemma settled_of_faint {r : BenchRequest} (faint : Faint colours r) : Settled r := by
  cases r with
  | addPart | addOption | clearOptions | sample => exact faint.elim
  | look | note | write | html | resizeRegion | useFont => trivial

lemma Faint.redraws {r : BenchRequest} {reply : r.Reply} {t' : Sketch} (faint : Faint colours r)
    (drawn : Redraws t r reply t') :
    t'.notes = t.notes ∧ t'.scroll = t.scroll ∧ ∀ p, ¬ colours p → t'.style p = t.style p := by
  have same (eq : t' = t) : t'.notes = t.notes ∧ t'.scroll = t.scroll ∧ ∀ p, ¬ colours p →
      t'.style p = t.style p := by
    subst eq
    exact ⟨rfl, rfl, fun _ _ => rfl⟩
  cases r with
  | addPart | addOption | clearOptions | sample | note | resizeRegion => exact faint.elim
  | look => exact same drawn.1
  | html | useFont => exact same drawn
  | write spot w =>
    cases w with
    | attr | linkStyle | html | text | form | focus | bind | observe =>
      exact same (by cases spot <;> exact drawn)
    | noStyle p =>
      have drawn : t'.notes = t.notes ∧ t'.scroll = t.scroll ∧ ∀ q ≠ p, t'.style q = t.style q := by
        cases spot <;> exact drawn
      exact ⟨drawn.1, drawn.2.1, fun q other => drawn.2.2 q fun hit => other (hit ▸ faint)⟩
    | style p v =>
      cases spot with
      | leaf =>
        obtain rfl : t' = _ := drawn
        exact ⟨rfl, rfl, fun q other =>
          Function.update_of_ne (fun hit : q = p => other (hit ▸ faint)) _ _⟩
      | part | option =>
        exact ⟨drawn.1, drawn.2.1, fun q other => drawn.2.2 q fun hit => other (hit ▸ faint)⟩

/-- What is faint touches no other style. -/
lemma Uses.sketches (uses : Uses (Faint colours) craft) :
    Sketches t craft fun _ t' => t'.notes = t.notes ∧ t'.scroll = t.scroll ∧ ∀ p, ¬ colours p →
      t'.style p = t.style p := by
  induction craft generalizing t with
  | done a => exact ⟨rfl, rfl, fun _ _ => rfl⟩
  | ask r rest ih =>
    obtain ⟨faint, rest_faint⟩ := uses
    refine ⟨settled_of_faint faint, fun reply t' drawn =>
      (ih reply (rest_faint reply)).mono fun _ t'' later => ?_⟩
    obtain ⟨notes, scroll, styles⟩ := faint.redraws drawn
    exact ⟨later.1.trans notes, later.2.1.trans scroll, fun p other =>
      (later.2.2 p other).trans (styles p other)⟩
  | broken why => exact uses.elim

end Crafts

/-! ### At the bench -/

section Bench

variable {κ α : Type} [Core κ] {base : Nat} {rest : List OwnedNode} {e₀ : Element}
  {d₀ d : MemoryDocument} {b : Bench} {h : MemoryHost κ} {m n : NodeId}

/-- The style that a write is about. -/
def restyled? : NodeWrite → Option String
  | .style p _ | .noStyle p => some p
  | _ => none

/-- Only writing a style changes it. -/
lemma style_written (linked : Linked d) {w : NodeWrite} {p : String}
    (other : restyled? w ≠ some p) :
    ((written w n d).node? m).bind (·.style[p]?) = (d.node? m).bind (·.style[p]?) := by
  cases hw : replaces w with
  | true =>
    obtain ⟨html, written⟩ := exists_written_of_replaces (n := n) hw
    rw [written, node?_setHtml linked]
    cases d.node? m <;> rfl
  | false =>
    rw [node?_written_of_replaces hw]
    split
    · cases d.node? m with
      | none => rfl
      | some node =>
        cases w with
        | style q v =>
          exact Std.ExtTreeMap.getElem?_insert.trans
            (if_neg fun same => other (congrArg some (compare_eq_iff_eq.1 same)))
        | noStyle q =>
          exact Std.ExtTreeMap.getElem?_erase.trans
            (if_neg fun same => other (congrArg some (compare_eq_iff_eq.1 same)))
        | attr | linkStyle | html | text | form | focus | bind | observe => rfl
    · rfl

lemma style_written_self (linked : Linked d) (issued : d.issued n) (p v q : String) :
    ((written (.style p v) n d).node? n).bind (·.style[q]?) =
      Function.update (fun q => (d.node? n).bind (·.style[q]?)) p (some v) q := by
  by_cases same : q = p
  · obtain ⟨node, found⟩ := issued_iff.1 issued
    subst same
    rw [node?_written_of_replaces rfl, if_pos rfl, found, Function.update_self]
    exact Std.ExtTreeMap.getElem?_insert_self
  · rw [Function.update_of_ne same]
    exact style_written linked fun hit => same (Option.some.inj hit).symm

/-- At the bench a settled request makes of the element what it should. -/
theorem AtWork.perform_redraws (work : AtWork base rest e₀ d₀ b h.document) {r : BenchRequest}
    (settled : Settled r) :
    Yields (Bench.perform r) b h fun reply b' h' =>
      Redraws (sketch b.element h.document) r reply (sketch b'.element h'.document) := by
  have issued {n : NodeId} (hn : n ∈ b.element.nodes.map (·.id)) : h.document.issued n :=
    work.owned.issued_of_known (.inr (mem_held hn))
  cases r with
  | addPart | addOption | clearOptions | sample => exact settled.elim
  | look => exact ⟨rfl, rfl, rfl⟩
  | note | resizeRegion => rfl
  | html spot =>
    obtain ⟨record, hn⟩ := issued_iff.1 (issued (node_mem b.element spot))
    refine (ends_bind _ _ _).2 ((ends_get _).2 ((ends_ask _ _).2 ?_))
    rw [answer_innerHtml hn]
    exact rfl
  | useFont font =>
    refine (ends_bind _ _ _).2 ((ends_focus _ _).2 ((register_loads font b.fonts).ends ?_))
    rintro _ fonts h' ⟨faces, _, rfl⟩
    exact rfl
  | write spot w =>
    have leaf : h.document.issued b.element.leaf.id :=
      issued (List.mem_map_of_mem List.mem_cons_self)
    have linked := work.owned.linked
    refine (ends_bind _ _ _).2
      ((ends_get _).2
        ((ends_script _ _).2 ((answers_write w (issued (node_mem b.element spot))).2 ?_)))
    have same {q : String} (other : restyled? w ≠ some q) :
        (sketch b.element (written w (b.element.node spot) h.document)).style q =
          (sketch b.element h.document).style q :=
      style_written linked other
    cases w with
    | attr | linkStyle | html | text | form | focus | bind | observe =>
      have unchanged :=
        congrArg (Sketch.mk b.element.toNotes b.element.scroll)
          (funext fun q => same (q := q) nofun)
      cases spot <;> exact unchanged
    | noStyle p =>
      have others (q) (other : q ≠ p) := same (q := q) fun hit => other (Option.some.inj hit).symm
      cases spot <;> exact ⟨rfl, rfl, others⟩
    | style p v =>
      cases spot with
      | leaf =>
        exact congrArg (Sketch.mk _ _) (funext fun q => style_written_self linked leaf p v q)
      | part | option =>
        exact ⟨rfl, rfl, fun q other => same fun hit => other (Option.some.inj hit).symm⟩

theorem AtWork.carryOut_sketches {craft : Craft α} {post : α → Sketch → Prop}
    (work : AtWork base rest e₀ d₀ b h.document)
    (drawn : Sketches (sketch b.element h.document) craft post) :
    Yields (Bench.carryOut craft) b h fun a b' h' => AtWork base rest e₀ d₀ b' h'.document ∧
      post a (sketch b'.element h'.document) := by
  induction craft generalizing b h with
  | done a => exact ⟨work, drawn⟩
  | ask r next ih =>
    refine (ends_bind _ _ _).2 (((work.perform r).and (work.perform_redraws drawn.1)).ends ?_)
    rintro reply b₁ h₁ ⟨work₁, step⟩
    exact ih reply work₁ (drawn.2 reply _ step)
  | broken why => exact drawn.elim

end Bench

/-! ## What other patches leave alone -/

/-- An element keeps its entry, and its leaf the styles. -/
structure Passed (j : UInt32) (s : Scene) (d : MemoryDocument) (s' : Scene) (d' : MemoryDocument) :
    Prop where
  entry : s'.elements[j]? = s.elements[j]?
  styled : ∀ e, s.elements[j]? = some e → Styled (· = e.leaf.id) d d'

section Others

variable {κ : Type} [Core κ] {base : Nat} {mount : NodeId} {s s' : Scene} {h h' : MemoryHost κ}
  {id j : UInt32} {d d' : MemoryDocument} {e : Element}

lemma Passed.refl : Passed j s d s d := ⟨rfl, fun _ _ _ _ => rfl⟩

lemma Unaffected.passed (unaffected : Unaffected id s s' d d') (other : j ≠ id) :
    Passed j s d s' d' := by
  refine ⟨unaffected.entries j other, fun e found m hm => ?_⟩
  subst hm
  exact congrArg _ (unaffected.records j e e.leaf other found List.mem_cons_self)

/-- The elements are the same, and so are all nodes. -/
lemma Passed.of_nodes (elements : s'.elements = s.elements) (nodes : d'.nodes = d.nodes) :
    Passed j s d s' d' := by
  refine ⟨by rw [elements], fun e _ m _ => ?_⟩
  rw [node?_of_nodes nodes]

lemma Passed.sketch (passed : Passed j s d s' d') (found : s'.elements[j]? = some e) :
    s.elements[j]? = some e ∧ sketch e d' = sketch e d := by
  rw [passed.entry] at found
  refine ⟨found, congrArg (Sketch.mk _ _) (funext fun p => ?_)⟩
  have same := passed.styled e found e.leaf.id rfl
  cases here : d'.node? e.leaf.id <;> cases there : d.node? e.leaf.id <;> simp_all

/-- A new element, or none, and nothing else. -/
lemma Sound.create_passes (sound : Sound base mount s h) (widget : Widget) (c : Creation) :
    Ends (Scene.create widget c) s h
      (fun _ s' h' =>
        (∃ e, e.widget = widget ∧ Pristine e ∧ s'.elements = s.elements.insert c.id e) ∧
        ∀ j ≠ c.id, Passed j s h.document s' h'.document)
      (fun _ s' h' => ∀ j, Passed j s h.document s' h'.document) fun _ => True := by
  cases found : s.elements[c.id]? with
  | some e =>
    refine (sound.create widget c).mono ?_ ?_ fun _ _ => trivial
    · rintro _ _ _ ⟨_, new, _⟩
      rw [found] at new
      cases new
    · rintro _ _ _ ⟨_, _, ⟨_, _, rfl, rfl⟩ | ⟨new, _⟩⟩
      · exact fun _ => .refl
      · rw [found] at new
        cases new
  | none =>
    refine (sound.create_alone widget found).mono ?_ ?_ fun _ _ => trivial
    · exact fun _ s' h' joined => ⟨joined.elements, fun j other => joined.others.passed other⟩
    · rintro _ s' h' ⟨unaffected, same, _⟩ j
      by_cases here : j = c.id
      · refine ⟨by rw [same], fun e absent => ?_⟩
        rw [here, found] at absent
        cases absent
      · exact unaffected.passed here

lemma Sound.deleteFrame_passes (sound : Sound base mount s h)
    (listed : Listed h.document) (id : UInt32) :
    Ends (Scene.onStage (Stage.removeContainer id)) s h
      (fun _ s' h' => ∀ j, Passed j s h.document s' h'.document)
      (fun _ s' h' => ∀ j, Passed j s h.document s' h'.document) fun _ => True := by
  by_cases registered : id ∈ s.containers
  · refine (ends_onStage _ _ _).2 ((sound.vacate listed registered).mono ?_ ?_ fun _ => False.elim)
    · rintro _ stage h' ⟨_, vacated⟩ j
      refine ⟨rfl, fun e found m hm => ?_⟩
      subst hm
      have held : e.leaf.id ∈ (elementNodes s.elements).map (·.id) :=
        List.mem_map_of_mem (mem_elementNodes.2 ⟨j, e, found, List.mem_cons_self⟩)
      have staying : e.leaf.id ∉ (s.instances id).map (·.2.id) := fun inside => by
        obtain ⟨p, hp, same⟩ := List.mem_map.1 inside
        obtain ⟨l, hl, hn⟩ := mem_instances.1 hp
        exact sound.stage.apart held (.inr (same ▸ mem_of_frame hl hn))
      rw [vacated.kept _ staying, Option.map_map]
      rfl
    · rintro _ _ _ ⟨_, _, rfl, rfl⟩ _
      exact .refl
  · refine (sound.deleteFrame id).mono ?_ ?_ fun _ _ => trivial
    · rintro _ s' h' ⟨_, _, there, _⟩
      exact absurd (Std.ExtTreeMap.contains_iff_mem.1 there) registered
    · rintro _ _ _ ⟨rfl, rfl, _⟩ _
      exact .refl

lemma loadImage_passes (s : Scene) (h : MemoryHost κ) (id : UInt32) (path : String) :
    Ends (Scene.loadImage id path) s h (fun _ s' h' => ∀ j, Passed j s h.document s' h'.document)
      (fun _ s' h' => ∀ j, Passed j s h.document s' h'.document) fun _ => True := by
  unfold Scene.loadImage
  refine (ends_bind _ _ _).2 ((ends_script _ _).2 ?_)
  change Ends (if (!(Core.imageLoaded path h.core).1) = true then _ else _) s
    { h with core := _ } _ _ _
  split
  · exact (ends_bind _ _ _).2 ((ends_get _).2 ((ends_ask _ _).2 fun _ => .of_nodes rfl rfl))
  · exact fun _ => .refl

/-- Writes that are not about styles leave all styles. -/
lemma writeAll_styles {σ : Type} (w : NodeWrite) (plain : restyled? w = none)
    (nodes : List OwnedNode) {s : σ} {h : MemoryHost κ}
    (linked : Linked h.document) (issued : ∀ n ∈ nodes, h.document.issued n.id) :
    Yields (nodes.forM fun n => (w.apply n.id : Script Patching Unit) : Work σ Unit) s h
      fun _ s' h' => s' = s ∧
      ∀ (m : NodeId) (p : String), (h'.document.node? m).bind (·.style[p]?) =
        (h.document.node? m).bind (·.style[p]?) := by
  induction nodes generalizing h with
  | nil => exact ⟨rfl, fun _ _ => rfl⟩
  | cons n nodes ih =>
    refine ends_write w (issued n List.mem_cons_self) fun h₁ doc _ =>
      (ih ?_ fun k hk => ?_).ends fun _ s' h₂ same => ⟨same.1, fun m p => ?_⟩
    · exact doc ▸ linked.written w
    · rw [doc, issued_written]
      exact issued k (List.mem_cons_of_mem _ hk)
    · rw [same.2, doc]
      refine style_written linked ?_
      rw [plain]
      nofun

/-- An element that is moved keeps all styles of its leaf but the depth. -/
lemma Sound.restack_redraws (sound : Sound base mount s h) (id layer depth : UInt32) :
    Ends (Scene.restack id layer depth) s h
      (fun _ s' h' => ∃ e tab, s.elements[id]? = some e ∧
        s'.elements = s.elements.insert id { e with layer, tabIndex := some tab } ∧
        ∀ p ≠ "z-index", (h'.document.node? e.leaf.id).bind (·.style[p]?) =
          (h.document.node? e.leaf.id).bind (·.style[p]?))
      (fun _ _ _ => True) fun _ => True := by
  unfold Scene.restack
  refine (ends_bind _ _ _).2 ((ends_get _).2 ?_)
  cases found : s.elements[id]? with
  | none => trivial
  | some e =>
    have hand := sound.pick found
    have listed : e.leaf.id ∈ (e.nodes ++ elementNodes (s.elements.erase id)).map (·.id) :=
      List.mem_cons_self
    refine (ends_bind _ _ _).2 ((ends_onStage _ _ _).2 (((hand.place layer).and
      (hand.stage.addElement_supplies listed e.frame)).mono ?_ (fun _ _ _ _ => trivial)
        fun _ _ => trivial))
    rintro _ s₁ h₁ ⟨⟨hand₁, _⟩, _, place, d₁, _, grew, doc₁⟩
    refine (ends_bind _ _ _).2 ((ends_get _).2 ?_)
    dsimp only
    cases Scene.tabIndex? s.config depth with
    | none => trivial
    | some tab =>
      have issued (n) (hn : n ∈ e.nodes) : h₁.document.issued n.id :=
        hand₁.owned.issued_of_known (.inr (mem_held (List.mem_map_of_mem hn)))
      have linked := hand₁.stage.owned.linked
      have hung (p : String) : (h₁.document.node? e.leaf.id).bind (·.style[p]?) =
          (h.document.node? e.leaf.id).bind (·.style[p]?) := by
        rw [doc₁, node?_append grew.1.standing.owned.linked, grew.records_of_others listed]
        cases h.document.node? e.leaf.id <;> rfl
      refine (ends_bind _ _ _).2 ((ends_modify _ _).2 ?_)
      refine ends_write (.style "z-index" (toString depth))
        (issued e.leaf List.mem_cons_self) fun h₂ doc₂ _ => ?_
      refine (writeAll_styles (.attr "tabindex" (toString tab)) rfl _ (doc₂ ▸ linked.written _)
        fun n hn => ?_).ends
        ?_
      · rw [doc₂, issued_written]
        exact issued n (List.mem_cons_of_mem _ (List.mem_of_mem_filter hn))
      · rintro _ _ h₃ ⟨rfl, same⟩
        refine ⟨e, tab, rfl, rfl, fun p other => ?_⟩
        rw [same, doc₂, style_written (w := .style "z-index" (toString depth)) linked fun hit =>
          other (Option.some.inj hit).symm, hung]

/-- An element is updated as its craft goes. -/
lemma Sound.update_sketches (sound : Sound base mount s h) (id : UInt32) (change : Change)
    {post : Sketch → Prop} (drawn : ∀ e, s.elements[id]? = some e → e.widget = change.widget →
      Sketches (sketch e h.document) (Craft.update id change) fun _ t => post t) :
    Ends (Scene.update id change) s h (fun _ s' h' => ∃ e, s'.elements = s.elements.insert id e ∧
      post (sketch e h'.document))
      (fun _ _ _ => True) fun _ => True := by
  unfold Scene.update
  refine (ends_bind _ _ _).2
    ((ends_lookup s h id change.widget).mono ?_ (fun _ _ _ _ => trivial) fun _ => False.elim)
  rintro e s₁ h₁ ⟨rfl, rfl, found, kind⟩
  refine (ends_bind _ _ _).2 ((ends_atBench _ _ _ _).2 ?_)
  refine (((sound.pick found).atWork s₁.fonts).carryOut_sketches (drawn e found kind)).ends ?_
  rintro _ b h₂ ⟨_, done⟩
  exact ⟨b.element, rfl, done⟩

end Others

/-! ## What lasts -/

/-- Something that holds of all elements of a kind, by the changes that reached them: it holds of
new ones, no move matters to it, and updates keep it up. -/
structure Lasting (kind : Widget) (P : List Change → Sketch → Prop) : Prop where
  born : ∀ (e : Element) (d : MemoryDocument), e.widget = kind → Pristine e → P [] (sketch e d)
  moved : ∀ (cs : List Change) (t t' : Sketch), P cs t →
    t'.notes = { t.notes with tabIndex := t'.notes.tabIndex } →
    t'.scroll = t.scroll → (∀ p ≠ "z-index", t'.style p = t.style p) → P cs t'
  changed : ∀ (cs : List Change) (id : UInt32) (change : Change) (t : Sketch),
    change.widget = kind → P cs t →
    Sketches t (Craft.update id change) fun _ t' => P (change :: cs) t'

/-- All elements of a kind are as the log says. -/
def Portrayed (kind : Widget) (P : List Change → Sketch → Prop) (log : Log) (s : Scene)
    (d : MemoryDocument) : Prop :=
  ∀ (id : UInt32) (e : Element), s.elements[id]? = some e → e.widget = kind →
    P (changes log id) (sketch e d)

section Results

variable {κ : Type} [Core κ] {base : Nat} {mount : NodeId} {config : Config} {h₀ h : MemoryHost κ}
  {s s' : Scene} {log : Log}
  {kind : Widget} {P : List Change → Sketch → Prop} {d d' : MemoryDocument}
  {id : UInt32} {e : Element}

lemma changes_refused {p : Patch} {why : PatchError} :
    changes ((p, .error why) :: log) = changes log := by
  cases p <;> rfl

/-- Who was passed over is portrayed as before. -/
lemma Portrayed.passed (portrayed : Portrayed kind P log s d) (passed : Passed id s d s' d')
    (found : s'.elements[id]? = some e)
    (widget : e.widget = kind) : P (changes log id) (sketch e d') := by
  obtain ⟨there, same⟩ := passed.sketch found
  rw [same]
  exact portrayed id e there widget

lemma Portrayed.refused {p : Patch} {why : PatchError} (portrayed : Portrayed kind P log s d)
    (passed : ∀ j, Passed j s d s' d') :
    Portrayed kind P ((p, .error why) :: log) s' d' := by
  intro id e found widget
  rw [changes_refused]
  exact portrayed.passed (passed id) found widget

lemma Lasting.update (lasting : Lasting kind P) (portrayed : Portrayed kind P log s h.document)
    (sound : Sound base mount s h) (target : UInt32) (change : Change) :
    Ends (Scene.update target change) s h
      (fun _ s' h' => Portrayed kind P ((.update target change, .ok ()) :: log) s' h'.document)
      (fun why s' h' =>
        Portrayed kind P ((.update target change, .error why) :: log) s' h'.document) fun _ =>
          True := by
  have others {s' : Scene} {h' : MemoryHost κ} (updated : Updated base target s h s' h')
    {id : UInt32} (other : id ≠ target) {e : Element}
    (found : s'.elements[id]? = some e) (widget : e.widget = kind) :
      P (changes ((.update target change, .ok ()) :: log) id) (sketch e h'.document) := by
    simp only [changes, if_neg other]
    exact portrayed.passed (updated.others.passed other) found widget
  have alone := Ends.and (sound.update target change) (sound.update_alone target change)
  by_cases same : change.widget = kind
  · refine (alone.and (sound.update_sketches target change fun e found widget =>
      lasting.changed _ target change _ same (portrayed target e found (widget.trans same)))).mono
        ?_ ?_ fun _ _ => trivial
    · rintro _ s' h' ⟨⟨_, updated⟩, e', elements, done⟩ id e found widget
      by_cases here : id = target
      · rw [elements, here, Std.ExtTreeMap.getElem?_insert_self, Option.some_inj] at found
        simp only [changes, if_pos here]
        rw [here, ← found]
        exact done
      · exact others updated here found widget
    · rintro _ _ _ ⟨⟨⟨rfl, rfl, _⟩, _⟩, _⟩
      exact portrayed.refused fun _ => .refl
  · refine alone.mono ?_ ?_ fun _ _ => trivial
    · rintro _ s' h' ⟨⟨_, _, e', _, _, widget', elements⟩, updated⟩ id e found widget
      by_cases here : id = target
      · rw [elements, here, Std.ExtTreeMap.getElem?_insert_self, Option.some_inj] at found
        exact absurd (widget'.symm.trans (found ▸ widget)) same
      · exact others updated here found widget
    · rintro _ _ _ ⟨⟨rfl, rfl, _⟩, _⟩
      exact portrayed.refused fun _ => .refl

/-- One more patch, whatever became of it. -/
theorem Lasting.apply (lasting : Lasting kind P) (portrayed : Portrayed kind P log s h.document)
    (sound : Sound base mount s h) (listed : Listed h.document) (p : Patch) :
    Ends (Scene.apply p) s h (fun _ s' h' => Portrayed kind P ((p, .ok ()) :: log) s' h'.document)
      (fun why s' h' => Portrayed kind P ((p, .error why) :: log) s' h'.document) fun _ =>
        True := by
  cases p with
  | create widget c =>
    refine (sound.create_passes widget c).mono ?_
      (fun _ _ _ passed => portrayed.refused passed) fun _ _ => trivial
    rintro _ s' h' ⟨⟨e, same, pristine, elements⟩, passed⟩ id x found kind
    simp only [changes]
    split
    · next here =>
      rw [elements, here, Std.ExtTreeMap.getElem?_insert_self, Option.some_inj] at found
      subst found
      exact lasting.born e _ kind pristine
    · next other => exact portrayed.passed (passed id other) found kind
  | update target change => exact lasting.update portrayed sound target change
  | delete widget gone =>
    refine (Ends.and (sound.delete widget gone) (sound.delete_alone widget gone)).mono ?_
      ?_ fun _ _ => trivial
    · rintro _ s' h' ⟨⟨_, _, elements⟩, _, _, deleted⟩ id e found kind
      have other : id ≠ gone := by
        rintro rfl
        simp [elements] at found
      exact portrayed.passed (deleted.others.passed other) found kind
    · rintro _ _ _ ⟨⟨rfl, rfl, _⟩, _⟩
      exact portrayed.refused fun _ => .refl
  | restack target layer depth =>
    refine ((Ends.and (sound.restack target layer depth)
      (sound.restack_alone target layer depth)).and
      (sound.restack_redraws target layer depth)).mono ?_ ?_ fun _ _ => trivial
    · rintro _ s' h' ⟨⟨_, _, _, moved⟩, e, tab, found, elements, styles⟩ id x there kind
      by_cases here : id = target
      · rw [elements, here, Std.ExtTreeMap.getElem?_insert_self, Option.some_inj] at there
        subst there here
        exact lasting.moved _ _ _ (portrayed id e found kind) rfl rfl styles
      · exact portrayed.passed (moved.others.passed here) there kind
    · rintro _ _ _ ⟨⟨⟨rfl, rfl, _⟩, _⟩, _⟩
      exact portrayed.refused fun _ => .refl
  | createFrame c =>
    refine (ends_onStage _ _ _).2
      ((ends_addContainer s.toStage h c.id c.frame).mono ?_ ?_ fun _ _ => trivial)
    · rintro _ _ _ ⟨rfl, rfl, _⟩ id e found kind
      exact portrayed id e found kind
    · rintro _ _ _ ⟨rfl, rfl, _⟩
      exact portrayed.refused fun _ => .refl
  | updateFrame id g =>
    refine (ends_onStage _ _ _).2
      ((updateContainer_publishes s.toStage h id g).mono ?_ ?_ fun _ _ => trivial)
    · rintro _ _ h' ⟨_, _, rfl, doc⟩ j e found kind
      exact portrayed.passed (.of_nodes rfl (by rw [doc])) found kind
    · rintro _ _ _ ⟨rfl, rfl⟩
      exact portrayed.refused fun _ => .refl
  | deleteFrame id =>
    refine (sound.deleteFrame_passes listed id).mono ?_
      (fun _ _ _ passed => portrayed.refused passed) fun _ _ => trivial
    exact fun _ s' h' passed j e found kind => portrayed.passed (passed j) found kind
  | loadImage id path =>
    refine (loadImage_passes s h id path).mono ?_
      (fun _ _ _ passed => portrayed.refused passed) fun _ _ => trivial
    exact fun _ s' h' passed j e found kind => portrayed.passed (passed j) found kind

/-- What lasts holds after any run of patches. -/
theorem Lasting.portrayed (lasting : Lasting kind P) (chronicle : Chronicle mount config h₀ log s h)
    (reached : Reached h₀.document)
    (there : h₀.document.issued mount) : Portrayed kind P log s h.document := by
  induction chronicle with
  | attached run =>
    intro id e found
    have nobody := (accounts_attached run).elements id
    rw [found] at nobody
    cases nobody
  | @patched log s s' h h' p result before run portrayed =>
    have listed : Listed h.document :=
      before.history.keeps (fun listed run => listed.answered run) reached.listed
    have applied :=
      lasting.apply portrayed (before.history.sound reached.tidy.linked there) listed p
    unfold Ends at applied
    rw [run] at applied
    cases result with
    | ok => exact applied
    | error why => exact applied

end Results

end LayeredPage.Proofs
