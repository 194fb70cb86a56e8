import LayeredPage.Proofs.Connections

/-!
# What is checked on a page

A document in memory knows which nodes are checked, a page knows it of its elements. Only two
requests have to do with it: one sets the state of a node, and a reset takes it back. An input on
the page is checked whenever its node is.
-/

namespace LayeredPage.Proofs

open MemoryDocument

/-- The tag of an element, and whether it is checked. -/
def toggle (e : PageElement) : String × Bool := (e.tag, e.checked)

def toggle? (p : Page) (x : ElementId) : Option (String × Bool) := (p.element? x).map toggle

/-- The elements that there were are as checked as before. -/
structure Untoggled (p p' : Page) : Prop where
  grown : p.elements.size ≤ p'.elements.size
  toggles : ∀ x, x.index < p.elements.size → toggle? p' x = toggle? p x

/-! ## Pages -/

section Pages

variable {p p' p'' : Page} {x y : ElementId} {f : PageElement → PageElement}

lemma Untoggled.refl : Untoggled p p := ⟨le_rfl, fun _ _ => rfl⟩

lemma Untoggled.trans (one : Untoggled p p') (two : Untoggled p' p'') : Untoggled p p'' :=
  ⟨one.grown.trans two.grown, fun x there =>
    (two.toggles x (there.trans_le one.grown)).trans (one.toggles x there)⟩

lemma untoggled_of_elements (same : p'.elements = p.elements) : Untoggled p p' := by
  refine ⟨by rw [same], fun x _ => ?_⟩
  unfold toggle? Page.element?
  rw [same]

lemma toggle?_modify :
    toggle? (p.modify y f) x = if x = y then (p.element? x).map (toggle ∘ f) else toggle? p x := by
  unfold toggle?
  rw [element?_modify]
  split
  · exact Option.map_map ..
  · rfl

lemma untoggled_modify (same : ∀ e, toggle (f e) = toggle e) : Untoggled p (p.modify x f) := by
  refine ⟨size_pageModify.ge, fun y _ => ?_⟩
  rw [toggle?_modify]
  split
  · exact congrArg (fun g => (p.element? y).map g) (funext same)
  · rfl

lemma untoggled_foldl {α : Type} (xs : List α) {f : Page → α → Page}
    (all : ∀ p x, Untoggled p (f p x)) (p : Page) :
    Untoggled p (xs.foldl f p) := by
  induction xs generalizing p with
  | nil => exact .refl
  | cons x xs ih => exact (all p x).trans (ih _)

lemma untoggled_create (tag : String) : Untoggled p (p.create tag).2 := by
  refine ⟨(Nat.le_succ _).trans (Array.size_push ..).ge, fun x there => ?_⟩
  unfold toggle? Page.create Page.element?
  rw [Array.getElem?_push, if_neg (by simpa using there.ne)]

lemma untoggled_remove : Untoggled p (p.remove x) := by
  unfold Page.remove
  split
  · refine (untoggled_modify ?_).trans (untoggled_modify ?_) <;> exact fun _ => rfl
  · exact .refl

lemma untoggled_append? (hung : p.append? x y = some p') : Untoggled p p' := by
  unfold Page.append? at hung
  split at hung
  · cases hung
  · cases hung
    refine (untoggled_remove.trans (untoggled_modify ?_)).trans
      (untoggled_modify ?_) <;> exact fun _ => rfl

lemma untoggled_clear : Untoggled p (p.clear x) := by
  refine (untoggled_modify ?_).trans (untoggled_foldl _ (fun _ _ => untoggled_modify ?_) _)
    <;> exact fun _ => rfl

lemma untoggled_setText (text : String) : Untoggled p (p.setText x text) := by
  refine untoggled_clear.trans (untoggled_modify ?_)
  exact fun _ => rfl

lemma untoggled_addLinks (count : Nat) : Untoggled p (p.addLinks x count) := by
  induction count generalizing p with
  | zero => exact .refl
  | succ count ih =>
    refine (((untoggled_create "a").trans (untoggled_modify ?_)).trans (untoggled_modify ?_)).trans
      ih <;> exact fun _ => rfl

lemma untoggled_setHtml (html : String) : Untoggled p (p.setHtml x html) := by
  refine (untoggled_clear.trans (untoggled_modify ?_)).trans (untoggled_addLinks _)
  exact fun _ => rfl

lemma untoggled_unlistenAll (rs : List Registration) : Untoggled p (p.unlistenAll rs) := by
  refine untoggled_foldl rs (fun p r => untoggled_of_elements ?_) p
  rfl

lemma untoggled_listen (target : EventTarget) (event : String) (options : ListenerOptions)
    (handler : Handler) :
    Untoggled p (p.listen target event options handler).2 := by
  unfold Page.listen
  dsimp only
  split <;> exact untoggled_of_elements rfl

lemma untoggled_setProperty (same : ∀ e, toggle (f e) = toggle e) :
    Untoggled p (p.setProperty x f) := by
  unfold Page.setProperty
  split
  · exact .refl
  · exact untoggled_modify same

lemma untoggled_note (call : PageCall) : Untoggled p (p.note call) := untoggled_of_elements rfl

lemma untoggled_selectRange (start stop : Nat) : Untoggled p (p.selectRange x start stop) := by
  refine (untoggled_note _).trans (untoggled_modify ?_)
  exact fun _ => rfl

lemma untoggled_focus : Untoggled p (p.focus x) := by
  unfold Page.focus
  split
  · exact .refl
  · exact untoggled_of_elements rfl

lemma untoggled_clearCanvas : Untoggled p (p.clearCanvas x) := by
  unfold Page.clearCanvas
  split <;> exact untoggled_of_elements rfl

lemma untoggled_resizeCanvas (width height : UInt32) (scale : Float) :
    Untoggled p (p.resizeCanvas x width height scale) := by
  unfold Page.resizeCanvas
  split
  · exact .refl
  · refine Untoggled.trans (untoggled_modify ?_) (untoggled_note _)
    exact fun _ => rfl

lemma untoggled_loadFace (request : FaceRequest) : Untoggled p (p.loadFace request) := by
  unfold Page.loadFace
  split
  · exact untoggled_of_elements rfl
  · dsimp only
    split <;> exact untoggled_of_elements rfl

lemma untoggled_setInterval (sampler : SamplerId) (delay : Nat) :
    Untoggled p (p.setInterval sampler delay).2 := by
  unfold Page.setInterval
  split <;> exact untoggled_of_elements rfl

end Pages

/-! ## Requests to a document on a page -/

/-- The node that a request has to do with, and the state in which it leaves it. -/
def sets? : DocumentRequest → Option (NodeId × Bool)
  | .setForm n (.checked state) => some (n, state)
  | .reset n => some (n, false)
  | _ => none

/-- An input is left in this state; other elements have none. -/
def switched (state : Bool) (t : String × Bool) : String × Bool :=
  if t.1 = "input" then (t.1, state) else t

/-- One element is left in this state, and the others are as before. -/
structure Switches (x : ElementId) (state : Bool) (p p' : Page) : Prop where
  grown : p.elements.size ≤ p'.elements.size
  toggles : ∀ y, y.index < p.elements.size → toggle? p' y = (toggle? p y).map fun t =>
    if y = x then switched state t else t

section Documents

variable {d d' : BrowserDocument} {n p c : NodeId} {x y : ElementId} {f : PageElement → PageElement}

lemma untoggled_onElement {f : ElementId → Page → Page}
    (each : ∀ x, Untoggled d.page (f x d.page)) :
    Untoggled d.page (d.onElement n f).page := by
  unfold BrowserDocument.onElement
  split
  · exact each _
  · exact .refl

lemma untoggled_modifyElement (same : ∀ e, toggle (f e) = toggle e) :
    Untoggled d.page (d.modifyElement n f).page :=
  untoggled_onElement fun _ => untoggled_modify same

lemma untoggled_modifyWhere {which : PageElement → Bool} (same : ∀ e, toggle (f e) = toggle e) :
    Untoggled d.page (d.modifyWhere n which f).page := by
  refine untoggled_modifyElement fun e => ?_
  split
  · exact same e
  · rfl

lemma untoggled_detach : Untoggled d.page (d.detach n).page := by
  have removed : Untoggled d.page (d.onElement n fun e p => p.remove e).page :=
    untoggled_onElement fun _ => untoggled_remove
  unfold BrowserDocument.detach
  dsimp only
  split
  · exact removed
  · exact removed

lemma untoggled_append : Untoggled d.page (d.append p c).page := by
  unfold BrowserDocument.append
  dsimp only
  split
  · split
    · next hung => exact untoggled_detach.trans (untoggled_append? hung)
    · exact untoggled_detach
  · exact untoggled_detach

lemma page_orphan : (d.orphan n).page = d.page := by
  have each (cs : List NodeId) (d : BrowserDocument) :
      (cs.foldl (fun d c => d.modifySlot c fun slot => { slot with parent := none }) d).page =
        d.page := by
    induction cs generalizing d with
    | nil => rfl
    | cons c cs ih => exact ih _
  exact each _ _

lemma untoggled_setDocumentHtml (html : String) : Untoggled d.page (d.setHtml n html).page := by
  refine Untoggled.trans (untoggled_of_elements ?_)
    (untoggled_onElement fun _ => untoggled_setHtml html)
  rw [page_orphan]

lemma untoggled_setDocumentText (text : String) : Untoggled d.page (d.setText n text).page := by
  refine Untoggled.trans (untoggled_of_elements ?_)
    (untoggled_onElement fun _ => untoggled_setText text)
  rw [page_orphan]

lemma untoggled_setValue (value : String) : Untoggled d.page (d.setValue n value).page := by
  have written (x : ElementId) : Untoggled d.page (d.page.setValue x value) := by
    refine untoggled_modify ?_
    exact fun _ => rfl
  refine untoggled_onElement fun x => ?_
  split
  · split
    · exact .refl
    · dsimp only
      split
      · split
        · exact (written x).trans (untoggled_selectRange _ _)
        · exact written x
      · exact written x
  · exact .refl

lemma untoggled_setLinkStyle (property value : String) :
    Untoggled d.page (d.setLinkStyle n property value).page := by
  refine untoggled_onElement fun x => ?_
  split
  · exact .refl
  · refine untoggled_foldl _ (fun _ _ => untoggled_modify ?_) _
    exact fun _ => rfl

lemma untoggled_onRoot (same : ∀ e, toggle (f e) = toggle e) :
    Untoggled d.page (d.onRoot f).page := by
  unfold BrowserDocument.onRoot
  split
  · exact .refl
  · exact untoggled_modify same

lemma untoggled_silence : Untoggled d.page (d.silence n).page := by
  unfold BrowserDocument.silence
  split
  · exact untoggled_unlistenAll _
  · exact .refl

lemma untoggled_bind (id : UInt32) (binding : InputBinding) :
    Untoggled d.page (d.bind n id binding).page := by
  unfold BrowserDocument.bind
  split
  · exact untoggled_listen ..
  · exact .refl

lemma untoggled_observe : Untoggled d.page (d.observe n).page := by
  unfold BrowserDocument.observe
  split
  · exact untoggled_onElement fun _ => untoggled_of_elements rfl
  · exact .refl

lemma untoggled_unobserve : Untoggled d.page (d.unobserve n).page := by
  unfold BrowserDocument.unobserve
  split
  · exact untoggled_onElement fun _ => untoggled_of_elements rfl
  · exact .refl

lemma untoggled_sampleScroll (tracker : ScrollTracker Float) (interval : UInt32) :
    Untoggled d.page (d.sampleScroll x tracker interval).2.page :=
  ((untoggled_setInterval _ _).trans (untoggled_listen ..)).trans (untoggled_listen ..)

lemma untoggled_cancelSampler (sampler : SamplerId) :
    Untoggled d.page (d.cancelSampler sampler).page := by
  unfold BrowserDocument.cancelSampler
  split
  · next found _ =>
    cases found.interval with
    | none => exact untoggled_unlistenAll _
    | some id =>
      have cleared : Untoggled d.page (d.page.clearInterval id) := untoggled_of_elements rfl
      exact cleared.trans (untoggled_unlistenAll found.listeners)
  · exact .refl

lemma Untoggled.switches {p p' p'' : Page} {state : Bool} (one : Untoggled p p')
    (two : Switches x state p' p'') :
    Switches x state p p'' :=
  ⟨one.grown.trans two.grown, fun y there =>
    by rw [two.toggles y (there.trans_le one.grown), one.toggles y there]⟩

lemma switches_modify {p : Page} {state : Bool}
    (same : ∀ e, p.element? x = some e → toggle (f e) = switched state (toggle e)) :
    Switches x state p (p.modify x f) := by
  refine ⟨size_pageModify.ge, fun y _ => ?_⟩
  rw [toggle?_modify]
  unfold toggle?
  by_cases here : y = x
  · simp only [if_pos here, Option.map_map]
    exact Option.map_congr fun e found => same e (here ▸ found)
  · simp only [if_neg here]
    exact Option.map_id'.symm

lemma switched_of_input (state : Bool) {e : PageElement} (input : e.isInput = true) :
    switched state (toggle e) = toggle { e with checked := state } := if_pos (beq_iff_eq.1 input)

lemma switched_of_other (state : Bool) {e : PageElement} (other : e.isInput = false) :
    switched state (toggle e) = toggle e :=
  if_neg (beq_eq_false_iff_ne.1 other)

/-- Where nothing can be checked nothing needs to happen. -/
lemma switches_other {p : Page} {state : Bool}
    (other : ∀ e, p.element? x = some e → e.isInput = false) : Switches x state p p := by
  refine ⟨le_rfl, fun y _ => ?_⟩
  unfold toggle?
  cases found : p.element? y with
  | none => rfl
  | some e =>
    by_cases here : y = x
    · simp only [Option.map_some, if_pos here, switched_of_other state (other e (here ▸ found))]
    · simp only [Option.map_some, if_neg here]

lemma switches_setForm (hx : d.element? n = some x) (state : Bool) :
    Switches x state d.page (d.setForm n (.checked state)).page := by
  have eq : d.setForm n (.checked state) = d.onPage fun p => p.modify x fun e =>
      if e.isInput then { e with checked := state } else e :=
    onElement_of_element? hx _
  rw [eq]
  refine switches_modify fun e _ => ?_
  split
  · next input => exact (switched_of_input state input).symm
  · next other => exact (switched_of_other state (Bool.eq_false_iff.2 other)).symm

lemma switches_polished (hx : d.element? n = some x) :
    Switches x false d.page (polished d n).page := by
  have stripped (names : List String) (e : PageElement) :
      toggle (names.foldl PageElement.removeAttribute e) = toggle e := by
    induction names generalizing e with
    | nil => rfl
    | cons name names ih => exact ih _
  have bare : Untoggled d.page (d.modifyElement n BrowserDocument.stripped).page :=
    untoggled_modifyElement fun e => stripped _ e
  have same : (d.modifyElement n BrowserDocument.stripped).element? n = some x := by
    unfold BrowserDocument.modifyElement
    rw [onElement_of_element? hx]
    exact hx
  unfold polished
  rw [onElement_of_element? same]
  refine bare.switches ?_
  unfold BrowserDocument.onPage
  dsimp only
  generalize (d.modifyElement n BrowserDocument.stripped).page = p
  split
  · next input =>
    have emptied : Untoggled p (p.setValue x "") := by
      refine untoggled_modify ?_
      exact fun _ => rfl
    refine emptied.switches (switches_modify fun e found => ?_)
    have kept : (p.setValue x "").element? x = (p.element? x).map _ :=
      element?_modify.trans (if_pos rfl)
    rw [kept] at found
    obtain ⟨e₀, before, rfl⟩ := Option.map_eq_some_iff.1 found
    rw [before] at input
    exact (switched_of_input false input).symm
  · next other =>
    refine switches_other fun e found => ?_
    rw [found] at other
    exact Bool.eq_false_iff.2 other

lemma untoggled_hollowed : Untoggled d.page (hollowed d n).page := by
  refine (untoggled_detach (n := n)).trans ?_
  unfold hollowed
  dsimp only
  split
  · have blurred : Untoggled (d.detach n).page ((d.detach n).onPage Page.blur).page :=
      untoggled_of_elements rfl
    exact (blurred.trans untoggled_unobserve).trans (untoggled_setDocumentHtml "")
  · exact untoggled_unobserve.trans (untoggled_setDocumentHtml "")

lemma switches_reset (hx : d.element? n = some x) : Switches x false d.page (d.reset n).page := by
  rw [browser_reset_eq]
  refine (untoggled_hollowed.trans untoggled_silence).switches (switches_polished ?_)
  rw [level_silence.elements, (unwired_hollowed hx).element?, hx]

/-- Requests that have nothing to do with it leave everything as checked as before. -/
theorem untoggled_of_answer {r : DocumentRequest} {reply : r.Reply} (idle : sets? r = none)
    (run : BrowserDocument.answer r d = .ok (reply, d')) : Untoggled d.page d'.page := by
  have changed {n : NodeId} {f : BrowserDocument → BrowserDocument} {reply : Unit}
    (run : BrowserDocument.change n f d = .ok (reply, d'))
    (untoggled : Untoggled d.page (f d).page) : Untoggled d.page d'.page := by
    obtain ⟨_, _, rfl⟩ := browser_change_inv run
    exact untoggled
  have read {α : Type} {n : NodeId} {f : PageElement → α} {reply : α}
      (run : (do return f (← BrowserDocument.read n) : BrowserDocument.Checked α) d =
        .ok (reply, d')) : Untoggled d.page d'.page := by
    exact browser_read_map_inv run ▸ .refl
  cases r with
  | createElement kind =>
    exact browser_create_inv run ▸ untoggled_create _
  | appendChild p c =>
    obtain ⟨y, _, run⟩ := browser_require_bind_inv run
    exact changed run untoggled_append
  | detach n => exact changed run untoggled_detach
  | parent n =>
    obtain ⟨x, _, run⟩ := browser_require_bind_inv run
    cases run
    exact .refl
  | childCount n | innerHtml n | surfaceMetrics n => exact read run
  | reset n => cases idle
  | setAttribute n name value =>
    refine changed run (untoggled_modifyElement fun e => ?_)
    unfold PageElement.setAttribute
    split <;> rfl
  | removeAttribute n name => exact changed run (untoggled_modifyElement fun _ => rfl)
  | setStyle n property value => exact changed run (untoggled_modifyElement fun _ => rfl)
  | removeStyle n property => exact changed run (untoggled_modifyElement fun _ => rfl)
  | setLinkStyle n property value => exact changed run (untoggled_setLinkStyle property value)
  | setRootProperty name value =>
    cases run
    exact untoggled_onRoot fun _ => rfl
  | removeRootProperty name =>
    cases run
    exact untoggled_onRoot fun _ => rfl
  | setInnerHtml n html => exact changed run (untoggled_setDocumentHtml html)
  | setText n text => exact changed run (untoggled_setDocumentText text)
  | setForm n property =>
    have number (name : String) (x : Float) :
        Untoggled d.page (d.setProperty n (BrowserDocument.withNumber name x)).page :=
      untoggled_onElement fun _ => untoggled_setProperty fun _ => rfl
    cases property with
    | checked state => cases idle
    | inputType kind => exact changed run (untoggled_modifyWhere fun _ => rfl)
    | value text => exact changed run (untoggled_setValue text)
    | min x => exact changed run (number "min" x)
    | max x => exact changed run (number "max" x)
    | step x => exact changed run (number "step" x)
    | selectedIndex i => exact changed run (untoggled_modifyWhere fun _ => rfl)
    | scrollLeft x =>
      exact changed run (untoggled_onElement fun _ => untoggled_setProperty fun _ => rfl)
    | scrollTop x =>
      exact changed run (untoggled_onElement fun _ => untoggled_setProperty fun _ => rfl)
  | focus n => exact changed run (untoggled_onElement fun _ => untoggled_focus)
  | bindInput n id binding => exact changed run (untoggled_bind id binding)
  | observeSize n =>
    change (if d.observing = true then BrowserDocument.change n _ else pure ()) d =
      .ok (reply, d') at run
    split at run
    · exact changed run untoggled_observe
    · cases run
      exact .refl
  | unobserveSize n =>
    change (if d.observing = true then BrowserDocument.change n _ else pure ()) d =
      .ok (reply, d') at run
    split at run
    · exact changed run untoggled_unobserve
    · cases run
      exact .refl
  | sampleScroll n tracker interval =>
    obtain ⟨x, _, run⟩ := browser_require_bind_inv run
    obtain rfl : _ = d' := congrArg Prod.snd (Except.ok.inj run)
    exact untoggled_sampleScroll tracker interval
  | cancelSampler sampler =>
    obtain rfl : _ = d' := congrArg Prod.snd (Except.ok.inj run)
    exact untoggled_cancelSampler sampler
  | scrollDelta sampler now =>
    obtain rfl : _ = d' := congrArg Prod.snd (Except.ok.inj run)
    dsimp only
    split <;> exact .refl
  | clearSurface n => exact changed run (untoggled_onElement fun _ => untoggled_clearCanvas)
  | resizeSurface n width height scale =>
    exact changed run (untoggled_onElement fun _ => untoggled_resizeCanvas width height scale)
  | loadFace request =>
    cases run
    exact untoggled_loadFace request
  | loadImage request =>
    cases run
    exact untoggled_of_elements rfl

/-- The two others leave the element of their node in the state that they set. -/
theorem switches_of_answer {r : DocumentRequest} {reply : r.Reply} {state : Bool}
    (sets : sets? r = some (n, state))
    (run : BrowserDocument.answer r d = .ok (reply, d')) : ∃ x, d.element? n = some x ∧
      Switches x state d.page d'.page := by
  cases r with
  | reset k =>
    obtain ⟨rfl, rfl⟩ := Prod.mk.inj (Option.some.inj sets)
    have run : BrowserDocument.change k (fun d => d.reset k) d = .ok (reply, d') := run
    obtain ⟨x, hx, same⟩ := browser_change_inv run
    exact ⟨x, hx, same ▸ switches_reset hx⟩
  | setForm k property =>
    cases property with
    | checked state' =>
      obtain ⟨rfl, rfl⟩ := Prod.mk.inj (Option.some.inj sets)
      obtain ⟨x, hx, rfl⟩ := browser_change_inv run
      exact ⟨x, hx, switches_setForm hx state'⟩
    | _ => cases sets
  | _ => cases sets

end Documents

/-! ## Requests to a document in memory -/

/-- The kind of a node, and whether it is checked. -/
def held? (m : MemoryDocument) (n : NodeId) : Option (NodeKind × Bool) :=
  (m.node? n).map fun node => (node.kind, node.form.checked)

section Memory

variable {m m' : MemoryDocument} {n k : NodeId} {state : Bool}

lemma held?_map {f : MemoryNode → MemoryNode} (eq : m'.node? n = (m.node? n).map f)
    (same : ∀ node, ((f node).kind, (f node).form.checked) = (node.kind, node.form.checked)) :
    held? m' n = held? m n := by
  unfold held?
  rw [eq, Option.map_map]
  exact congrArg (fun g => (m.node? n).map g) (funext same)

lemma held?_modify {f : MemoryNode → MemoryNode}
    (same : ∀ node, ((f node).kind, (f node).form.checked) = (node.kind, node.form.checked)) :
    held? (m.modify k f) n = held? m n := by
  have edited : (m.modify k f).node? n = (m.node? n).map fun node =>
      if n = k then f node else node := by
    rw [node?_modify]
    split
    · rfl
    · exact Option.map_id'.symm
  refine held?_map edited fun node => ?_
  split
  · exact same node
  · rfl

/-- In memory, too, nothing else has to do with it. -/
theorem held?_of_idle {r : DocumentRequest} {reply : r.Reply} (linked : Linked m)
    (idle : sets? r = none)
    (old : ∀ kind, r ≠ .createElement kind) (run : answer r m = .ok (reply, m')) :
    held? m' n = held? m n := by
  cases r with
  | createElement kind => exact absurd rfl (old kind)
  | appendChild p c =>
    cases (require_inv (require_inv run).2).2
    exact held?_map (node?_append linked) fun _ => rfl
  | detach k =>
    cases (require_inv run).2
    exact held?_map (node?_detach linked) fun _ => rfl
  | reset k => cases idle
  | setInnerHtml k html | setText k text =>
    cases (require_inv run).2
    exact held?_map (node?_setHtml linked _) fun _ => rfl
  | parent k | childCount k | innerHtml k | surfaceMetrics k => rw [read_inv run]
  | setForm k property =>
    rw [change_inv run]
    cases property with
    | checked state => cases idle
    | _ => exact held?_modify fun _ => rfl
  | setAttribute k | removeAttribute k | setStyle k | removeStyle k | setLinkStyle k | bindInput k
    | clearSurface k | resizeSurface k =>
    rw [change_inv run]
    exact held?_modify fun _ => rfl
  | setRootProperty | removeRootProperty | loadFace | loadImage | focus | observeSize
    | unobserveSize | sampleScroll
  | cancelSampler =>
    cases run
    rfl
  | scrollDelta sampler now =>
    obtain rfl : _ = m' := congrArg Prod.snd (Except.ok.inj run)
    dsimp only
    split <;> rfl

theorem held?_of_set {r : DocumentRequest} {reply : r.Reply} (linked : Linked m)
    (sets : sets? r = some (k, state))
    (run : answer r m = .ok (reply, m')) : held? m' n = (held? m n).map fun t =>
      if n = k then (t.1, state) else t := by
  have edited {f g : MemoryNode → MemoryNode}
    (eq : m'.node? n = if n = k then (m.node? n).map f else (m.node? n).map g)
    (here : ∀ node, ((f node).kind, (f node).form.checked) = (node.kind, state))
    (there : ∀ node, ((g node).kind, (g node).form.checked) = (node.kind, node.form.checked)) :
      held? m' n = (held? m n).map fun t => if n = k then (t.1, state) else t := by
    unfold held?
    rw [eq]
    split
    · rw [Option.map_map, Option.map_map]
      exact congrArg (fun g => (m.node? n).map g) (funext here)
    · rw [Option.map_map, Option.map_map]
      exact congrArg (fun g => (m.node? n).map g) (funext there)
  cases r with
  | reset k' =>
    obtain ⟨rfl, rfl⟩ := Prod.mk.inj (Option.some.inj sets)
    cases (require_inv run).2
    exact edited (node?_reset linked) (fun _ => rfl) fun _ => rfl
  | setForm k' property =>
    cases property with
    | checked state' =>
      obtain ⟨rfl, rfl⟩ := Prod.mk.inj (Option.some.inj sets)
      rw [change_inv run] at edited ⊢
      refine edited (f := fun node => { node with form := node.form.set (.checked state') })
        (g := id) ?_ (fun _ => rfl)
        fun _ => rfl
      rw [node?_modify, Option.map_id]
      rfl
    | _ => cases sets
  | _ => cases sets

end Memory

/-! ## Both -/

/-- On a page the inputs of a document are as checked as they are in memory. -/
def Matched (m : MemoryDocument) (d : BrowserDocument) : Prop :=
  ∀ n x state, d.element? n = some x → held? m n = some (.input, state) →
    toggle? d.page x = some ("input", state)

section Both

variable {g : Ground} {m m' : MemoryDocument} {d d' : BrowserDocument} {n k : NodeId} {state : Bool}

/-- What is created is not checked. -/
lemma Matched.create (matched : Matched m d) (reflects : Reflects g m d) (kind : NodeKind) :
    Matched (m.create kind).2 (d.create kind).2 := by
  intro n x state hx held
  have made : (m.create kind).1 = ⟨d.slots.size⟩ := congrArg NodeId.mk reflects.size.symm
  unfold held? at held
  rw [node?_create, made] at held
  rw [element?_create] at hx
  by_cases new : n = ⟨d.slots.size⟩
  · rw [if_pos new] at hx held
    cases hx
    obtain ⟨rfl, rfl⟩ := Prod.mk.inj (Option.some.inj held)
    exact congrArg (Option.map toggle) Array.getElem?_push_size
  · rw [if_neg new] at hx held
    exact ((untoggled_create kind.tagName).toggles x (reflects.shows.placed n x hx)).trans
      (matched n x state hx held)

/-- Both documents answer, and the inputs are again checked alike. -/
theorem Matched.answer {r : DocumentRequest} {reply reply' : r.Reply} (matched : Matched m d)
    (reflects : Reflects g m d) (run : MemoryDocument.answer r m = .ok (reply, m'))
    (run' : BrowserDocument.answer r d = .ok (reply', d')) : Matched m' d' := by
  by_cases new : ∃ kind, r = .createElement kind
  · obtain ⟨kind, rfl⟩ := new
    cases run
    exact browser_create_inv run' ▸ matched.create reflects kind
  have old : ∀ kind, r ≠ .createElement kind := not_exists.1 new
  -- Every element of `d'` was one of `d`, and the node that it is of is the same.
  have before {n : NodeId} {x : ElementId} (hx : d'.element? n = some x) {held : NodeKind × Bool}
    (hn : held? m n = some held) :
      d.element? n = some x := by
    obtain ⟨node, found, _⟩ := Option.map_eq_some_iff.1 hn
    obtain ⟨y, hy⟩ := reflects.exists_element? (issued_of_node? found)
    rw [← hx, (answer_rewires run').element? hy, hy]
  intro n x state hx held
  cases sets : sets? r with
  | none =>
    rw [held?_of_idle reflects.linked sets old run] at held
    have there := before hx held
    exact ((untoggled_of_answer sets run').toggles x (reflects.shows.placed n x there)).trans
      (matched n x state there held)
  | some switch =>
    obtain ⟨k, left⟩ := switch
    obtain ⟨y, hy, switches⟩ := switches_of_answer sets run'
    rw [held?_of_set reflects.linked sets run] at held
    obtain ⟨⟨kind, was⟩, hn, is⟩ := Option.map_eq_some_iff.1 held
    have there := before hx hn
    have same : x = y ↔ n = k :=
      ⟨fun here => reflects.shows.distinct n k y (here ▸ there) hy, fun here =>
        Option.some.inj (there.symm.trans (here ▸ hy))⟩
    rw [switches.toggles x (reflects.shows.placed n x there)]
    by_cases here : n = k
    · rw [if_pos here] at is
      cases is
      rw [matched n x was there hn, Option.map_some, if_pos (same.2 here)]
      rfl
    · rw [if_neg here] at is
      cases is
      rw [matched n x state there hn, Option.map_some, if_neg (here ∘ same.1)]

/-- Whoever is the element of a node stays so. -/
def Retains (d d' : BrowserDocument) : Prop := ∀ n x, d.element? n = some x → d'.element? n = some x

/-- Proper steps keep them alike. -/
theorem Concert.matches {α : Type} {past : List CoreCall} {outside : List Registration}
    {alien : List Nat} {h : MemoryHost Recorder}
    {l : Licence} {script : Script Patching α} (concert : Concert g past outside alien h d)
    (matched : Matched h.document d) (behaves : Behaves 1 l script h) :
    Concur (fun h' d' => Concert g past outside alien h' d' ∧ Matched h'.document d' ∧ Retains d d')
      (MemoryHost.serve script h) (Script.run BrowserDocument.answerPatch script d) := by
  refine concur_of_behaves (fun r h₁ d₁ becoming related => ?_) behaves
    ⟨concert, matched, fun _ _ hx => hx⟩
  obtain ⟨concert₁, matched₁, retained⟩ := related
  obtain ⟨reply, h₂, d₂, run, run', concert₂, _⟩ := concert₁.answer becoming
  refine ⟨reply, h₂, d₂, run, run', concert₂, ?_⟩
  cases r with
  | document r =>
    change (MemoryDocument.answer r h₁.document).bind _ = _ at run
    cases asked : MemoryDocument.answer r h₁.document with
    | error why =>
      rw [asked] at run
      cases run
    | ok q =>
      rw [asked] at run
      cases run
      exact ⟨matched₁.answer concert₁.toReflects asked run', fun n x hx =>
        (answer_rewires run').element? (retained n x hx)⟩
  | addContext layer | removeContext layer =>
    cases run
    cases run'
    exact ⟨matched₁, retained⟩
  | imageLoaded path =>
    obtain rfl : _ = h₂ := congrArg Prod.snd (Except.ok.inj run)
    obtain rfl : _ = d₂ := congrArg Prod.snd (Except.ok.inj run')
    exact ⟨matched₁, retained⟩

end Both

end LayeredPage.Proofs
