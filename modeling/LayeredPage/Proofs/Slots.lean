import LayeredPage.Browser.Document
import LayeredPage.Proofs.PageTree
import LayeredPage.Proofs.Reaching

/-!
# The slots of a document on a page

The slots record the tree as the chassis built it. Each change of the tree changes them just as it
changes the nodes of a document in memory, and changes the tree of the page beside them; most
requests change neither.
-/

namespace LayeredPage.Proofs

/-! ## Recorded ties -/

/-- The parent and the children that are on record for a node. -/
structure Tie where
  parent : Option NodeId
  children : List NodeId

abbrev Ties := Array Tie

namespace Ties

def parent? (t : Ties) (n : NodeId) : Option NodeId := (t[n.index]?).bind (·.parent)

def children (t : Ties) (n : NodeId) : List NodeId := ((t[n.index]?).map (·.children)).getD []

def loosen (t : Ties) (n : NodeId) : Ties := t.modify n.index fun tie => { tie with parent := none }

def detach (t : Ties) (n : NodeId) : Ties :=
  match t.parent? n with
  | some p =>
    (t.loosen n).modify p.index fun tie => { tie with children := tie.children.filter (· ≠ n) }
  | none => t

def append (t : Ties) (p c : NodeId) : Ties :=
  ((t.detach c).modify p.index fun tie =>
    { tie with children := tie.children ++ [c] }).modify c.index
    fun tie => { tie with parent := some p }

def orphan (t : Ties) (n : NodeId) : Ties :=
  (t.children n).foldl loosen (t.modify n.index fun tie => { tie with children := [] })

end Ties

section Arrays

variable {α β : Type} {xs : Array α} {i : Nat} {f : α → α} {g : β → β} {view : α → β}

lemma map_modify_of_commutes (commutes : ∀ a, view (f a) = g (view a)) :
    (xs.modify i f).map view = (xs.map view).modify i g := by
  refine Array.ext_getElem? fun j => ?_
  rw [Array.getElem?_map, Array.getElem?_modify, Array.getElem?_modify, Array.getElem?_map]
  split
  · cases xs[j]? with
    | none => rfl
    | some a => exact congrArg some (commutes a)
  · rfl

lemma map_modify_of_hidden (hidden : ∀ a, view (f a) = view a) :
    (xs.modify i f).map view = xs.map view := by
  refine Array.ext_getElem? fun j => ?_
  rw [Array.getElem?_map, Array.getElem?_modify, Array.getElem?_map]
  split
  · cases xs[j]? with
    | none => rfl
    | some a => exact congrArg some (hidden a)
  · rfl

end Arrays

/-- The ties that the nodes of a document in memory have. -/
def nodeTies (m : MemoryDocument) : Ties := m.nodes.map fun node => ⟨node.parent, node.children⟩

/-- The ties that a document on a page has on record. -/
def slotTies (d : BrowserDocument) : Ties := d.slots.map fun slot => ⟨slot.parent, slot.children⟩

/-- What the slots hold beside the ties. -/
def faces (d : BrowserDocument) : Array (ElementId × List Registration) :=
  d.slots.map fun slot => (slot.element, slot.listeners)

section Nodes

variable {m : MemoryDocument} {n p c : NodeId}

lemma parent?_nodeTies : (nodeTies m).parent? n = m.parent? n := by
  unfold Ties.parent? nodeTies MemoryDocument.parent? MemoryDocument.node?
  rw [Array.getElem?_map]
  cases m.nodes[n.index]? <;> rfl

lemma children_nodeTies : (nodeTies m).children n = m.children n := by
  unfold Ties.children nodeTies MemoryDocument.children MemoryDocument.node?
  rw [Array.getElem?_map]
  cases m.nodes[n.index]? <;> rfl

lemma nodeTies_modify {f : MemoryNode → MemoryNode} {g : Tie → Tie}
    (shows : ∀ node, (⟨(f node).parent, (f node).children⟩ : Tie) =
      g ⟨node.parent, node.children⟩) :
    nodeTies (m.modify n f) = (nodeTies m).modify n.index g := map_modify_of_commutes shows

lemma nodeTies_kept {f : MemoryNode → MemoryNode}
    (kept : ∀ node, (⟨(f node).parent, (f node).children⟩ : Tie) = ⟨node.parent, node.children⟩) :
    nodeTies (m.modify n f) = nodeTies m := map_modify_of_hidden kept

lemma nodeTies_detach : nodeTies (m.detach n) = (nodeTies m).detach n := by
  unfold MemoryDocument.detach Ties.detach Ties.loosen
  rw [parent?_nodeTies]
  cases m.parent? n with
  | none => rfl
  | some p =>
    dsimp only
    rw [nodeTies_modify (g := fun tie => { tie with children := tie.children.filter (· ≠ n) })
      fun _ => rfl,
      nodeTies_modify (g := fun tie => { tie with parent := none }) fun _ => rfl]

lemma nodeTies_append : nodeTies (m.append p c) = (nodeTies m).append p c := by
  unfold MemoryDocument.append Ties.append
  rw [nodeTies_modify (g := fun tie => { tie with parent := some p }) fun _ => rfl,
    nodeTies_modify (g := fun tie => { tie with children := tie.children ++ [c] }) fun _ =>
      rfl, nodeTies_detach]

lemma nodeTies_clearChildren : nodeTies (m.clearChildren n) = (nodeTies m).orphan n := by
  have loosened (cs : List NodeId) (m : MemoryDocument) :
      nodeTies (cs.foldl (fun m c => m.modify c fun node => { node with parent := none }) m) =
        cs.foldl Ties.loosen (nodeTies m) := by
    induction cs generalizing m with
    | nil => rfl
    | cons c cs ih =>
      rw [List.foldl_cons, List.foldl_cons, ih]
      congr 1
      exact nodeTies_modify fun _ => rfl
  unfold MemoryDocument.clearChildren Ties.orphan
  rw [loosened, children_nodeTies,
    nodeTies_modify (g := fun tie => { tie with children := [] }) fun _ => rfl]

lemma nodeTies_setHtml (html : String) : nodeTies (m.setHtml n html) = (nodeTies m).orphan n := by
  unfold MemoryDocument.setHtml
  rw [nodeTies_kept, nodeTies_clearChildren]
  exact fun _ => rfl

end Nodes

/-! ## Changes of the tree -/

/-- The tree was changed, on the page and on record, and nothing else was. -/
structure Moved (d d' : BrowserDocument) (page : Page) (ties : Ties) : Prop where
  page : d'.page = page
  ties : slotTies d' = ties
  faces : faces d' = faces d
  samplers : d'.samplers = d.samplers
  observing : d'.observing = d.observing

section Slots

variable {d d' : BrowserDocument} {n p c k : NodeId} {x y : ElementId}

lemma element?_eq : d.element? k = ((faces d)[k.index]?).map (·.1) := by
  unfold BrowserDocument.element? BrowserDocument.slot? faces
  rw [Array.getElem?_map]
  cases d.slots[k.index]? <;> rfl

lemma element?_of_faces (same : faces d' = faces d) : d'.element? k = d.element? k := by
  rw [element?_eq, element?_eq, same]

lemma parent?_slotTies : (slotTies d).parent? n = d.parent? n := by
  unfold Ties.parent? slotTies BrowserDocument.parent? BrowserDocument.slot?
  rw [Array.getElem?_map]
  cases d.slots[n.index]? <;> rfl

lemma children_slotTies : (slotTies d).children n = d.children n := by
  unfold Ties.children slotTies BrowserDocument.children BrowserDocument.slot?
  rw [Array.getElem?_map]
  cases d.slots[n.index]? <;> rfl

/-- A change of the ties of one slot. -/
lemma moved_modifySlot {f : Slot → Slot} {g : Tie → Tie}
    (shows : ∀ slot, (⟨(f slot).parent, (f slot).children⟩ : Tie) = g ⟨slot.parent, slot.children⟩)
    (kept : ∀ slot, ((f slot).element, (f slot).listeners) = (slot.element, slot.listeners)) :
    Moved d (d.modifySlot n f) d.page ((slotTies d).modify n.index g) :=
  ⟨rfl, map_modify_of_commutes shows, map_modify_of_hidden kept, rfl, rfl⟩

lemma Moved.trans {d'' : BrowserDocument} {page page' : Page} {ties ties' : Ties}
    (one : Moved d d' page ties) (two : Moved d' d'' page' ties') : Moved d d'' page' ties' :=
  ⟨two.page, two.ties, two.faces.trans one.faces, two.samplers.trans one.samplers,
    two.observing.trans one.observing⟩

lemma onElement_of_element? (hx : d.element? n = some x) (f : ElementId → Page → Page) :
    d.onElement n f = d.onPage (f x) := by
  unfold BrowserDocument.onElement
  rw [hx]

lemma moved_detach (hx : d.element? n = some x) :
    Moved d (d.detach n) (d.page.remove x) ((slotTies d).detach n) := by
  unfold BrowserDocument.detach Ties.detach Ties.loosen
  rw [onElement_of_element? hx, parent?_slotTies]
  have same : (d.onPage fun p => p.remove x).parent? n = d.parent? n := rfl
  dsimp only
  rw [same]
  cases d.parent? n with
  | none => exact ⟨rfl, rfl, rfl, rfl, rfl⟩
  | some p =>
    have first : Moved (d.onPage fun p => p.remove x) _ _ _ :=
      moved_modifySlot (n := n) (f := fun slot => { slot with parent := none })
        (g := fun tie => { tie with parent := none })
        (fun _ => rfl) fun _ => rfl
    have second :=
      moved_modifySlot (d := (d.onPage fun p => p.remove x).modifySlot n fun slot =>
        { slot with parent := none })
      (n := p) (f := fun slot => { slot with children := slot.children.filter (· ≠ n) })
      (g := fun tie => { tie with children := tie.children.filter (· ≠ n) })
        (fun _ => rfl) fun _ => rfl
    rw [first.ties] at second
    have both := first.trans second
    exact ⟨both.page, both.ties, both.faces, both.samplers, both.observing⟩

/-- A node is hung where the page does not refuse it. -/
lemma moved_append {elements : Array PageElement} (hp : d.element? p = some x)
    (hc : d.element? c = some y)
    (hung : (d.page.remove y).append? x y = some { d.page.remove y with elements }) :
    Moved d (d.append p c) { d.page.remove y with elements } ((slotTies d).append p c) := by
  have loose := moved_detach hc
  have above : (d.detach c).element? p = some x := (element?_of_faces loose.faces).trans hp
  have below : (d.detach c).element? c = some y := (element?_of_faces loose.faces).trans hc
  unfold BrowserDocument.append Ties.append
  dsimp only
  rw [above, below]
  dsimp only
  rw [loose.page, hung]
  dsimp only
  have first : Moved { d.detach c with page := { d.page.remove y with elements } } _ _ _ :=
    moved_modifySlot (n := p) (f := fun slot => { slot with children := slot.children ++ [c] })
      (g := fun tie => { tie with children := tie.children ++ [c] }) (fun _ => rfl) fun _ => rfl
  have second :=
    moved_modifySlot
      (d := { d.detach c with page := { d.page.remove y with elements } }.modifySlot p
      fun slot => { slot with children := slot.children ++ [c] })
    (n := c) (f := fun slot => { slot with parent := some p })
      (g := fun tie => { tie with parent := some p })
    (fun _ => rfl) fun _ => rfl
  rw [first.ties] at second
  have both := first.trans second
  refine ⟨both.page, both.ties.trans ?_, both.faces.trans loose.faces,
    both.samplers.trans loose.samplers,
    both.observing.trans loose.observing⟩
  rw [← loose.ties]
  rfl

lemma moved_orphan : Moved d (d.orphan n) d.page ((slotTies d).orphan n) := by
  have loosened (cs : List NodeId) (d : BrowserDocument) :
      Moved d
        (cs.foldl (fun d c => d.modifySlot c fun slot => { slot with parent := none }) d) d.page
        (cs.foldl Ties.loosen (slotTies d)) := by
    induction cs generalizing d with
    | nil => exact ⟨rfl, rfl, rfl, rfl, rfl⟩
    | cons c cs ih =>
      have first : Moved d _ _ _ :=
        moved_modifySlot (n := c) (f := fun slot => { slot with parent := none })
        (g := fun tie => { tie with parent := none }) (fun _ => rfl) fun _ => rfl
      have rest := ih (d.modifySlot c fun slot => { slot with parent := none })
      rw [first.ties] at rest
      exact first.trans rest
  have first : Moved d _ _ _ :=
    moved_modifySlot (n := n) (f := fun slot => { slot with children := [] })
    (g := fun tie => { tie with children := [] }) (fun _ => rfl) fun _ => rfl
  have rest := loosened (d.children n) (d.modifySlot n fun slot => { slot with children := [] })
  rw [first.ties] at rest
  unfold BrowserDocument.orphan Ties.orphan
  rw [children_slotTies]
  exact first.trans rest

lemma moved_content {f : ElementId → Page → Page} (hx : d.element? n = some x) :
    Moved d ((d.orphan n).onElement n f) (f x d.page) ((slotTies d).orphan n) := by
  have loose := moved_orphan (d := d) (n := n)
  rw [onElement_of_element? ((element?_of_faces loose.faces).trans hx)]
  exact ⟨congrArg (f x) loose.page, loose.ties, loose.faces, loose.samplers, loose.observing⟩

end Slots

/-! ## Changes that do not show -/

/-- Only the page changed, and nobody can tell. -/
def Unnoticed (d d' : BrowserDocument) : Prop := ∃ page, d' = { d with page } ∧ Neutral d.page page

section Unnoticed

variable {d d' d'' : BrowserDocument} {n : NodeId}

lemma Unnoticed.refl : Unnoticed d d := ⟨d.page, rfl, .refl⟩

lemma Unnoticed.trans (one : Unnoticed d d') (two : Unnoticed d' d'') : Unnoticed d d'' := by
  obtain ⟨page, rfl, neutral⟩ := one
  obtain ⟨page', rfl, neutral'⟩ := two
  exact ⟨page', rfl, neutral.trans neutral'⟩

lemma Unnoticed.samplers (unnoticed : Unnoticed d d') : d'.samplers = d.samplers := by
  obtain ⟨page, rfl, _⟩ := unnoticed
  rfl

lemma unnoticed_onPage {f : Page → Page} (neutral : Neutral d.page (f d.page)) :
    Unnoticed d (d.onPage f) := ⟨_, rfl, neutral⟩

lemma unnoticed_onElement {f : ElementId → Page → Page}
    (neutral : ∀ x, Neutral d.page (f x d.page)) :
    Unnoticed d (d.onElement n f) := by
  unfold BrowserDocument.onElement
  split
  · exact unnoticed_onPage (neutral _)
  · exact .refl

lemma unnoticed_modifyElement {f : PageElement → PageElement}
    (same : ∀ element, outline (f element) = outline element) :
    Unnoticed d (d.modifyElement n f) := unnoticed_onElement fun _ => neutral_modify same

lemma unnoticed_modifyWhere {which : PageElement → Bool} {f : PageElement → PageElement}
    (same : ∀ element, outline (f element) = outline element) :
    Unnoticed d (d.modifyWhere n which f) := by
  refine unnoticed_modifyElement fun element => ?_
  split
  · exact same element
  · rfl

lemma outline_setAttribute (name value : String) (element : PageElement) :
    outline (element.setAttribute name value) = outline element := by
  unfold PageElement.setAttribute
  split
  · rfl
  · rfl

lemma outline_stripped (element : PageElement) :
    outline (BrowserDocument.stripped element) = outline element := by
  have taken (names : List String) (element : PageElement) :
      outline (names.foldl PageElement.removeAttribute element) = outline element := by
    induction names generalizing element with
    | nil => rfl
    | cons name names ih => exact ih _
  exact taken _ element

lemma unnoticed_setValue (value : String) : Unnoticed d (d.setValue n value) := by
  refine unnoticed_onElement fun x => ?_
  split
  · split
    · exact .refl
    · dsimp only
      split
      · split
        · exact (neutral_setValue value).trans (neutral_selectRange _ _)
        · exact neutral_setValue value
      · exact neutral_setValue value
  · exact .refl

lemma unnoticed_setForm (property : FormProperty) : Unnoticed d (d.setForm n property) := by
  have number (name : String) (x : Float) :
      Unnoticed d (d.setProperty n (BrowserDocument.withNumber name x)) :=
    unnoticed_onElement fun _ => neutral_setProperty fun _ => rfl
  cases property with
  | inputType kind => exact unnoticed_modifyWhere fun _ => rfl
  | value text => exact unnoticed_setValue text
  | checked state => exact unnoticed_modifyWhere fun _ => rfl
  | min x => exact number "min" x
  | max x => exact number "max" x
  | step x => exact number "step" x
  | selectedIndex i => exact unnoticed_modifyWhere fun _ => rfl
  | scrollLeft x => exact unnoticed_onElement fun _ => neutral_setProperty fun _ => rfl
  | scrollTop x => exact unnoticed_onElement fun _ => neutral_setProperty fun _ => rfl

lemma unnoticed_setLinkStyle (property value : String) :
    Unnoticed d (d.setLinkStyle n property value) := by
  refine unnoticed_onElement fun x => ?_
  split
  · exact .refl
  · refine neutral_foldl _ (fun p link => neutral_modify ?_) _
    exact fun _ => rfl

lemma unnoticed_onRoot {f : PageElement → PageElement}
    (same : ∀ element, outline (f element) = outline element) :
    Unnoticed d (d.onRoot f) := by
  unfold BrowserDocument.onRoot
  split
  · exact .refl
  · exact unnoticed_onPage (neutral_modify same)

lemma unnoticed_observe : Unnoticed d (d.observe n) := by
  unfold BrowserDocument.observe
  split
  · exact unnoticed_onElement fun _ => neutral_of_elements rfl rfl rfl rfl rfl
  · exact .refl

lemma unnoticed_unobserve : Unnoticed d (d.unobserve n) := by
  unfold BrowserDocument.unobserve
  split
  · exact unnoticed_onElement fun _ => neutral_of_elements rfl rfl rfl rfl rfl
  · exact .refl

end Unnoticed

/-! ## Changes beside the tree -/

/-- Neither the tree on the page nor the one on record changed, and each node has the element that
it had. -/
structure Level (d d' : BrowserDocument) : Prop where
  ties : slotTies d' = slotTies d
  elements : ∀ n, d'.element? n = d.element? n
  page : Bland d.page d'.page

section Level

variable {d d' d'' : BrowserDocument} {n : NodeId} {x : ElementId}

lemma Level.refl : Level d d := ⟨rfl, fun _ => rfl, .refl⟩

lemma Level.trans (one : Level d d') (two : Level d' d'') : Level d d'' :=
  ⟨two.ties.trans one.ties, fun n => (two.elements n).trans (one.elements n),
    one.page.trans two.page⟩

lemma level_of_page {page : Page} (plain : Bland d.page page) : Level d { d with page } :=
  ⟨rfl, fun _ => rfl, plain⟩

lemma Unnoticed.level (unnoticed : Unnoticed d d') : Level d d' := by
  obtain ⟨page, rfl, neutral⟩ := unnoticed
  exact level_of_page neutral.toBland

/-- Only listeners on record change. -/
lemma level_modifySlot {f : Slot → Slot}
    (kept : ∀ slot, (f slot).element = slot.element ∧ (f slot).parent = slot.parent ∧
      (f slot).children = slot.children) :
    Level d (d.modifySlot n f) := by
  refine ⟨map_modify_of_hidden fun slot => ?_, fun k => ?_, .refl⟩
  · rw [(kept slot).2.1, (kept slot).2.2]
  · unfold BrowserDocument.element? BrowserDocument.slot? BrowserDocument.modifySlot
    rw [Array.getElem?_modify]
    split
    · cases d.slots[k.index]? with
      | none => rfl
      | some slot => exact congrArg some (kept slot).1
    · rfl

lemma level_silence : Level d (d.silence n) := by
  unfold BrowserDocument.silence
  split
  · next slot _ =>
    have first : Level d (d.modifySlot n fun slot => { slot with listeners := [] }) :=
      level_modifySlot fun _ => ⟨rfl, rfl, rfl⟩
    exact first.trans (level_of_page (plain_unlistenAll slot.listeners _))
  · exact .refl

lemma level_listen (event : String) (options : ListenerOptions) (handler : Handler) :
    Level d (d.listen x event options handler).2 :=
  level_of_page (plain_listen _ event options handler)

lemma level_bind (id : UInt32) (binding : InputBinding) : Level d (d.bind n id binding) := by
  unfold BrowserDocument.bind
  split
  · refine (level_listen binding.event .bubbling _).trans (level_modifySlot ?_)
    exact fun _ => ⟨rfl, rfl, rfl⟩
  · exact .refl

lemma level_sampleScroll (tracker : ScrollTracker Float) (interval : UInt32) :
    Level d (d.sampleScroll x tracker interval).2 := by
  have timed : Level d { d with page := (d.page.setInterval ⟨d.samplers.size⟩ interval.toNat).2 } :=
    level_of_page (plain_setInterval _ _)
  have both :=
    (timed.trans
      (level_listen (x := x) "touchstart" .capturingPassive
        (.touching ⟨d.samplers.size⟩ true))).trans
    (level_listen (x := x) "touchend" .capturingPassive (.touching ⟨d.samplers.size⟩ false))
  exact ⟨both.ties, both.elements, both.page⟩

lemma level_cancelSampler (sampler : SamplerId) : Level d (d.cancelSampler sampler) := by
  unfold BrowserDocument.cancelSampler
  split
  · next found _ =>
    cases found.interval with
    | none => exact ⟨rfl, fun _ => rfl, plain_unlistenAll found.listeners _⟩
    | some id =>
      exact ⟨rfl, fun _ => rfl,
        (plain_clearInterval id).trans (plain_unlistenAll found.listeners _)⟩
  · exact .refl

lemma size_silence : (d.silence n).samplers.size = d.samplers.size := by
  unfold BrowserDocument.silence
  split <;> rfl

lemma size_bind (id : UInt32) (binding : InputBinding) :
    (d.bind n id binding).samplers.size = d.samplers.size := by
  unfold BrowserDocument.bind
  split <;> rfl

lemma size_sampleScroll (tracker : ScrollTracker Float) (interval : UInt32) :
    (d.sampleScroll x tracker interval).2.samplers.size = d.samplers.size + 1 := Array.size_push _

lemma size_cancelSampler (sampler : SamplerId) :
    (d.cancelSampler sampler).samplers.size = d.samplers.size := by
  unfold BrowserDocument.cancelSampler
  split
  · next found _ =>
    cases found.interval with
    | none => exact Array.size_modify
    | some id => exact Array.size_modify
  · rfl

end Level

/-! ## Resetting -/

/-- A node on its way back: out of the tree, without focus and content. -/
def hollowed (d : BrowserDocument) (n : NodeId) : BrowserDocument :=
  let d := d.detach n
  ((if d.isFocused n then d.onPage Page.blur else d).unobserve n).setHtml n ""

/-- An element with nothing written on it. -/
def polished (d : BrowserDocument) (n : NodeId) : BrowserDocument :=
  (d.modifyElement n BrowserDocument.stripped).onElement n fun e p =>
    if (p.element? e).any (·.isInput) then (p.setValue e "").modify e
      fun element => { element with checked := false } else p

section Resetting

variable {d : BrowserDocument} {n : NodeId}

lemma browser_reset_eq : d.reset n = polished ((hollowed d n).silence n) n := rfl

lemma unnoticed_polished : Unnoticed d (polished d n) := by
  refine (unnoticed_modifyElement outline_stripped).trans (unnoticed_onElement fun x => ?_)
  split
  · refine (neutral_setValue "").trans (neutral_modify ?_)
    exact fun _ => rfl
  · exact .refl

/-- Between leaving the tree and losing its content nobody notices anything. -/
lemma unnoticed_before_content : Unnoticed (d.detach n)
    ((if (d.detach n).isFocused n then (d.detach n).onPage Page.blur else d.detach
      n).unobserve n) := by
  refine Unnoticed.trans ?_ unnoticed_unobserve
  split
  · exact unnoticed_onPage neutral_blur
  · exact .refl

end Resetting

/-! ## Answers -/

section Answers

variable {d : BrowserDocument} {n p c : NodeId} {x y : ElementId}

lemma browser_require (hx : d.element? n = some x) : BrowserDocument.require n d = .ok (x, d) := by
  unfold BrowserDocument.require
  simp [hx, bind, StateT.bind, get, getThe, MonadStateOf.get, StateT.get, Except.bind, pure,
    Except.pure, StateT.pure]

lemma browser_read {element : PageElement} (hx : d.element? n = some x)
    (he : d.page.element? x = some element) :
    BrowserDocument.read n d = .ok (element, d) := by
  unfold BrowserDocument.read
  simp [browser_require hx, he, bind, StateT.bind, get, getThe, MonadStateOf.get, StateT.get,
    Except.bind, pure, Except.pure,
    StateT.pure]

lemma browser_change (hx : d.element? n = some x) (f : BrowserDocument → BrowserDocument) :
    BrowserDocument.change n f d = .ok ((), f d) := by
  unfold BrowserDocument.change
  simp only [bind, StateT.bind, browser_require hx]
  rfl

lemma browser_require_inv {d' : BrowserDocument} (run : BrowserDocument.require n d = .ok (x, d')) :
    d.element? n = some x ∧ d' = d := by
  cases hx : d.element? n with
  | none =>
    unfold BrowserDocument.require at run
    simp [hx, bind, StateT.bind, get, getThe, MonadStateOf.get, StateT.get, Except.bind,
      pure, Except.pure] at run
    cases run
  | some y =>
    rw [browser_require hx] at run
    cases run
    exact ⟨rfl, rfl⟩

lemma browser_require_bind_inv {α : Type} {f : ElementId → BrowserDocument.Checked α}
    {d' : BrowserDocument} {reply : α}
    (run : (BrowserDocument.require n >>= f) d = .ok (reply, d')) : ∃ x, d.element? n = some x ∧
      f x d = .ok (reply, d') := by
  change (BrowserDocument.require n d).bind (fun r => f r.1 r.2) = _ at run
  cases required : BrowserDocument.require n d with
  | error why =>
    rw [required] at run
    cases run
  | ok r =>
    obtain ⟨hx, same⟩ := browser_require_inv required
    rw [required] at run
    exact ⟨r.1, hx, same ▸ run⟩

lemma browser_change_inv {f : BrowserDocument → BrowserDocument}
    {d' : BrowserDocument} {reply : Unit} (run : BrowserDocument.change n f d = .ok (reply, d')) :
    ∃ x, d.element? n = some x ∧ d' = f d := by
  obtain ⟨x, hx, changed⟩ := browser_require_bind_inv run
  cases changed
  exact ⟨x, hx, rfl⟩

lemma browser_read_inv {element : PageElement} {d' : BrowserDocument}
    (run : BrowserDocument.read n d = .ok (element, d')) :
    d' = d := by
  obtain ⟨x, _, looked⟩ := browser_require_bind_inv run
  simp only [bind, StateT.bind, get, getThe, MonadStateOf.get, StateT.get, Except.bind, pure,
    Except.pure] at looked
  cases there : d.page.element? x with
  | none =>
    rw [there] at looked
    cases looked
  | some element =>
    rw [there] at looked
    cases looked
    rfl

/-- What is read off an element leaves the document as it is. -/
lemma browser_read_map_inv {α : Type} {f : PageElement → α} {d' : BrowserDocument} {reply : α}
    (run : (do return f (← BrowserDocument.read n) : BrowserDocument.Checked α) d =
      .ok (reply, d')) : d' = d := by
  change (BrowserDocument.read n d).bind (fun r => .ok (f r.1, r.2)) = _ at run
  cases seen : BrowserDocument.read n d with
  | error why =>
    rw [seen] at run
    cases run
  | ok r =>
    rw [seen] at run
    cases run
    exact browser_read_inv seen

lemma browser_create_inv {kind : NodeKind} {d' : BrowserDocument} {reply : NodeId}
    (run : BrowserDocument.answer (.createElement kind) d = .ok (reply, d')) :
    d' = (d.create kind).2 := by
  simp only [BrowserDocument.answer, bind, StateT.bind, get, getThe, MonadStateOf.get,
    StateT.get, Except.bind, pure,
    Except.pure] at run
  split at run
  · cases run
  · cases run
    rfl

/-- Requests that change neither the tree nor what is listened to. -/
def Inconspicuous : DocumentRequest → Prop
  | .setAttribute .. | .removeAttribute .. | .setStyle .. | .removeStyle .. | .setLinkStyle ..
    | .setRootProperty ..
  | .removeRootProperty .. | .setForm .. | .focus .. | .observeSize ..
    | .unobserveSize .. | .clearSurface ..
  | .resizeSurface .. | .loadFace .. | .loadImage .. => True
  | _ => False

/-- Nobody notices that they were answered. -/
theorem unnoticed_of_answer {r : DocumentRequest} {reply : r.Reply} {d' : BrowserDocument}
    (plain : Inconspicuous r)
    (run : BrowserDocument.answer r d = .ok (reply, d')) : Unnoticed d d' := by
  have changed {n : NodeId} {f : BrowserDocument → BrowserDocument} {reply : Unit}
    (run : BrowserDocument.change n f d = .ok (reply, d'))
    (unnoticed : Unnoticed d (f d)) : Unnoticed d d' := by
    obtain ⟨_, _, rfl⟩ := browser_change_inv run
    exact unnoticed
  cases r with
  | setAttribute n name value =>
    exact changed run (unnoticed_modifyElement (outline_setAttribute name value))
  | removeAttribute n name => exact changed run (unnoticed_modifyElement fun _ => rfl)
  | setStyle n property value => exact changed run (unnoticed_modifyElement fun _ => rfl)
  | removeStyle n property => exact changed run (unnoticed_modifyElement fun _ => rfl)
  | setLinkStyle n property value => exact changed run (unnoticed_setLinkStyle property value)
  | setForm n property => exact changed run (unnoticed_setForm property)
  | focus n => exact changed run (unnoticed_onElement fun _ => neutral_focus)
  | clearSurface n => exact changed run (unnoticed_onElement fun _ => neutral_clearCanvas)
  | resizeSurface n width height scale =>
    exact changed run (unnoticed_onElement fun _ => neutral_resizeCanvas width height scale)
  | setRootProperty name value =>
    cases run
    exact unnoticed_onRoot fun _ => rfl
  | removeRootProperty name =>
    cases run
    exact unnoticed_onRoot fun _ => rfl
  | loadFace request =>
    cases run
    exact unnoticed_onPage (neutral_loadFace request)
  | loadImage request =>
    cases run
    exact unnoticed_onPage (neutral_loadImage request)
  | observeSize n =>
    change (if d.observing = true then BrowserDocument.change n _ else pure ()) d =
      .ok (reply, d') at run
    split at run
    · exact changed run unnoticed_observe
    · cases run
      exact .refl
  | unobserveSize n =>
    change (if d.observing = true then BrowserDocument.change n _ else pure ()) d =
      .ok (reply, d') at run
    split at run
    · exact changed run unnoticed_unobserve
    · cases run
      exact .refl
  | _ => exact plain.elim

/-- They are answered, and nobody notices. -/
theorem answer_inconspicuous {r : DocumentRequest} (known : ∀ n ∈ named r, (d.element? n).isSome)
    (plain : Inconspicuous r) :
    ∃ reply d', BrowserDocument.answer r d = .ok (reply, d') ∧ Unnoticed d d' := by
  have changed {n : NodeId} (hn : n ∈ named r) (f : BrowserDocument → BrowserDocument) :
      ∃ reply d', BrowserDocument.change n f d = .ok (reply, d') := by
    obtain ⟨x, hx⟩ := Option.isSome_iff_exists.1 (known n hn)
    exact ⟨(), f d, browser_change hx f⟩
  have answered : ∃ reply d', BrowserDocument.answer r d = .ok (reply, d') := by
    cases r with
    | setAttribute n | removeAttribute n | setStyle n | removeStyle n | setLinkStyle n | setForm n
      | focus n | clearSurface n
    | resizeSurface n => exact changed (List.mem_singleton_self n) _
    | setRootProperty | removeRootProperty | loadFace | loadImage => exact ⟨(), _, rfl⟩
    | observeSize n | unobserveSize n =>
      change ∃ reply d',
        (if d.observing = true then BrowserDocument.change n _ else pure ()) d = .ok (reply, d')
      split
      · exact changed (List.mem_singleton_self n) _
      · exact ⟨(), d, rfl⟩
    | _ => exact plain.elim
  obtain ⟨reply, d', run⟩ := answered
  exact ⟨reply, d', run, unnoticed_of_answer plain run⟩

end Answers

end LayeredPage.Proofs
