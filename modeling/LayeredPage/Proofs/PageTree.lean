import Mathlib
import LayeredPage.Browser.Loading

/-!
# The tree of a page

Parents, children, links and content of the elements of a page after each change of the tree, and
the changes that nobody who looks at the tree, at the listeners and timers, or at the core can tell
from none.
-/

namespace LayeredPage.Proofs

open Page

/-- What counts for the tree about an element. -/
structure Outline where
  tag : String
  parent : Option ElementId
  children : List ElementId
  links : List ElementId
  html : String

def outline (e : PageElement) : Outline := ⟨e.tag, e.parent, e.children, e.links, e.html⟩

def outline? (p : Page) (x : ElementId) : Option Outline := (p.element? x).map outline

section Elements

variable {p : Page} {e x y : ElementId} {f : PageElement → PageElement}

lemma element?_modify :
    (p.modify e f).element? x = if x = e then (p.element? x).map f else p.element? x := by
  unfold Page.modify element?
  rw [Array.getElem?_modify]
  by_cases same : x = e
  · rw [if_pos same, if_pos (by rw [same])]
  · rw [if_neg same, if_neg fun h => same (by cases x; cases e; simp_all)]

lemma size_pageModify : (p.modify e f).elements.size = p.elements.size := Array.size_modify

lemma pageParent?_eq : p.parent? x = (outline? p x).bind (·.parent) := by
  unfold Page.parent? outline?
  cases p.element? x <;> rfl

lemma pageChildren_eq : p.children x = ((outline? p x).map (·.children)).getD [] := by
  unfold Page.children outline?
  cases p.element? x <;> rfl

lemma links_eq : p.links x = ((outline? p x).map (·.links)).getD [] := by
  unfold Page.links outline?
  cases p.element? x <;> rfl

lemma outline?_modify {g : Outline → Outline}
    (shows : ∀ element, outline (f element) = g (outline element)) :
    outline? (p.modify e f) x = (outline? p x).map fun o => if x = e then g o else o := by
  unfold outline?
  rw [element?_modify]
  cases p.element? x with
  | none => simp
  | some element =>
    by_cases same : x = e
    · simp [same, shows]
    · simp [same]

lemma outline?_create {tag : String} : outline? (p.create tag).2 x =
    if x = (p.create tag).1 then some (outline (.fresh tag)) else outline? p x := by
  unfold outline? Page.create element?
  rw [Array.getElem?_push]
  by_cases same : x = ⟨p.elements.size⟩
  · rw [if_pos same, if_pos (by rw [same])]
    rfl
  · rw [if_neg same, if_neg fun h => same (by cases x; simp_all)]

end Elements

/-! ## Changes of the tree -/

section Changes

variable {p : Page} {e x y parent child : ElementId}

/-- The outline of an element without a child, or without a parent. -/
lemma outline?_remove : outline? (p.remove e) x = (outline? p x).map fun o =>
    { o with
      parent := if x = e then none else o.parent
      children := if p.parent? e = some x then o.children.filter (· ≠ e) else o.children
      links := if p.parent? e = some x then o.links.filter (· ≠ e) else o.links } := by
  unfold Page.remove
  cases hp : p.parent? e with
  | none =>
    cases ho : outline? p x with
    | none => rfl
    | some o =>
      by_cases same : x = e
      · have alone : o.parent = none := by
          rw [pageParent?_eq, ← same, ho] at hp
          exact hp
        simp only [Option.map_some, reduceCtorEq, if_false, if_pos same]
        rw [← alone]
      · simp only [Option.map_some, reduceCtorEq, if_false, if_neg same]
  | some q =>
    dsimp only
    rw [outline?_modify
      (g := fun o =>
        { o with children := o.children.filter (· ≠ e), links := o.links.filter (· ≠ e) })
      fun _ => rfl, outline?_modify (g := fun o => { o with parent := none }) fun _ =>
        rfl, Option.map_map]
    congr 1
    funext o
    rw [Function.comp_apply]
    by_cases parent : x = q
    · by_cases same : x = e
      · simp only [if_pos parent, if_pos same, if_pos (congrArg some parent.symm)]
      · simp only [if_pos parent, if_neg same, if_pos (congrArg some parent.symm)]
    · have other : ¬ some q = some x := fun h => parent (Option.some.inj h).symm
      by_cases same : x = e
      · simp only [if_neg parent, if_pos same, if_neg other]
      · simp only [if_neg parent, if_neg same, if_neg other]

lemma exists_remove :
    ∃ elements, p.remove e = { p with elements } ∧ elements.size = p.elements.size := by
  unfold Page.remove
  cases p.parent? e with
  | none => exact ⟨p.elements, rfl, rfl⟩
  | some q => exact ⟨_, rfl, by rw [Array.size_modify, size_pageModify]⟩

/-- A loose element is hung under a parent that is not below it. -/
lemma exists_append? (apart : p.isWithin parent child = false) (loose : p.parent? child = none) :
    ∃ elements, p.append? parent child = some { p with elements } ∧
      elements.size = p.elements.size ∧
      ∀ x, outline? { p with elements } x = (outline? p x).map fun o =>
        { o with
          parent := if x = child then some parent else o.parent
          children := if x = parent then o.children ++ [child] else o.children } := by
  have alone : p.remove child = p := by
    unfold Page.remove
    rw [loose]
  unfold Page.append?
  rw [apart, alone]
  refine ⟨_, rfl, by rw [Array.size_modify, size_pageModify], fun x => ?_⟩
  have hung :=
    outline?_modify (p := p.modify parent fun element =>
      { element with children := element.children ++ [child] })
    (e := child) (x := x) (f := fun element => { element with parent := some parent })
    (g := fun o => { o with parent := some parent }) fun _ => rfl
  have lengthened := outline?_modify (p := p) (e := parent) (x := x)
    (f := fun element => { element with children := element.children ++ [child] })
    (g := fun o => { o with children := o.children ++ [child] }) fun _ => rfl
  refine hung.trans ?_
  rw [lengthened, Option.map_map]
  congr 1
  funext o
  rw [Function.comp_apply]
  by_cases above : x = parent
  · by_cases below : x = child
    · simp only [if_pos above, if_pos below]
    · simp only [if_pos above, if_neg below]
  · by_cases below : x = child
    · simp only [if_neg above, if_pos below]
    · simp only [if_neg above, if_neg below]

lemma outline?_orphans (cs : List ElementId) (p : Page) :
    outline? (cs.foldl (fun p c => p.modify c fun element => { element with parent := none }) p) x =
      (outline? p x).map fun o => { o with parent := if x ∈ cs then none else o.parent } := by
  induction cs generalizing p with
  | nil => simp
  | cons c cs ih =>
    rw [List.foldl_cons, ih, outline?_modify (g := fun o => { o with parent := none }) fun _ =>
      rfl, Option.map_map]
    congr 1
    funext o
    by_cases same : x = c
    · simp [same]
    · simp [same]

lemma exists_orphans (cs : List ElementId) (p : Page) : ∃ elements,
    cs.foldl (fun p c => p.modify c fun element => { element with parent := none }) p =
      { p with elements } ∧
      elements.size = p.elements.size := by
  induction cs generalizing p with
  | nil => exact ⟨_, rfl, rfl⟩
  | cons c cs ih =>
    obtain ⟨elements, eq, size⟩ := ih (p.modify c fun element => { element with parent := none })
    exact ⟨elements, eq, size.trans size_pageModify⟩

lemma outline?_clear : outline? (p.clear e) x = (outline? p x).map fun o =>
    { o with
      parent := if x ∈ p.children e ++ p.links e then none else o.parent
      children := if x = e then [] else o.children
      links := if x = e then [] else o.links } := by
  unfold Page.clear
  rw [outline?_orphans, outline?_modify (g := fun o => { o with children := [], links := [] })
    fun _ => rfl, Option.map_map]
  congr 1
  funext o
  by_cases same : x = e
  · simp only [Function.comp_apply, if_pos same]
  · simp only [Function.comp_apply, if_neg same]

lemma exists_clear :
    ∃ elements, p.clear e = { p with elements } ∧ elements.size = p.elements.size := by
  obtain ⟨elements, eq, size⟩ := exists_orphans (p.children e ++ p.links e)
    (p.modify e fun element => { element with children := [], links := [] })
  exact ⟨elements, eq, size.trans size_pageModify⟩

/-- The content of an element was replaced; links inside the new content are new elements. -/
structure Replaced (e : ElementId) (html : String) (p p' : Page) : Prop where
  grown : p.elements.size ≤ p'.elements.size
  beside : ∃ elements, p' = { p with elements }
  outlines : ∀ x, x.index < p.elements.size → ∃ new : List ElementId,
    (∀ y ∈ new, p.elements.size ≤ y.index ∧ y.index < p'.elements.size) ∧
    outline? p' x = (outline? p x).map fun o =>
      { o with
        parent := if x ∈ p.children e ++ p.links e then none else o.parent
        children := if x = e then [] else o.children
        links := if x = e then new else o.links
        html := if x = e then html else o.html }

lemma replaced_setText (text : String) :
    Replaced e (Text.escapeData text) p (p.setText e text) := by
  obtain ⟨elements, cleared, size⟩ := exists_clear (p := p) (e := e)
  have written :=
    size_pageModify (p := p.clear e) (e := e)
      (f := fun element => { element with html := Text.escapeData text })
  refine ⟨?_, ⟨(p.setText e text).elements, ?_⟩, fun x _ =>
    ⟨[], fun y hy => absurd hy List.not_mem_nil, ?_⟩⟩
  · exact (size.symm.trans (congrArg (·.elements.size) cleared.symm)).le.trans written.ge
  · unfold Page.setText
    rw [cleared]
    rfl
  · unfold Page.setText
    rw [outline?_modify (g := fun o => { o with html := Text.escapeData text }) fun _ => rfl,
      outline?_clear, Option.map_map]
    congr 1
    funext o
    by_cases same : x = e
    · simp only [Function.comp_apply, if_pos same]
    · simp only [Function.comp_apply, if_neg same]

lemma addLinks_spec (count : Nat) (p : Page) :
    p.elements.size ≤ (p.addLinks e count).elements.size ∧
    (∃ elements, p.addLinks e count = { p with elements }) ∧
    ∀ x, x.index < p.elements.size → ∃ new : List ElementId,
      (∀ y ∈ new, p.elements.size ≤ y.index ∧ y.index < (p.addLinks e count).elements.size) ∧
      outline? (p.addLinks e count) x = (outline? p x).map fun o =>
        { o with links := if x = e then o.links ++ new else o.links } := by
  induction count generalizing p with
  | zero =>
    refine ⟨le_rfl, ⟨_, rfl⟩, fun x _ => ⟨[], fun y hy => absurd hy List.not_mem_nil, ?_⟩⟩
    simp [Page.addLinks]
  | succ count ih =>
    have size : (p.addLink e).elements.size = p.elements.size + 1 := by
      unfold Page.addLink
      rw [size_pageModify, size_pageModify]
      simp [Page.create]
    obtain ⟨grown, ⟨elements, eq⟩, outlines⟩ := ih (p.addLink e)
    have all : p.addLinks e (count + 1) = (p.addLink e).addLinks e count := rfl
    rw [all]
    refine ⟨by omega, ⟨elements, eq⟩, fun x hx => ?_⟩
    obtain ⟨new, fresh, shows⟩ := outlines x (by omega)
    have old : x ≠ (p.create "a").1 := by
      rintro rfl
      exact lt_irrefl _ hx
    have first : outline? (p.addLink e) x = (outline? p x).map fun o =>
        { o with links := if x = e then o.links ++ [⟨p.elements.size⟩] else o.links } := by
      unfold Page.addLink
      dsimp only
      rw [outline?_modify (g := fun o => { o with parent := some e }) fun _ => rfl,
        outline?_modify (g := fun o => { o with links := o.links ++ [⟨p.elements.size⟩] }) fun _ =>
          rfl, outline?_create,
        if_neg old, Option.map_map]
      congr 1
      funext o
      rw [Function.comp_apply, if_neg old]
      by_cases same : x = e
      · simp only [if_pos same]
      · simp only [if_neg same]
    refine ⟨⟨p.elements.size⟩ :: new, fun y hy => ?_, ?_⟩
    · rcases List.mem_cons.1 hy with rfl | hy
      · exact ⟨le_rfl, by dsimp only; omega⟩
      · exact ⟨by have := (fresh y hy).1; omega, (fresh y hy).2⟩
    · rw [shows, first, Option.map_map]
      congr 1
      funext o
      by_cases same : x = e
      · simp only [Function.comp_apply, if_pos same, List.append_assoc, List.singleton_append]
      · simp only [Function.comp_apply, if_neg same]

lemma replaced_setHtml (html : String) : Replaced e html p (p.setHtml e html) := by
  obtain ⟨elements, cleared, size⟩ := exists_clear (p := p) (e := e)
  have written : ((p.clear e).modify e fun element => { element with html }).elements.size =
      p.elements.size := by
    rw [size_pageModify, cleared]
    exact size
  obtain ⟨grown, ⟨elements', eq⟩, outlines⟩ :=
    addLinks_spec (e := e) (linkCount html.toList) ((p.clear e).modify e fun element =>
      { element with html })
  refine ⟨written ▸ grown, ⟨elements', ?_⟩, fun x hx => ?_⟩
  · unfold Page.setHtml
    rw [eq, cleared]
    rfl
  · obtain ⟨new, fresh, shows⟩ := outlines x (written ▸ hx)
    refine ⟨new, fun y hy => ⟨written ▸ (fresh y hy).1, (fresh y hy).2⟩, ?_⟩
    unfold Page.setHtml
    rw [shows, outline?_modify (g := fun o => { o with html }) fun _ => rfl, outline?_clear,
      Option.map_map, Option.map_map]
    congr 1
    funext o
    by_cases same : x = e
    · simp only [Function.comp_apply, if_pos same, List.nil_append]
    · simp only [Function.comp_apply, if_neg same]

end Changes

/-! ## Changes that do not show -/

/-- A call to the core behind a page. -/
def coreCall? : PageCall → Option CoreCall
  | .core call => some call
  | _ => none

/-- The calls to the core so far, latest first. -/
def coreCalls (p : Page) : List CoreCall := p.calls.filterMap coreCall?

/-- A listener that was taken off. -/
def unlistened? : PageCall → Option Registration
  | .unlisten r => some r
  | _ => none

/-- A timer that was stopped. -/
def cleared? : PageCall → Option Nat
  | .clearInterval id => some id
  | _ => none

/-- The listeners and timers of a page, and those it gave up so far. -/
structure Wires where
  listeners : List Listener
  registrations : Nat
  intervals : List Interval
  timers : Nat
  unlistened : List Registration
  cleared : List Nat

def wires (p : Page) : Wires where
  listeners := p.listeners
  registrations := p.registrations
  intervals := p.intervals
  timers := p.timers
  unlistened := p.calls.filterMap unlistened?
  cleared := p.calls.filterMap cleared?

/-- The tree is the same, and the core did not hear of anything. -/
structure Bland (p p' : Page) : Prop where
  size : p'.elements.size = p.elements.size
  outlines : ∀ x, outline? p' x = outline? p x
  lacking : p'.lacking = p.lacking
  core : p'.core = p.core
  calls : coreCalls p' = coreCalls p

/-- Neither was a listener or a timer touched. -/
structure Neutral (p p' : Page) : Prop extends Bland p p' where
  wires : wires p' = wires p

section Neutral

variable {p p' p'' : Page} {e : ElementId}

lemma Bland.refl : Bland p p := ⟨rfl, fun _ => rfl, rfl, rfl, rfl⟩

lemma Bland.trans (one : Bland p p') (two : Bland p' p'') : Bland p p'' :=
  ⟨two.size.trans one.size, fun x => (two.outlines x).trans (one.outlines x),
    two.lacking.trans one.lacking,
    two.core.trans one.core, two.calls.trans one.calls⟩

lemma Neutral.refl : Neutral p p := ⟨.refl, rfl⟩

lemma Neutral.trans (one : Neutral p p') (two : Neutral p' p'') : Neutral p p'' :=
  ⟨one.toBland.trans two.toBland, two.wires.trans one.wires⟩

/-- An element may change in what is no part of its outline. -/
lemma neutral_modify {f : PageElement → PageElement}
    (same : ∀ element, outline (f element) = outline element) :
    Neutral p (p.modify e f) := by
  refine ⟨⟨size_pageModify, fun x => ?_, rfl, rfl, rfl⟩, rfl⟩
  rw [outline?_modify (g := id) same]
  simp

/-- Other fields of the page may change. -/
lemma plain_of_elements (elements : p'.elements = p.elements) (lacking : p'.lacking = p.lacking)
    (core : p'.core = p.core) (calls : coreCalls p' = coreCalls p) : Bland p p' := by
  refine ⟨by rw [elements], fun x => ?_, lacking, core, calls⟩
  unfold outline? Page.element?
  rw [elements]

lemma neutral_of_elements (elements : p'.elements = p.elements) (lacking : p'.lacking = p.lacking)
    (core : p'.core = p.core)
    (calls : coreCalls p' = coreCalls p) (same : wires p' = wires p) : Neutral p p' :=
  ⟨plain_of_elements elements lacking core calls, same⟩

lemma neutral_foldl {α : Type} (xs : List α) {f : Page → α → Page}
    (all : ∀ p x, Neutral p (f p x)) (p : Page) :
    Neutral p (xs.foldl f p) := by
  induction xs generalizing p with
  | nil => exact .refl
  | cons x xs ih => exact (all p x).trans (ih _)

lemma neutral_setValue (value : String) : Neutral p (p.setValue e value) :=
  neutral_modify fun _ => rfl

lemma neutral_selectRange (start stop : Nat) : Neutral p (p.selectRange e start stop) := by
  have noted : Neutral p (p.note (.selectRange e start stop)) :=
    neutral_of_elements rfl rfl rfl rfl rfl
  refine noted.trans (neutral_modify ?_)
  exact fun _ => rfl

lemma neutral_setProperty {f : PageElement → PageElement}
    (same : ∀ element, outline (f element) = outline element) :
    Neutral p (p.setProperty e f) := by
  unfold Page.setProperty
  split
  · exact .refl
  · exact neutral_modify same

lemma neutral_focus : Neutral p (p.focus e) := by
  unfold Page.focus
  split
  · exact .refl
  · exact neutral_of_elements rfl rfl rfl rfl rfl

lemma neutral_blur : Neutral p p.blur := neutral_of_elements rfl rfl rfl rfl rfl

lemma neutral_clearCanvas : Neutral p (p.clearCanvas e) := by
  unfold Page.clearCanvas
  split
  · exact .refl
  · exact neutral_of_elements rfl rfl rfl rfl rfl

lemma neutral_resizeCanvas (width height : UInt32) (scale : Float) :
    Neutral p (p.resizeCanvas e width height scale) := by
  unfold Page.resizeCanvas
  split
  · exact .refl
  · refine Neutral.trans (neutral_modify ?_) (neutral_of_elements rfl rfl rfl rfl rfl)
    exact fun _ => rfl

lemma neutral_loadImage (request : ImageRequest) : Neutral p (p.loadImage request) :=
  neutral_of_elements rfl rfl rfl rfl rfl

lemma neutral_loadFace (request : FaceRequest) : Neutral p (p.loadFace request) := by
  unfold Page.loadFace
  split
  · exact neutral_of_elements rfl rfl rfl rfl rfl
  · dsimp only
    split
    · exact neutral_of_elements rfl rfl rfl rfl rfl
    · exact neutral_of_elements rfl rfl rfl rfl rfl

/-- Taking listeners off does not show. -/
lemma plain_unlistenAll (rs : List Registration) (p : Page) : Bland p (p.unlistenAll rs) := by
  induction rs generalizing p with
  | nil => exact .refl
  | cons r rs ih =>
    have taken : Bland p (p.unlisten r) := plain_of_elements rfl rfl rfl rfl
    exact taken.trans (ih (p.unlisten r))

lemma plain_listen (target : EventTarget) (event : String) (options : ListenerOptions)
    (handler : Handler) :
    Bland p (p.listen target event options handler).2 := by
  unfold Page.listen
  dsimp only
  split <;> exact plain_of_elements rfl rfl rfl rfl

lemma plain_setInterval (sampler : SamplerId) (delay : Nat) :
    Bland p (p.setInterval sampler delay).2 := by
  unfold Page.setInterval
  split
  · exact .refl
  · exact plain_of_elements rfl rfl rfl rfl

lemma plain_clearInterval (id : Nat) : Bland p (p.clearInterval id) :=
  plain_of_elements rfl rfl rfl rfl

end Neutral

end LayeredPage.Proofs
