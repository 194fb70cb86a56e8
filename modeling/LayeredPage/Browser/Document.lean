import LayeredPage.Browser.Loading
import LayeredPage.Frame.Chassis
import LayeredPage.Input.Identifier

/-!
# A document on a page

The document keeps a slot for every node that it handed out: the element behind it, the tree as the
chassis built it, and the listeners it added. What the page refuses is passed over, except for a new
element, which nothing can stand in for. The operations here are total; `BrowserDocument.answer`
puts the check of the node in front of them.
-/

namespace LayeredPage

structure Slot where
  element : ElementId
  parent : Option NodeId
  children : List NodeId
  listeners : List Registration

/-- A scroll sampler: the element it reads, what it feeds, and what it installed on the page. -/
structure BrowserSampler where
  element : ElementId
  tracker : ScrollTracker Float
  interval : Option Nat
  listeners : List Registration

structure BrowserDocument where
  page : Page
  slots : Array Slot
  /-- Whether size reports reach the document. -/
  observing : Bool
  samplers : Array BrowserSampler

namespace BrowserDocument

/-- A page without a document. -/
def start (page : Page) : BrowserDocument := ⟨page, #[], false, #[]⟩

/-- Asks the page for size reports, which it may not have. -/
def opened (d : BrowserDocument) : BrowserDocument :=
  { d with observing := !d.page.lacks .resizeObserver }

def onPage (d : BrowserDocument) (f : Page → Page) : BrowserDocument := { d with page := f d.page }

def slot? (d : BrowserDocument) (n : NodeId) : Option Slot := d.slots[n.index]?

def element? (d : BrowserDocument) (n : NodeId) : Option ElementId := (d.slot? n).map (·.element)

def modifySlot (d : BrowserDocument) (n : NodeId) (f : Slot → Slot) : BrowserDocument :=
  { d with slots := d.slots.modify n.index f }

/-- Changes the page at the element of a node. -/
def onElement (d : BrowserDocument) (n : NodeId) (f : ElementId → Page → Page) : BrowserDocument :=
  match d.element? n with
  | some e => d.onPage (f e)
  | none => d

/-- Changes the element of a node. -/
def modifyElement (d : BrowserDocument) (n : NodeId) (f : PageElement → PageElement) :
    BrowserDocument :=
  d.onElement n fun e p => p.modify e f

/-- Takes over an element that is on the page already. -/
def adopt (d : BrowserDocument) (e : ElementId) : NodeId × BrowserDocument :=
  (⟨d.slots.size⟩, { d with slots := d.slots.push ⟨e, none, [], []⟩ })

def create (d : BrowserDocument) (kind : NodeKind) : NodeId × BrowserDocument :=
  let (e, page) := d.page.create kind.tagName
  { d with page }.adopt e

def parent? (d : BrowserDocument) (n : NodeId) : Option NodeId := (d.slot? n).bind (·.parent)

def children (d : BrowserDocument) (n : NodeId) : List NodeId :=
  match d.slot? n with
  | some slot => slot.children
  | none => []

/-- Takes a node out of its parent, on the page and in the slots. -/
def detach (d : BrowserDocument) (n : NodeId) : BrowserDocument :=
  let d := d.onElement n fun e p => p.remove e
  match d.parent? n with
  | some p =>
    (d.modifySlot n fun slot => { slot with parent := none }).modifySlot p fun slot =>
      { slot with children := slot.children.filter (· ≠ n) }
  | none => d

/-- Moves a node to the end of a parent. Where the page refuses, the node stays detached. -/
def append (d : BrowserDocument) (parent child : NodeId) : BrowserDocument :=
  let d := d.detach child
  match d.element? parent, d.element? child with
  | some above, some below =>
    match d.page.append? above below with
    | some page =>
      ({ d with page }.modifySlot parent fun slot =>
          { slot with children := slot.children ++ [child] }).modifySlot child fun slot =>
        { slot with parent := some parent }
    | none => d
  | _, _ => d

/-- Forgets the children of a node. -/
def orphan (d : BrowserDocument) (n : NodeId) : BrowserDocument :=
  (d.children n).foldl (fun d c => d.modifySlot c fun slot => { slot with parent := none })
    (d.modifySlot n fun slot => { slot with children := [] })

def setHtml (d : BrowserDocument) (n : NodeId) (html : String) : BrowserDocument :=
  (d.orphan n).onElement n fun e p => p.setHtml e html

def setText (d : BrowserDocument) (n : NodeId) (text : String) : BrowserDocument :=
  (d.orphan n).onElement n fun e p => p.setText e text

def isFocused (d : BrowserDocument) (n : NodeId) : Bool :=
  match d.element? n with
  | some e => d.page.active == some e
  | none => false

def observe (d : BrowserDocument) (n : NodeId) : BrowserDocument :=
  if d.observing then d.onElement n fun e p => p.note (.observe e) else d

def unobserve (d : BrowserDocument) (n : NodeId) : BrowserDocument :=
  if d.observing then d.onElement n fun e p => p.note (.unobserve e) else d

/-- Removes the listeners of a node. -/
def silence (d : BrowserDocument) (n : NodeId) : BrowserDocument :=
  match d.slot? n with
  | some slot =>
    (d.modifySlot n fun slot => { slot with listeners := [] }).onPage (·.unlistenAll slot.listeners)
  | none => d

def stripped (e : PageElement) : PageElement := e.attributeNames.foldl PageElement.removeAttribute e

/-- Back to an empty state: detached, without focus, content, listeners and attributes. -/
def reset (d : BrowserDocument) (n : NodeId) : BrowserDocument :=
  let d := d.detach n
  let d := if d.isFocused n then d.onPage Page.blur else d
  let d := (((d.unobserve n).setHtml n "").silence n).modifyElement n stripped
  d.onElement n fun e p =>
    if ((p.element? e).any (·.isInput)) then
      (p.setValue e "").modify e fun element => { element with checked := false }
    else p

/-- Sets the value of a text control. While it has the focus its caret stays where it is, or at the
end of a shorter text. -/
def setValue (d : BrowserDocument) (n : NodeId) (value : String) : BrowserDocument :=
  d.onElement n fun e p =>
    match p.element? e with
    | some element =>
      if !element.isInput then p
      else
        let written := p.setValue e value
        if d.isFocused n && !p.lacks .selectionStart then
          match element.caret with
          | some caret =>
            let caret := min caret (Text.units16 value)
            written.selectRange e caret caret
          | none => written
        else written
    | none => p

/-- Changes the element of a node if it is of a class. -/
def modifyWhere (d : BrowserDocument) (n : NodeId) (which : PageElement → Bool)
    (f : PageElement → PageElement) : BrowserDocument :=
  d.modifyElement n fun element => if which element then f element else element

/-- Sets a property by its name on the element of a node. -/
def setProperty (d : BrowserDocument) (n : NodeId) (f : PageElement → PageElement) :
    BrowserDocument :=
  d.onElement n fun e p => p.setProperty e f

def withNumber (name : String) (x : Float) (e : PageElement) : PageElement :=
  { e with attributes := e.attributes.insert name (Number.styleText x) }

/-- A choice as the page counts it: in 32 bits with a sign, where a negative number is no choice. -/
def choice (n : UInt32) : Int := if n.toNat < 2147483648 then n.toNat else -1

def setForm (d : BrowserDocument) (n : NodeId) : FormProperty → BrowserDocument
  | .inputType kind =>
    d.modifyWhere n (·.isInput) fun e => { e with attributes := e.attributes.insert "type" kind }
  | .value text => d.setValue n text
  | .checked state => d.modifyWhere n (·.isInput) fun e => { e with checked := state }
  | .min x => d.setProperty n (withNumber "min" x)
  | .max x => d.setProperty n (withNumber "max" x)
  | .step x => d.setProperty n (withNumber "step" x)
  | .selectedIndex i => d.modifyWhere n (·.isSelect) fun e => { e with selected := choice i }
  | .scrollLeft x => d.setProperty n fun e => { e with scrollLeft := some x }
  | .scrollTop x => d.setProperty n fun e => { e with scrollTop := some x }

def styled (property value : String) (e : PageElement) : PageElement :=
  { e with style := e.style.insert property value }

def unstyled (property : String) (e : PageElement) : PageElement :=
  { e with style := e.style.erase property }

def setLinkStyle (d : BrowserDocument) (n : NodeId) (property value : String) : BrowserDocument :=
  d.onElement n fun e p =>
    if p.lacks .querySelectorAll then p
    else (p.allLinks e).foldl (fun p link => p.modify link (styled property value)) p

def onRoot (d : BrowserDocument) (f : PageElement → PageElement) : BrowserDocument :=
  if d.page.lacks .documentElement then d else d.onPage fun p => p.modify Page.root f

/-- Adds a listener at the element of a node. -/
def listen (d : BrowserDocument) (e : ElementId) (event : String) (options : ListenerOptions)
    (handler : Handler) : Registration × BrowserDocument :=
  let (r, page) := d.page.listen (.element e) event options handler
  (r, { d with page })

def bind (d : BrowserDocument) (n : NodeId) (id : UInt32) (binding : InputBinding) :
    BrowserDocument :=
  match d.element? n with
  | some e =>
    let (r, d) := d.listen e binding.event .bubbling (.bound e id binding)
    d.modifySlot n fun slot => { slot with listeners := slot.listeners ++ [r] }
  | none => d

def sampler? (d : BrowserDocument) (s : SamplerId) : Option BrowserSampler := d.samplers[s.index]?

def modifyTracker (d : BrowserDocument) (s : SamplerId)
    (f : ScrollTracker Float → ScrollTracker Float) : BrowserDocument :=
  { d with samplers := d.samplers.modify s.index fun sampler =>
      { sampler with tracker := f sampler.tracker } }

/-- Samples the offset of an element at an interval, and watches for fingers on it. -/
def sampleScroll (d : BrowserDocument) (e : ElementId) (tracker : ScrollTracker Float)
    (interval : UInt32) : SamplerId × BrowserDocument :=
  let s : SamplerId := ⟨d.samplers.size⟩
  let (timer, page) := d.page.setInterval s interval.toNat
  let d : BrowserDocument := { d with page }
  let (down, d) := d.listen e "touchstart" .capturingPassive (.touching s true)
  let (up, d) := d.listen e "touchend" .capturingPassive (.touching s false)
  (s, { d with samplers := d.samplers.push ⟨e, tracker, timer, [down, up]⟩ })

/-- Takes back what a sampler installed. What it tracked can still be read. -/
def cancelSampler (d : BrowserDocument) (s : SamplerId) : BrowserDocument :=
  match d.sampler? s with
  | some sampler =>
    let d := match sampler.interval with
      | some id => d.onPage (·.clearInterval id)
      | none => d
    { d.onPage (·.unlistenAll sampler.listeners) with
      samplers := d.samplers.modify s.index fun sampler =>
        { sampler with interval := none, listeners := [] } }
  | none => d

/-- A sampler reads the offset of its element. -/
def sample (d : BrowserDocument) (s : SamplerId) : BrowserDocument :=
  match d.sampler? s with
  | some sampler =>
    d.modifyTracker s fun tracker =>
      tracker.sample d.page.now (d.page.scrollOffset sampler.element)
  | none => d

def metrics (e : PageElement) : SurfaceMetrics where
  clientWidth := Float.ofInt e.clientWidth
  clientHeight := Float.ofInt e.clientHeight
  bufferWidth := if e.isCanvas then e.bufferWidth else 0
  bufferHeight := if e.isCanvas then e.bufferHeight else 0

/-- A document with breaches on nodes that it never handed out. -/
abbrev Checked := StateT BrowserDocument (Except Breach)

/-- The element of a node. -/
def require (n : NodeId) : Checked ElementId := do
  match (← get).element? n with
  | some e => return e
  | none => throw (.unknownNode n.index)

/-- Changes the document after the check of a node. -/
def change (n : NodeId) (f : BrowserDocument → BrowserDocument) : Checked Unit := do
  let _ ← require n
  modifyGet fun d => ((), f d)

/-- Reads the element of a node. -/
def read (n : NodeId) : Checked PageElement := do
  let e ← require n
  match (← get).page.element? e with
  | some element => return element
  | none => throw (.unknownNode n.index)

def answer : (r : DocumentRequest) → Checked r.Reply
  | .createElement kind => do
    if (← get).page.lacks .createElement then throw (.elementRefused kind.tagName)
    modifyGet fun d => d.create kind
  | .appendChild parent child => do
    let _ ← require child
    change parent fun d => d.append parent child
  | .detach n => change n fun d => d.detach n
  | .parent n => do
    let _ ← require n
    return (← get).parent? n
  | .childCount n => do return (← read n).children.length
  | .reset n => change n fun d => d.reset n
  | .setAttribute n name value =>
    change n fun d => d.modifyElement n fun e => e.setAttribute name value
  | .removeAttribute n name => change n fun d => d.modifyElement n fun e => e.removeAttribute name
  | .setStyle n property value => change n fun d => d.modifyElement n (styled property value)
  | .removeStyle n property => change n fun d => d.modifyElement n (unstyled property)
  | .setLinkStyle n property value => change n fun d => d.setLinkStyle n property value
  | .setRootProperty name value => modifyGet fun d => ((), d.onRoot (styled name value))
  | .removeRootProperty name => modifyGet fun d => ((), d.onRoot (unstyled name))
  | .setInnerHtml n html => change n fun d => d.setHtml n html
  | .innerHtml n => do return (← read n).html
  | .setText n text => change n fun d => d.setText n text
  | .setForm n property => change n fun d => d.setForm n property
  | .focus n => change n fun d => d.onElement n fun e p => p.focus e
  | .bindInput n id binding => change n fun d => d.bind n id binding
  | .observeSize n => do
    if (← get).observing then change n fun d => d.observe n
  | .unobserveSize n => do
    if (← get).observing then change n fun d => d.unobserve n
  | .sampleScroll n tracker interval => do
    let e ← require n
    modifyGet fun d => d.sampleScroll e tracker interval
  | .cancelSampler s => modifyGet fun d => ((), d.cancelSampler s)
  | .scrollDelta s now =>
    modifyGet fun d =>
      match d.sampler? s with
      | some sampler =>
        let (delta, tracker) := sampler.tracker.delta now
        (delta, d.modifyTracker s fun _ => tracker)
      | none => (.zero, d)
  | .surfaceMetrics n => do return metrics (← read n)
  | .clearSurface n => change n fun d => d.onElement n fun e p => p.clearCanvas e
  | .resizeSurface n width height scale =>
    change n fun d => d.onElement n fun e p => p.resizeCanvas e width height scale
  | .loadFace request => modifyGet fun d => ((), d.onPage (·.loadFace request))
  | .loadImage request => modifyGet fun d => ((), d.onPage (·.loadImage request))

/-- Calls the core behind the page. -/
def onCore {α : Type} (act : Page → α × Page) : Checked α :=
  modifyGet fun d =>
    let (a, page) := act d.page
    (a, { d with page })

def answerPatch : (r : PatchRequest) → Checked r.Reply
  | .document r => answer r
  | .addContext layer => onCore fun p => ((), Core.addContext layer p)
  | .removeContext layer => onCore fun p => ((), Core.removeContext layer p)
  | .imageLoaded path => onCore (Core.imageLoaded path)

def answerFrame : (r : FrameRequest) → Checked r.Reply
  | .patch r => answerPatch r
  | .viewport width height => onCore fun p => ((), Core.viewport width height p)
  | .interrupt text payload => onCore (Core.interrupt text payload)
  | .tick => onCore Core.tick
  | .render => onCore fun p => ((), Core.render p)
  | .deallocate span => onCore fun p => ((), Core.deallocate span p)

/-- Runs patching steps on the document. -/
def patch {σ α : Type} (act : Work σ α) (s : σ) : Checked (Except PatchError α × σ) :=
  Script.run (I := Patching) answerPatch (act s)

/-- Runs frame steps on the document. -/
def drive {σ α : Type} (act : Action (Script Framing) σ α) (s : σ) :
    Checked (Except PatchError α × σ) :=
  Script.run (I := Framing) answerFrame (act s)

/-- Reports the sizes of elements that carry an element id, as one interrupt. -/
def reportSizes (d : BrowserDocument) (sizes : List (ElementId × Float × Float)) :
    BrowserDocument :=
  let reports := sizes.filterMap fun (e, width, height) =>
    (((d.page.element? e).bind fun element => element.attributes[nativeIdAttribute]?).bind
      nativeId?).map fun id => SizeReport.mk id width height
  match sizesInterrupt? reports with
  | some i => if d.observing then d.onPage (·.send i none) else d
  | none => d

/-- Text of the document in diagnostics. -/
def describe (d : BrowserDocument) : String :=
  "WebDom \x7b nodes: " ++ toString d.slots.size ++ ", observing: " ++ toString d.observing ++
    ", .. \x7d"

/-- Gives the document up: no size reports, no listeners, no nodes. -/
def close (d : BrowserDocument) : BrowserDocument :=
  let listeners := d.slots.toList.flatMap (·.listeners)
  let page := if d.observing then d.page.note .disconnect else d.page
  { d with page := page.unlistenAll listeners, slots := #[], observing := false }

end BrowserDocument

end LayeredPage
