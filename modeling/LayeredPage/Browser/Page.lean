import LayeredPage.Browser.Call
import LayeredPage.Browser.Task
import LayeredPage.Text.Entities
import LayeredPage.Text.Units

/-!
# The page

A page is a tree of elements with a focus, a list of listeners, timers, tasks, and a core behind it.
Any of its facilities can be missing or refuse its service. The operations here are total: on an
element that the page does not have they do nothing.
-/

namespace LayeredPage

/-- What a page may lack, or what may refuse. -/
inductive Facility where
  | window
  | document
  | documentElement
  | body
  | head
  | createElement
  | querySelectorAll
  | focus
  | selectionStart
  | addEventListener
  | setInterval
  | setTimeout
  | resizeObserver
  | getProperty
  | setProperty
  | bodyText
  | scale
  | getContext
  | fontFace
  | loadFontFace
deriving DecidableEq, Repr

namespace Facility

def all : List Facility :=
  [.window, .document, .documentElement, .body, .head, .createElement, .querySelectorAll, .focus,
    .selectionStart, .addEventListener, .setInterval, .setTimeout, .resizeObserver, .getProperty,
    .setProperty, .bodyText, .scale, .getContext, .fontFace, .loadFontFace]

/-- Name of the facility in a page. -/
def name : Facility → String
  | .window => "window"
  | .document => "document"
  | .documentElement => "documentElement"
  | .body => "body"
  | .head => "head"
  | .createElement => "createElement"
  | .querySelectorAll => "querySelectorAll"
  | .focus => "focus"
  | .selectionStart => "selectionStart"
  | .addEventListener => "addEventListener"
  | .setInterval => "setInterval"
  | .setTimeout => "setTimeout"
  | .resizeObserver => "ResizeObserver"
  | .getProperty => "Reflect.get"
  | .setProperty => "Reflect.set"
  | .bodyText => "text"
  | .scale => "scale"
  | .getContext => "getContext"
  | .fontFace => "FontFace"
  | .loadFontFace => "FontFace.load"

end Facility

/-- The core as the page holds it: how much of its memory is used, the batches of its next ticks,
its standing answer to interrupts, and the images it has. -/
structure PageCore where
  used : Nat
  batches : List ByteArray
  preventDefault : Bool
  loaded : Std.ExtTreeSet String

/-- A timer that runs a scroll sampler. -/
structure Interval where
  id : Nat
  sampler : SamplerId
deriving DecidableEq, Repr

/-- A task that waits for a timeout. -/
structure Sleeper where
  timeout : Nat
  task : Task

structure Page where
  elements : Array PageElement
  active : Option ElementId
  listeners : List Listener
  /-- Listeners ever made. -/
  registrations : Nat
  intervals : List Interval
  /-- Timers ever made. -/
  timers : Nat
  ready : List Task
  sleeping : List Sleeper
  now : Float
  ratio : Float
  lacking : List Facility
  core : PageCore
  network : Std.ExtTreeMap String (List FetchOutcome)
  /-- Latest first. -/
  calls : List PageCall

namespace Page

def root : ElementId := ⟨0⟩

def body : ElementId := ⟨1⟩

def head : ElementId := ⟨2⟩

/-- A page with a mount point and a drawing in its body. -/
def fresh : Page :=
  let named (tag id : String) : PageElement :=
    { PageElement.fresh tag with
      parent := some body, attributes := (∅ : Names).insert "id" id }
  { elements := #[
      { PageElement.fresh "html" with children := [body, head] },
      { PageElement.fresh "body" with parent := some root, children := [⟨3⟩, ⟨4⟩] },
      { PageElement.fresh "head" with parent := some root },
      named "div" "app", named "svg" "svg"]
    active := some body
    listeners := []
    registrations := 0
    intervals := []
    timers := 0
    ready := []
    sleeping := []
    now := 0
    ratio := 1
    lacking := []
    core := ⟨0, [], false, ∅⟩
    network := ∅
    calls := [] }

def note (p : Page) (call : PageCall) : Page := { p with calls := call :: p.calls }

def lacks (p : Page) (f : Facility) : Bool := p.lacking.contains f

/-- Makes a facility unavailable, or available again. -/
def setLacking (p : Page) (f : Facility) (missing : Bool) : Page :=
  { p with lacking := if missing then f :: p.lacking else p.lacking.filter (· ≠ f) }

/-! ## The tree -/

def element? (p : Page) (e : ElementId) : Option PageElement := p.elements[e.index]?

def modify (p : Page) (e : ElementId) (f : PageElement → PageElement) : Page :=
  { p with elements := p.elements.modify e.index f }

def create (p : Page) (tag : String) : ElementId × Page :=
  (⟨p.elements.size⟩, { p with elements := p.elements.push (.fresh tag) })

def parent? (p : Page) (e : ElementId) : Option ElementId := (p.element? e).bind (·.parent)

def children (p : Page) (e : ElementId) : List ElementId :=
  match p.element? e with
  | some element => element.children
  | none => []

def links (p : Page) (e : ElementId) : List ElementId :=
  match p.element? e with
  | some element => element.links
  | none => []

/-- Takes an element out of its parent, if it has one. -/
def remove (p : Page) (e : ElementId) : Page :=
  match p.parent? e with
  | some parent =>
    (p.modify e fun element => { element with parent := none }).modify parent fun element =>
      { element with
        children := element.children.filter (· ≠ e)
        links := element.links.filter (· ≠ e) }
  | none => p

/-- Whether climbing from `e` leads to `top`. -/
def climbsTo (p : Page) (top : ElementId) : Nat → ElementId → Bool
  | 0, _ => false
  | fuel + 1, e =>
    if e = top then true
    else
      match p.parent? e with
      | some parent => climbsTo p top fuel parent
      | none => false

/-- Whether `e` is `top` or somewhere below it. -/
def isWithin (p : Page) (e top : ElementId) : Bool := p.climbsTo top (p.elements.size + 1) e

/-- Makes `child` the last child of `parent`; refused when `parent` is the child or below it. -/
def append? (p : Page) (parent child : ElementId) : Option Page :=
  if p.isWithin parent child then none
  else
    some (((p.remove child).modify parent fun element =>
        { element with children := element.children ++ [child] }).modify child fun element =>
      { element with parent := some parent })

/-- Lets all children and links of an element go. -/
def clear (p : Page) (e : ElementId) : Page :=
  (p.children e ++ p.links e).foldl (fun p c => p.modify c fun element =>
    { element with parent := none })
    (p.modify e fun element => { element with children := [], links := [] })

def addLink (p : Page) (e : ElementId) : Page :=
  let (link, p) := p.create "a"
  (p.modify e fun element => { element with links := element.links ++ [link] }).modify link
    fun element => { element with parent := some e }

def addLinks (p : Page) (e : ElementId) : Nat → Page
  | 0 => p
  | count + 1 => (p.addLink e).addLinks e count

/-- Replaces the content of an element by text. -/
def setText (p : Page) (e : ElementId) (text : String) : Page :=
  (p.clear e).modify e fun element => { element with html := Text.escapeData text }

/-- Replaces the content of an element by markup. -/
def setHtml (p : Page) (e : ElementId) (html : String) : Page :=
  ((p.clear e).modify e fun element => { element with html }).addLinks e (linkCount html.toList)

/-- The links in an element, then those in each child in turn. -/
def linksWithin (p : Page) : Nat → ElementId → List ElementId
  | 0, _ => []
  | fuel + 1, e => p.links e ++ (p.children e).flatMap (linksWithin p fuel)

def allLinks (p : Page) (e : ElementId) : List ElementId := p.linksWithin (p.elements.size + 1) e

/-- The first element whose attribute has this value. -/
def withAttribute (p : Page) (name value : String) : List ElementId :=
  p.elements.toList.zipIdx.filterMap fun (element, i) =>
    if element.attributes[name]? == some value then some ⟨i⟩ else none

/-- What a selector finds: `none` for a selector that cannot be read. Only ids are looked up. -/
def query? (p : Page) (selector : String) : Option (Option ElementId) :=
  match selector.toList with
  | '!' :: _ => none
  | '#' :: id => some (p.withAttribute "id" (String.ofList id)).head?
  | _ => some none

/-! ## Controls and focus -/

/-- Sets the value of a control; a caret that is in it goes to the end. -/
def setValue (p : Page) (e : ElementId) (value : String) : Page :=
  p.modify e fun element =>
    { element with value, caret := element.caret.map fun _ => Text.units16 value }

def selectRange (p : Page) (e : ElementId) (start stop : Nat) : Page :=
  (p.note (.selectRange e start stop)).modify e fun element => { element with caret := some start }

def focus (p : Page) (e : ElementId) : Page :=
  if p.lacks .focus then p else { p with active := some e }

def blur (p : Page) : Page := { p with active := some body }

/-- Whether keyboard input goes to the page itself and not to a control. -/
def bodyFocused (p : Page) : Bool := p.active == some body && !p.lacks .body

/-- Sets a property by its name. -/
def setProperty (p : Page) (e : ElementId) (f : PageElement → PageElement) : Page :=
  if p.lacks .setProperty then p else p.modify e f

/-- The scroll offset of an element; zero where it cannot be read. -/
def scrollOffset (p : Page) (e : ElementId) : Point Float :=
  match p.element? e with
  | some element =>
    if p.lacks .getProperty then .zero
    else ⟨element.scrollLeft.getD 0, element.scrollTop.getD 0⟩
  | none => .zero

/-! ## Listeners and timers -/

def listen (p : Page) (target : EventTarget) (event : String) (options : ListenerOptions)
    (handler : Handler) : Registration × Page :=
  let r := Registration.mk p.registrations target event options.capture
  let p := { p with registrations := p.registrations + 1 }.note (.listen target event options)
  (r, if p.lacks .addEventListener then p
    else { p with listeners := p.listeners ++ [⟨r, handler⟩] })

def unlisten (p : Page) (r : Registration) : Page :=
  { p.note (.unlisten r) with
    listeners := p.listeners.filter fun l => decide (l.toRegistration ≠ r) }

def unlistenAll (p : Page) (rs : List Registration) : Page := rs.foldl unlisten p

/-- The handlers of an event at a target, in the order in which they were added. -/
def heard (p : Page) (target : EventTarget) (event : String) : List Handler :=
  (p.listeners.filter fun l => decide (l.target = target) && l.event == event).map (·.handler)

/-- Longest wait that a timer takes. -/
def longestTimer : Nat := 2147483647

/-- Runs a sampler again and again, unless the page has no timers. -/
def setInterval (p : Page) (sampler : SamplerId) (delay : Nat) : Option Nat × Page :=
  if p.lacks .window || p.lacks .setInterval then (none, p)
  else
    let id := p.timers + 1
    (some id,
      { p.note (.setInterval id (min delay longestTimer)) with
        timers := id
        intervals := p.intervals ++ [⟨id, sampler⟩] })

def clearInterval (p : Page) (id : Nat) : Page :=
  { p.note (.clearInterval id) with intervals := p.intervals.filter fun i => i.id != id }

/-- Lets a task wait. Without timers the task is given up. -/
def sleep (p : Page) (task : Task) (delay : Nat) : Page :=
  if p.lacks .window || p.lacks .setTimeout then p
  else
    let id := p.timers + 1
    { p.note (.setTimeout id (min delay longestTimer)) with
      timers := id
      sleeping := p.sleeping ++ [⟨id, task⟩] }

def spawn (p : Page) (task : Task) : Page := { p with ready := p.ready ++ [task] }

/-- Ends all waits. -/
def wake (p : Page) : Page :=
  { p with ready := p.ready ++ p.sleeping.map (·.task), sleeping := [] }

/-! ## Canvases -/

/-- The canvas at an element, if there is one and it can be painted. -/
def canvas? (p : Page) (e : ElementId) : Option PageElement :=
  if p.lacks .getContext then none
  else (p.element? e).filter (·.isCanvas)

/-- Clears a whole canvas, whatever its transform. -/
def clearCanvas (p : Page) (e : ElementId) : Page :=
  match p.canvas? e with
  | none => p
  | some canvas =>
    (((p.note (.canvas e .save)).note (.canvas e (.setTransform .identity))).note
      (.canvas e (.clearRect 0 0 canvas.bufferWidth.toFloat canvas.bufferHeight.toFloat))).note
      (.canvas e .restore)

/-- Gives a canvas another buffer and the scale of its context. -/
def resizeCanvas (p : Page) (e : ElementId) (width height : UInt32) (scale : Float) : Page :=
  match p.canvas? e with
  | none => p
  | some _ =>
    (p.modify e fun element =>
      { element with attributes :=
          (element.attributes.insert "width" (toString width)).insert "height" (toString height)
        }).note (.canvas e (.scale scale scale))

end Page

/-! ## The core -/

namespace Page

def noteCore (p : Page) (call : CoreCall) : Page := p.note (.core call)

/-- Hands out the next batch, as a span at the end of the memory used so far. -/
def tick (p : Page) : Batch.Span × Page :=
  let bytes := p.core.batches.headD ByteArray.empty
  (⟨p.core.used, bytes⟩,
    { p with core := { p.core with
        used := p.core.used + bytes.size, batches := p.core.batches.tail } }.noteCore .tick)

/-- Sends an interrupt. The core's answer counts only while its property can be read. -/
def interrupt (p : Page) (text : String) (payload : Option ByteArray) : Bool × Page :=
  (p.core.preventDefault && !p.lacks .getProperty, p.noteCore (.interrupt text payload))

/-- Sends an interrupt whose answer does not matter. -/
def send (p : Page) (i : Interrupt Float) (payload : Option ByteArray) : Page :=
  (p.interrupt i.text payload).2

end Page

instance : Core Page where
  addContext layer p := p.noteCore (.addContext layer)
  removeContext layer p := p.noteCore (.removeContext layer)
  imageLoaded path p := (p.core.loaded.contains path, p.noteCore (.imageLoaded path))
  viewport width height p := p.noteCore (.viewport width height)
  interrupt text payload p := p.interrupt text payload
  tick p := p.tick
  render p := p.noteCore .render
  deallocate span p := p.noteCore (.deallocate span)

end LayeredPage
