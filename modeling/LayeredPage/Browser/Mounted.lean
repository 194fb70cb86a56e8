import LayeredPage.Browser.Animation
import LayeredPage.Browser.WindowInput

/-!
# A chassis mounted on a page

Mounting builds the chassis in the element that a selector finds, adds the window's listeners, and
starts the animation loop. Each animation frame drives one frame of the chassis; the loop ends with
the first frame that fails. Unmounting takes back all that was installed.
-/

namespace LayeredPage

/-- Why nothing was mounted. -/
inductive MountError where
  | noWindow
  | noDocument
  | badSelector
  | noMatch (selector : String)
  /-- What the selector finds cannot hold a page. -/
  | notHtml
  | refused (why : PatchError)
deriving DecidableEq, Repr

def MountError.message? : MountError → Option String
  | .noWindow => some "no window"
  | .noDocument => some "no document"
  | .badSelector => some "SyntaxError"
  | .noMatch selector => some ("nothing matches " ++ Text.quoted selector)
  | .notHtml => none
  | .refused why => why.message?.map fun text => "could not mount chassis: " ++ text

/-- The chassis, the element it is mounted in, and its listeners on the window. -/
structure Mounted where
  chassis : Chassis
  mount : ElementId
  listeners : List Registration

/-- A page with a document, an animation loop, and perhaps a mounted chassis. -/
structure Browser where
  document : BrowserDocument
  animation : Animation
  translator : InputTranslator Float
  mounted : Option Mounted

namespace Browser

def start (page : Page) : Browser := ⟨.start page, .idle, .start, none⟩

def page (b : Browser) : Page := b.document.page

def onPage (b : Browser) (f : Page → Page) : Browser := { b with document := b.document.onPage f }

abbrev Step := StateT Browser (Except Breach)

def onDocument {α : Type} (act : BrowserDocument.Checked α) : Step α :=
  fun b => do
    let (a, document) ← act b.document
    return (a, { b with document })

def changePage (f : Page → Page) : Step Unit := modify fun b => b.onPage f

def noteFrame (p : Page) : FrameCall → Page
  | .request id => p.note (.requestFrame id)
  | .cancel id => p.note (.cancelFrame id)

/-- Works on the animation loop; its requests become requests to the page. -/
def animate (act : Animation → List FrameCall × Animation) (b : Browser) : Browser :=
  let (calls, animation) := act b.animation
  { b with animation }.onPage fun p => calls.foldl noteFrame p

/-- Delivers one frame to the loop, which runs `callback`. -/
def deliver {m : Type → Type} [Monad m] (callback : Float → StateT Browser m Bool) (now : Float)
    (t : FrameTicket) : StateT Browser m Unit := do
  let (run, animation) := (← get).animation.begin t
  modify fun b => { b with animation }
  if run then
    let goOn ← callback now
    modify (animate (·.finish goOn))

/-- An animation frame: all frames asked for so far are delivered. -/
def animationFrame {m : Type → Type} [Monad m] (callback : Float → StateT Browser m Bool)
    (now : Float) : StateT Browser m Unit := do
  modify fun b => b.onPage fun p => { p with now }
  (← get).animation.pending.forM (deliver callback now)

/-- A callback for a loop without a chassis: it notes the frame and gives the next of its replies,
yes when there is none left. -/
def bareFrame (now : Float) : StateT Browser (StateT (List Bool) (Except Breach)) Bool := do
  modify fun b => b.onPage fun p => p.note (.frame now p.now)
  (modifyGet fun replies => (replies.headD true, replies.tail) :
    StateT (List Bool) (Except Breach) Bool)

/-- Size of the mount. -/
def viewport (b : Browser) (m : Mounted) : Float × Float :=
  match b.page.element? m.mount with
  | some e => (Float.ofInt e.clientWidth, Float.ofInt e.clientHeight)
  | none => (0, 0)

/-- Drives the mounted chassis. -/
def drive {α : Type} (act : Float → Float → Chassis.Step α) : Step (Option (Except PatchError α)) :=
  do
    let b ← get
    match b.mounted with
    | none => return none
    | some m =>
      let (width, height) := b.viewport m
      let (result, chassis) ← onDocument (BrowserDocument.drive (act width height) m.chassis)
      modify fun b => { b with mounted := some { m with chassis } }
      return some result

variable [Wording] in
/-- One frame of the mounted chassis; the loop goes on unless it fails. -/
def chassisFrame (now : Float) : Step Bool := do
  let ratio := (← get).page.ratio
  match ← drive (Chassis.frame now ratio) with
  | some (.ok _) => return true
  | _ => return false

/-- What a listener does on an event. -/
def respond (e : PageEvent) : Handler → Step Unit
  | .bound element id binding => changePage fun p => p.report element id binding e
  | .touching sampler state =>
    modify fun b =>
      { b with document := b.document.modifyTracker sampler fun s => s.setTouching state }
  | .window .dragOver => changePage fun p => p.dragOver e
  | .window .drop => changePage fun p => p.dropFiles e
  | .window (.key event) => do
    let b ← get
    if b.page.bodyFocused then translate (.key event)
  | .window input => translate input
  | .resize => do
    let _ ← drive fun width height => (Chassis.resize width height : Script Framing Unit)
where
  translate (input : WindowInput) : Step Unit := do
    match input.raw? e with
    | none => return ()
    | some raw =>
      modify fun b =>
        let (interrupts, translator) := b.translator.translate raw
        { b with translator }.onPage fun p => p.deliverAll input.cancellable interrupts

/-- An event reaches the listeners of exactly its target. -/
def dispatch (target : EventTarget) (e : PageEvent) : Step Unit := do
  ((← get).page.heard target e.name).forM (respond e)

/-- Every timer that runs a sampler fires once. -/
def fireIntervals (b : Browser) : Browser :=
  { b with document :=
      (b.page.intervals.map (·.sampler)).foldl BrowserDocument.sample b.document }

/-- Adds a listener to the window. -/
def listen (event : String) (options : ListenerOptions) (handler : Handler) : Step Registration :=
  modifyGet fun b =>
    let (r, page) := b.page.listen .window event options handler
    (r, b.onPage fun _ => page)

/-- Adds the listeners of the window; the last one reports the size of the viewport. -/
def installInput : Step (List Registration) := do
  let input ← WindowInput.table.mapM fun (event, options, input) =>
    listen event options (.window input)
  return input ++ [← listen "resize" .bubbling .resize]

/-- Finds the element to mount into. -/
def findMount (p : Page) (selector : String) : Except MountError ElementId :=
  if p.lacks .window then .error .noWindow
  else if p.lacks .document then .error .noDocument
  else
    match p.query? selector with
    | none => .error .badSelector
    | some none => .error (.noMatch selector)
    | some (some e) => if (p.element? e).any (·.isHtml) then .ok e else .error .notHtml

/-- Mounts a chassis and starts its frames. -/
def mount (selector : String) (config : Config) : Step (Except MountError Unit) := do
  match findMount (← get).page selector with
  | .error why => return .error why
  | .ok e =>
    let root ← onDocument fun d => .ok (d.opened.adopt e)
    match ← onDocument (Script.run (I := Framing) BrowserDocument.answerFrame
        (Chassis.attach root config)) with
    | .error why => return .error (.refused why)
    | .ok chassis =>
      let listeners ← installInput
      modify fun b => { b with mounted := some ⟨chassis, e, listeners⟩ }
      modify (animate Animation.start)
      return .ok ()

/-- Text of the mounted chassis in diagnostics. -/
def describe (b : Browser) : String :=
  "WebChassis \x7b raf: " ++ b.animation.describe ++ ", initialized: " ++
    toString (b.mounted.any fun m => m.chassis.initialized) ++ ", .. \x7d"

/-- Text of a mounted chassis as the page's scripts hold it. -/
def describeHandle (b : Browser) : String := "StrataHandle \x7b inner: " ++ b.describe ++ " \x7d"

/-- The samplers of the scrollers of a scene. -/
def samplers (s : Scene) : List SamplerId :=
  s.elements.values.filterMap fun e => e.scroll.map (·.sampler)

/-- Takes the mounted chassis off the page. -/
def unmount (b : Browser) : Browser :=
  match b.mounted with
  | none => b
  | some m =>
    let b := (b.animate Animation.drop).onPage (·.unlistenAll m.listeners)
    let document :=
      ((samplers m.chassis.scene).foldl BrowserDocument.cancelSampler b.document).close
    { b with document, mounted := none }

end Browser

end LayeredPage
