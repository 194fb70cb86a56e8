import LayeredPage.Browser.Mounted
import LayeredPage.Inspect.Memory

/-!
# Reports on a page
-/

namespace LayeredPage

open Written (word)

namespace Report

def elementId (e : ElementId) : Json := count e.index

def elementIds (es : List ElementId) : Json := .array (es.map elementId)

def pageElement (e : PageElement) : Json :=
  .object ([("tag", .string e.tag)] ++ Written.member "parent" elementId e.parent ++
    omitIf e.children.isEmpty "children" (elementIds e.children) ++
    omitIf e.links.isEmpty "links" (elementIds e.links) ++
    omitIf e.attributes.isEmpty "attrs" (textNames e.attributes) ++
    omitIf e.style.isEmpty "style" (textNames e.style) ++
    omitIf (e.html == "") "html" (.string e.html) ++
    omitIf (e.value == "") "value" (.string e.value) ++
    omitIf (!e.checked) "checked" (.bool true) ++
    omitIf (e.selected == -1) "selected" (.int e.selected) ++
    Written.member "caret" count e.caret ++ Written.member "scrollLeft" .float e.scrollLeft ++
    Written.member "scrollTop" .float e.scrollTop)

/-- Unfinished tasks, intervals, timeouts, frames and listeners. -/
def pending (b : Browser) : Json :=
  let p := b.page
  .array ([p.ready.length + p.sleeping.length, p.intervals.length, p.sleeping.length,
    b.animation.pending.length, p.listeners.length].map count)

def browser (b : Browser) : Report :=
  (b.page.elements.toList.zipIdx.map fun (e, i) => (s!"el/{i}", pageElement e)) ++
    [("active", optional elementId b.page.active), ("pending", pending b)]

def target : EventTarget → Json
  | .window => .string "window"
  | .element e => elementId e

def canvasCall : CanvasCall → List Json
  | .save => [.string "save"]
  | .restore => [.string "restore"]
  | .setTransform t => [.string "set_transform", Written.affine t]
  | .clearRect x y width height => [.string "clear_rect", numbers [x, y, width, height]]
  | .scale x y => [.string "scale", numbers [x, y]]

/-- Name and arguments of a call to the page. -/
def callParts : PageCall → String × List Json
  | .core (.deallocate span) => ("deallocate", [count span.start, count span.bytes.size])
  | .core call => coreCallParts call
  | .listen t event options =>
    ("listen", [target t, .string event, .bool options.capture, .bool options.passive])
  | .unlisten r => ("unlisten", [target r.target, .string r.event, .bool r.capture])
  | .preventDefault => ("prevent_default", [])
  | .dropEffect effect => ("drop_effect", [.string effect])
  | .setInterval id delay => ("set_interval", [count id, count delay])
  | .clearInterval id => ("clear_interval", [count id])
  | .setTimeout id delay => ("set_timeout", [count id, count delay])
  | .requestFrame id => ("raf", [count id])
  | .cancelFrame id => ("cancel_raf", [count id])
  | .canvas e call => ("ctx", elementId e :: canvasCall call)
  | .observe e => ("observe", [elementId e])
  | .unobserve e => ("unobserve", [elementId e])
  | .disconnect => ("disconnect", [])
  | .fetch url => ("fetch", [.string url])
  | .offscreen width height => ("offscreen", [word width, word height])
  | .closeBitmap => ("close_bitmap", [])
  | .fontFace family source style weight =>
    ("font_face", [.string family, .string source, optional (fun s => .string s.css) style,
      optional (fun w => .string (toString w.number)) weight])
  | .addFont family => ("add_font", [.string family])
  | .selectRange e start stop => ("select", [elementId e, count start, count stop])
  | .frame timestamp now => ("frame", [.float timestamp, .float now])

def pageCall (c : PageCall) : Json :=
  let (name, arguments) := callParts c
  call name arguments

end Report

end LayeredPage
