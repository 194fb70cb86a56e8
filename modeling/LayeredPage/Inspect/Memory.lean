import LayeredPage.Frame.Chassis
import LayeredPage.Inspect.Report
import LayeredPage.Memory.Document
import LayeredPage.Memory.Recorder

/-!
# Reports on a document in memory and on what is built in it
-/

namespace LayeredPage

/-- Words for a program that keeps to itself what its reader says. -/
instance (priority := low) : Wording where
  shape _ := "no list of objects"
  misfit tag _ := "no payload of " ++ tag.name

open Written (word)

namespace Report

def node (n : NodeId) : Json := count n.index

def nodes (ns : List NodeId) : Json := .array (ns.map node)

def textNames (ns : Names) : Json := names ns.toList

def form (f : FormState) : Json :=
  .object ([("value", .string f.value), ("checked", .bool f.checked),
    ("scroll_left", .float f.scrollLeft), ("scroll_top", .float f.scrollTop)] ++
    Written.member "type" .string f.inputType ++ Written.member "min" .float f.min ++
    Written.member "max" .float f.max ++ Written.member "step" .float f.step ++
    Written.member "selected_index" word f.selectedIndex)

/-- Whether a form is as in a fresh node. -/
def isInitialForm (f : FormState) : Bool :=
  f.inputType.isNone && f.value == "" && !f.checked && f.min.isNone && f.max.isNone &&
    f.step.isNone && f.selectedIndex.isNone && f.scrollLeft == 0 && f.scrollTop == 0

def surface (s : SurfaceState) : Json :=
  .object [("client", numbers [s.metrics.clientWidth, s.metrics.clientHeight]),
    ("buffer", .array [word s.metrics.bufferWidth, word s.metrics.bufferHeight]),
    ("scale", .float s.scale), ("clears", count s.clears)]

/-- Whether a surface is as in a fresh node. -/
def isInitialSurface (s : SurfaceState) : Bool :=
  s.metrics.clientWidth == 0 && s.metrics.clientHeight == 0 && s.metrics.bufferWidth == 0 &&
    s.metrics.bufferHeight == 0 && s.scale == 1 && s.clears == 0

def memoryNode (d : MemoryDocument) (i : Nat) (n : MemoryNode) : Json :=
  let sampler := (d.samplerOn? ⟨i⟩).bind d.sampler?
  .object ([("kind", .string n.kind.tagName)] ++ Written.member "parent" node n.parent ++
    omitIf n.children.isEmpty "children" (nodes n.children) ++
    omitIf n.attributes.isEmpty "attrs" (textNames n.attributes) ++
    omitIf n.style.isEmpty "style" (textNames n.style) ++
    omitIf n.linkStyle.isEmpty "links" (textNames n.linkStyle) ++
    omitIf (n.html == "") "html" (.string n.html) ++
    omitIf (isInitialForm n.form) "form" (form n.form) ++
    omitIf n.bindings.isEmpty "binds"
      (.array (n.bindings.map fun (id, b) => .array [word id, .string b.name])) ++
    omitIf (isInitialSurface n.surface) "surface" (surface n.surface) ++
    omitIf (!d.observed.contains i) "observed" (.bool true) ++
    Written.member "sampler" (fun s => word s.interval) sampler ++
    Written.member "scroll" (fun s => .object (tracker s.tracker)) sampler)

def image (i : ImageRequest) : Json :=
  .array [word i.id, .string i.path, .array [word i.retry.attempts, word i.retry.initialDelay]]

def document (d : MemoryDocument) : Report :=
  (d.nodes.toList.zipIdx.map fun (n, i) => (s!"node/{i}", memoryNode d i n)) ++
    (d.rootProperties.toList.map fun (k, v) => ("root/" ++ k, .string v)) ++
    [("roots", count d.rootProperties.size), ("focused", optional node d.focused),
      ("samplers", count d.liveSamplers), ("fonts", .array (d.faces.map face)),
      ("images", .array (d.images.map image))]

def pools (ps : NodePools) : Report :=
  NodeKind.all.filterMap fun kind => (ps.get? kind).map fun p =>
    ("pool/" ++ kind.tagName, .array [count p.created, count p.available])

def container (c : Container) : Json :=
  .object [("parent", optional word c.parent), ("width", .float c.width),
    ("height", .float c.height), ("transform", Written.affine c.transform)]

def stage (s : Stage) : Report :=
  pools s.pools ++ [("mount", node s.mount),
    ("surfaces", .array (s.surfaces.toList.map fun (i, n) => .array [count i, node n]))] ++
    (s.layers.toList.map fun l =>
      (s!"layer/{l.index}",
        .array [count l.index, count l.index, node l.canvas.id, node l.overlay.id])) ++
    (s.containers.toList.map fun (id, c) => (s!"container/{id}", container c)) ++
    (s.layers.toList.flatMap fun l => l.frames.toList.map fun (id, n) =>
      ("instance/" ++ toString id ++ "/" ++ toString l.index, node n.id))

def element (e : Element) : Json :=
  .object [("kind", .string e.widget.name), ("leaf", node e.leaf.id),
    ("parts", nodes (e.parts.map (·.id))), ("options", nodes (e.options.map (·.id))),
    ("layer", word e.layer), ("scroll", .bool e.scroll.isSome)]

def scene (s : Scene) : Report :=
  stage s.toStage ++ [("elements", count s.elements.size)] ++
    (s.elements.toList.map fun (id, e) => (s!"element/{id}", element e))

def chassis (c : Chassis) : Report := scene c.scene ++ [("initialized", .bool c.initialized)]

/-- Name and arguments of a call to the core; of a span only the size shows. -/
def coreCallParts : CoreCall → String × List Json
  | .addContext n => ("add_context", [count n])
  | .removeContext n => ("remove_context", [count n])
  | .viewport w h => ("viewport", [.float w, .float h])
  | .interrupt text payload =>
    ("interrupt", [.string text, optional (fun b => .string (Text.hexOf b)) payload])
  | .imageLoaded path => ("image_loaded", [.string path])
  | .tick => ("tick", [])
  | .render => ("render", [])
  | .deallocate span => ("deallocate", [count span.bytes.size])

def call (name : String) (arguments : List Json) : Json := .array (.string name :: arguments)

def coreCall (c : CoreCall) : Json :=
  let (name, arguments) := coreCallParts c
  call name arguments

end Report

end LayeredPage
