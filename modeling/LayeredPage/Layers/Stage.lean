import LayeredPage.Layers.Container
import LayeredPage.Layers.Layer

/-!
# The layer stack and its clip containers

An element's layer decides its paint order against the canvases, its container decides its clipping.
Containers are logical: every layer that holds a member of a container gets a node of its own for
it, created on first use together with nodes for all its ancestors. A caller names a layer by a word
of 32 bits; layers are counted in words of 64 bits, where the successor of such a number is never
out of range.
-/

namespace LayeredPage

structure Stage extends Workshop where
  mount : NodeId
  layers : Array Layer
  containers : Std.ExtTreeMap UInt32 Container

namespace Stage

/-- The canvas of a layer. -/
def canvas? (s : Stage) (layer : Nat) : Option NodeId := (s.layers[layer]?).map (·.canvas.id)

/-- The overlay of a layer. -/
def overlay? (s : Stage) (layer : Nat) : Option NodeId := (s.layers[layer]?).map (·.overlay.id)

def containerClass : String := "clipping-container"

def containerIdAttribute : String := "data-container-id"

def onWorkshop {α : Type} (act : Work Workshop α) : Work Stage α :=
  Action.focus Stage.toWorkshop (fun w s => { s with toWorkshop := w }) act

def onPools {α : Type} (act : Work NodePools α) : Work Stage α := onWorkshop (Workshop.onPools act)

/-- Takes over `mount` and builds layer 0 in it. -/
def attach (pools : NodePools) (mount : NodeId) : Script Patching (Except PatchError Stage) := do
  let (base, workshop) ← Layer.build mount 0 ⟨pools, ∅⟩
  return base.map fun layer => ⟨workshop, mount, #[layer], ∅⟩

def addLayer : Work Stage Unit := do
  let s ← get
  let layer ← onWorkshop (Layer.build s.mount s.layers.size)
  modify fun s => { s with layers := s.layers.push layer }

def addLayers : Nat → Work Stage Unit
  | 0 => pure ()
  | count + 1 => do
    addLayer
    addLayers count

/-- Makes sure that the layers up to `top` exist. -/
def growTo (top : UInt32) : Work Stage Unit := do
  addLayers (top.toNat + 1 - (← get).layers.size)

/-- Sum of some counts. -/
def total (counts : List Nat) : Nat := counts.foldr (· + ·) 0

/-- Nodes of elements on a layer. Each container node is the child of exactly one node of the layer,
so the children beyond those are elements. -/
def members (l : Layer) : Script Patching Nat := do
  let frames := l.frames.values.map (·.id)
  let counts ← (l.overlay.id :: frames).mapM fun node => ask (.childCount node)
  return total counts - frames.length

/-- Fails on the first of these layers that still holds an element. -/
def requireVacant : List Layer → Work Stage Unit
  | [] => pure ()
  | l :: rest => do
    let count ← members l
    if 0 < count then throw (.layerInUse l.index count)
    requireVacant rest

/-- Gives a layer's container nodes back, then the layer. -/
def discard (l : Layer) : Work Stage Unit := do
  l.frames.values.forM fun node => onPools (Pools.put NodeKind.div node)
  onWorkshop l.cleanUp

def removeLayers : Nat → Work Stage Unit
  | 0 => pure ()
  | count + 1 => do
    match (← get).layers.back? with
    | none => pure ()
    | some layer =>
      modify fun s => { s with layers := s.layers.pop }
      discard layer
      removeLayers count

/-- Removes the layers above `top`, unless one of them holds an element. -/
def shrinkTo (top : UInt32) : Work Stage Unit := do
  let above := (← get).layers.toList.drop (top.toNat + 1)
  requireVacant above
  removeLayers above.length

/-- Where a container's node on a layer comes from. -/
inductive Route where
  /-- The node that is there already, and the containers below it that need a node, outermost
  first. -/
  | down (base : NodeId) (missing : List UInt32)
  | unknown (id : UInt32)
  | endless (id : UInt32)

/-- Climbs from container `id` to the first ancestor with a node on the layer, or to the overlay.
`inner` are the containers passed already. -/
def route (s : Stage) (l : Layer) : Nat → UInt32 → List UInt32 → Route
  | 0, id, _ => .endless id
  | fuel + 1, id, inner =>
    match l.frames[id]? with
    | some node => .down node.id inner
    | none =>
      match s.containers[id]? with
      | none => .unknown id
      | some c =>
        match c.parent with
        | none => .down l.overlay.id (id :: inner)
        | some p => route s l fuel p (id :: inner)

/-- Creates the node of a container on a layer, under `parent`. -/
def instantiate (layer : Nat) (parent : NodeId) (id : UInt32) : Work Stage NodeId := do
  let node ← onPools (Pools.take NodeKind.div)
  let reference := Container.clipReference id
  ask (.setAttribute node.id "class" containerClass)
  ask (.setAttribute node.id containerIdAttribute (toString id))
  ask (.setStyle node.id "clip-path" reference)
  ask (.setStyle node.id "-webkit-clip-path" reference)
  ask (.appendChild parent node.id)
  modify fun s =>
    { s with layers := s.layers.modify layer fun l => { l with frames := l.frames.insert id node } }
  return node.id

/-- The node that members of a container hang from on a layer. The stack has grown to the layer. -/
def attachPoint (container : Option UInt32) (layer : Nat) : Work Stage NodeId := do
  let s ← get
  match s.layers[layer]? with
  | none => (Script.broken (.layerMissing layer) : Script Patching NodeId)
  | some l =>
    match container with
    | none => return l.overlay.id
    | some id =>
      match s.route l (s.containers.size + 1) id [] with
      | .down parent missing => missing.foldlM (instantiate layer) parent
      | .unknown id => throw (.unknownContainer id)
      | .endless id => (Script.broken (.endlessContainers id) : Script Patching NodeId)

/-- Hangs a node under a container, or right under the overlay, on a layer. -/
def addElement (node : NodeId) (container : Option UInt32) (layer : UInt32) : Work Stage Unit := do
  growTo layer
  let target ← attachPoint container layer.toNat
  ask (.appendChild target node)

def addContainer (id : UInt32) (parent : Option UInt32) : Work Stage Unit := do
  let s ← get
  if s.containers.contains id then throw (.duplicateContainer id)
  if let some p := parent then
    if !s.containers.contains p then throw (.unknownContainer p)
  modify fun s => { s with containers := s.containers.insert id (.start parent) }

/-- Merges a geometry into a container and publishes its clip path. -/
def updateContainer (id : UInt32) (g : Geometry) : Work Stage Unit := do
  match (← get).containers[id]? with
  | none => throw (.unknownContainer id)
  | some c =>
    let c := c.merge g
    modify fun s => { s with containers := s.containers.insert id c }
    ask (.setRootProperty (Container.clipProperty id) c.clipPathCss)

/-- The nodes of a container with their layers, from the lowest up. -/
def instances (s : Stage) (id : UInt32) : List (Nat × OwnedNode) :=
  s.layers.toList.zipIdx.filterMap fun (l, i) => l.frames[id]?.map fun node => (i, node)

/-- Gives a container's node on a layer back. -/
def withdraw (id : UInt32) (layer : Nat) (node : OwnedNode) : Work Stage Unit := do
  modify fun s =>
    { s with layers := s.layers.modify layer fun l => { l with frames := l.frames.erase id } }
  onPools (Pools.put NodeKind.div node)

/-- Removes a container with its nodes and its clip path, unless one of the nodes has children. -/
def removeContainer (id : UInt32) : Work Stage Unit := do
  let s ← get
  if !s.containers.contains id then throw (.unknownContainer id)
  let found := s.instances id
  let counts ← found.mapM fun (_, node) => ask (.childCount node.id)
  let count := total counts
  if 0 < count then throw (.containerInUse id count)
  found.forM fun (layer, node) => withdraw id layer node
  modify fun s => { s with containers := s.containers.erase id }
  ask (.removeRootProperty (Container.clipProperty id))

end Stage

end LayeredPage
