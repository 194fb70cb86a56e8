import Std.Data.ExtTreeSet
import LayeredPage.Host.Document
import LayeredPage.Input.Identifier
import LayeredPage.Memory.Node
import LayeredPage.Text.Entities

/-!
# A document in memory

Nodes are numbered as they are created and never disappear. The operations here are total: on a node
that was never issued they do nothing. `MemoryDocument.answer` puts the check in front of them, and
turns such a node into a breach.
-/

namespace LayeredPage

/-- What a sampler feeds, and whether it still runs. -/
structure MemorySampler where
  node : NodeId
  tracker : ScrollTracker Float
  live : Bool
  interval : UInt32

structure MemoryDocument where
  nodes : Array MemoryNode
  rootProperties : Names
  observed : Std.ExtTreeSet Nat
  faces : List FaceRequest
  images : List ImageRequest
  samplers : Array MemorySampler
  focused : Option NodeId

namespace MemoryDocument

def empty : MemoryDocument := ⟨#[], ∅, ∅, [], [], #[], none⟩

def node? (d : MemoryDocument) (n : NodeId) : Option MemoryNode := d.nodes[n.index]?

def issued (d : MemoryDocument) (n : NodeId) : Bool := n.index < d.nodes.size

def modify (d : MemoryDocument) (n : NodeId) (f : MemoryNode → MemoryNode) : MemoryDocument :=
  { d with nodes := d.nodes.modify n.index f }

def create (d : MemoryDocument) (kind : NodeKind) : NodeId × MemoryDocument :=
  (⟨d.nodes.size⟩, { d with nodes := d.nodes.push (.fresh kind) })

def parent? (d : MemoryDocument) (n : NodeId) : Option NodeId := (d.node? n).bind (·.parent)

def children (d : MemoryDocument) (n : NodeId) : List NodeId :=
  match d.node? n with
  | some node => node.children
  | none => []

def attributeOf? (d : MemoryDocument) (n : NodeId) (name : String) : Option String :=
  (d.node? n).bind fun node => node.attributes[name]?

/-- Takes a node out of its parent, if it has one. -/
def detach (d : MemoryDocument) (n : NodeId) : MemoryDocument :=
  match d.parent? n with
  | some p =>
    (d.modify n fun node => { node with parent := none }).modify p fun node =>
      { node with children := node.children.filter (· ≠ n) }
  | none => d

/-- Makes `child` the last child of `parent`, wherever it was before. -/
def append (d : MemoryDocument) (parent child : NodeId) : MemoryDocument :=
  ((d.detach child).modify parent fun node =>
      { node with children := node.children ++ [child] }).modify child fun node =>
    { node with parent := some parent }

/-- Lets all children of a node go. -/
def clearChildren (d : MemoryDocument) (n : NodeId) : MemoryDocument :=
  (d.children n).foldl (fun d c => d.modify c fun node => { node with parent := none })
    (d.modify n fun node => { node with children := [] })

/-- Back to the empty state: detached, childless, unobserved, without focus. -/
def reset (d : MemoryDocument) (n : NodeId) : MemoryDocument :=
  let d := (d.detach n).clearChildren n
  { d.modify n fun node => .fresh node.kind with
    observed := d.observed.erase n.index
    focused := if d.focused = some n then none else d.focused }

def setHtml (d : MemoryDocument) (n : NodeId) (html : String) : MemoryDocument :=
  (d.clearChildren n).modify n fun node => { node with html }

def liveSamplers (d : MemoryDocument) : Nat := (d.samplers.toList.filter (·.live)).length

/-- The first live sampler on a node. -/
def samplerOn? (d : MemoryDocument) (n : NodeId) : Option SamplerId :=
  (d.samplers.findIdx? fun s => decide (s.node = n) && s.live).map fun i => ⟨i⟩

def sampler? (d : MemoryDocument) (s : SamplerId) : Option MemorySampler := d.samplers[s.index]?

def modifySampler (d : MemoryDocument) (s : SamplerId) (f : MemorySampler → MemorySampler) :
    MemoryDocument :=
  { d with samplers := d.samplers.modify s.index f }

/-- Feeds or touches what a sampler tracks. -/
def modifyTracker (d : MemoryDocument) (s : SamplerId)
    (f : ScrollTracker Float → ScrollTracker Float) : MemoryDocument :=
  d.modifySampler s fun sampler => { sampler with tracker := f sampler.tracker }

/-- The layout gives a canvas another size. -/
def setClientSize (d : MemoryDocument) (n : NodeId) (width height : Float) : MemoryDocument :=
  d.modify n fun node =>
    { node with surface.metrics :=
        { node.surface.metrics with clientWidth := width, clientHeight := height } }

/-- A document with breaches on nodes that it never issued. -/
abbrev Checked := StateT MemoryDocument (Except Breach)

def require (n : NodeId) : Checked Unit := do
  if !(← get).issued n then throw (.unissuedNode n.index)

/-- Changes an issued node. -/
def change (n : NodeId) (f : MemoryNode → MemoryNode) : Checked Unit := do
  require n
  modifyGet fun d => ((), d.modify n f)

/-- Reads an issued node. -/
def read (n : NodeId) : Checked MemoryNode := do
  match (← get).node? n with
  | some node => return node
  | none => throw (.unissuedNode n.index)

def answer : (r : DocumentRequest) → Checked r.Reply
  | .createElement kind => modifyGet fun d => d.create kind
  | .appendChild parent child => do
    require child
    require parent
    modifyGet fun d => ((), d.append parent child)
  | .detach n => do
    require n
    modifyGet fun d => ((), d.detach n)
  | .parent n => do return (← read n).parent
  | .childCount n => do return (← read n).children.length
  | .reset n => do
    require n
    modifyGet fun d => ((), d.reset n)
  | .setAttribute n name value =>
    change n fun node => { node with attributes := node.attributes.insert name value }
  | .removeAttribute n name =>
    change n fun node => { node with attributes := node.attributes.erase name }
  | .setStyle n property value =>
    change n fun node => { node with style := node.style.insert property value }
  | .removeStyle n property => change n fun node => { node with style := node.style.erase property }
  | .setLinkStyle n property value =>
    change n fun node => { node with linkStyle := node.linkStyle.insert property value }
  | .setRootProperty name value =>
    modifyGet fun d => ((), { d with rootProperties := d.rootProperties.insert name value })
  | .removeRootProperty name =>
    modifyGet fun d => ((), { d with rootProperties := d.rootProperties.erase name })
  | .setInnerHtml n html => do
    require n
    modifyGet fun d => ((), d.setHtml n html)
  | .innerHtml n => do return (← read n).html
  | .setText n text => do
    require n
    modifyGet fun d => ((), d.setHtml n (Text.escapeData text))
  | .setForm n property => change n fun node => { node with form := node.form.set property }
  | .focus n => modifyGet fun d => ((), { d with focused := some n })
  | .bindInput n id binding =>
    change n fun node => { node with bindings := node.bindings ++ [(id, binding)] }
  | .observeSize n => modifyGet fun d => ((), { d with observed := d.observed.insert n.index })
  | .unobserveSize n => modifyGet fun d => ((), { d with observed := d.observed.erase n.index })
  | .sampleScroll n tracker interval =>
    modifyGet fun d =>
      (⟨d.samplers.size⟩, { d with samplers := d.samplers.push ⟨n, tracker, true, interval⟩ })
  | .cancelSampler s =>
    modifyGet fun d => ((), d.modifySampler s fun sampler => { sampler with live := false })
  | .scrollDelta s now =>
    modifyGet fun d =>
      match d.sampler? s with
      | some sampler =>
        let (delta, tracker) := sampler.tracker.delta now
        (delta, d.modifyTracker s fun _ => tracker)
      | none => (.zero, d)
  | .surfaceMetrics n => do return (← read n).surface.metrics
  | .clearSurface n =>
    change n fun node => { node with surface.clears := node.surface.clears + 1 }
  | .resizeSurface n width height scale =>
    change n fun node =>
      { node with surface :=
          { node.surface with
            scale
            metrics :=
              { node.surface.metrics with bufferWidth := width, bufferHeight := height } } }
  | .loadFace request => modifyGet fun d => ((), { d with faces := d.faces ++ [request] })
  | .loadImage request => modifyGet fun d => ((), { d with images := d.images ++ [request] })

/-- The interrupts of a node's bindings when an event fires on it. A checkbox keeps the opposite of
what was read: the core answers with its true state. -/
def fire (n : NodeId) (event : String) (value : InputValue Float) :
    Checked (List (Interrupt Float)) := do
  let node ← read n
  let heard := node.bindings.filter fun b => b.2.event == event
  if let .checked state := value then
    if node.bindings.any fun b => decide (b.2 = .checkboxToggle) then
      change n fun node => { node with form.checked := !state }
  return heard.filterMap fun b => b.2.interrupt? b.1 value

/-- The sizes of observed nodes that carry an element id, as one interrupt. -/
def reportSizes (sizes : List (NodeId × Float × Float)) : Checked (Option (Interrupt Float)) := do
  let observed := (← get).observed
  let reports ← sizes.filterMapM fun (n, width, height) => do
    if observed.contains n.index then
      let node ← read n
      return (node.attributes[nativeIdAttribute]?.bind nativeId?).map fun id => ⟨id, width, height⟩
    else return none
  return sizesInterrupt? reports

end MemoryDocument

end LayeredPage
